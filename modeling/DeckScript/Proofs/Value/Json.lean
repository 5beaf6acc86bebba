import DeckScript.Proofs.Number.Pattern
import DeckScript.Value.Json
import Std.Data.String.ToInt

/-!
# The JSON text of a value determines the value

A value without fractions can be told from its JSON text, and the text has printable
characters of ASCII only.  What is written inside a string cannot be taken for the
structure around it, since quotes and backslashes inside are escaped.

* `write_append_inj`: two values whose texts agree, with whatever follows them that is no
  digit, are equal, and so is what follows.
* `isPrintableAscii_of_mem_write`: the characters of the text.

## Strategy

A written piece is self-delimiting: it can be cancelled from the front of a text, and
what is left is the same on both sides.  For characters this is shown by reading them
back (`readChar?`), which needs one case for each way of escaping instead of one for
each two of them.  Integers are cancelled as a run of digits, so they need a character
after them that is none; items and entries are cancelled one after the other up to the
bracket that closes them.  Which kind of value comes next is told by its first
character, `lead`.
-/

namespace DeckScript.Value

/-! ## Values without fractions -/

/-- The numbers in the value are integers within the limit for writing. -/
inductive Integral : Value → Prop
  | none : Integral .none
  | bool (b : Bool) : Integral (.bool b)
  | int {n : Int} (hn : n.natAbs < Number.writeLimit) : Integral (.number (.int n))
  | text (s : String) : Integral (.text s)
  | list {items : List Value} (hitems : ∀ item ∈ items, Integral item) : Integral (.list items)
  | dict {entries : List (String × Value)} (hentries : ∀ entry ∈ entries, Integral entry.2) :
      Integral (.dict entries)

theorem areWritable_of_forall {items : List Value}
    (hitems : ∀ item ∈ items, item.isWritable = true) : areWritable items = true := by
  induction items with
  | nil => rfl
  | cons item rest ih =>
    rw [List.forall_mem_cons] at hitems
    rw [areWritable, hitems.1, ih hitems.2, Bool.and_true]

theorem areWritableEntries_of_forall {entries : List (String × Value)}
    (hentries : ∀ entry ∈ entries, entry.2.isWritable = true) :
    areWritableEntries entries = true := by
  induction entries with
  | nil => rfl
  | cons entry rest ih =>
    rw [List.forall_mem_cons] at hentries
    rw [areWritableEntries, hentries.1, ih hentries.2, Bool.and_true]

theorem Integral.isWritable {value : Value} (hvalue : Integral value) :
    value.isWritable = true := by
  induction hvalue with
  | none => rfl
  | bool b => rfl
  | int hn => exact decide_eq_true hn
  | text s => rfl
  | list hitems ih => exact areWritable_of_forall ih
  | dict hentries ih => exact areWritableEntries_of_forall ih

namespace Json

open Text

/-! ## Ways of writing a character -/

/-- A character from the blank to the tilde. -/
def IsPrintableAscii (c : Char) : Prop :=
  32 ≤ c.toNat ∧ c.toNat < 127

instance : DecidablePred IsPrintableAscii := fun c =>
  inferInstanceAs (Decidable (32 ≤ c.toNat ∧ c.toNat < 127))

/-- The characters that have an escape of their own, with what follows the backslash. -/
def shortEscapes : List (Char × Char) :=
  [('"', '"'), ('\\', '\\'), ('\n', 'n'), ('\r', 'r'), ('\t', 't'), ('\x08', 'b'), ('\x0c', 'f')]

/-- A character stands after a backslash, for itself, or is written by one or two units. -/
theorem writeChar_cases (c : Char) :
    (∃ e, (c, e) ∈ shortEscapes ∧ writeChar c = ['\\', e]) ∨
      (c ≠ '\\' ∧ IsPrintableAscii c ∧ writeChar c = [c]) ∨
      (c.toNat < 0x10000 ∧ writeChar c = escapeUnit c.toNat) ∨
      (¬c.toNat < 0x10000 ∧
        writeChar c = escapeUnit (0xD800 + (c.toNat - 0x10000) / 0x400) ++
          escapeUnit (0xDC00 + (c.toNat - 0x10000) % 0x400)) := by
  by_cases hshort : ∃ e, (c, e) ∈ shortEscapes
  · obtain ⟨e, he⟩ := hshort
    have hwrite : ∀ pair ∈ shortEscapes, writeChar pair.1 = ['\\', pair.2] := by decide
    exact .inl ⟨e, he, hwrite _ he⟩
  · refine .inr ?_
    simp only [shortEscapes, List.mem_cons, Prod.mk.injEq, List.not_mem_nil, or_false,
      exists_or, exists_and_left, exists_eq, and_true, not_or] at hshort
    obtain ⟨hquote, hbackslash, hn, hr, ht, hb, hf⟩ := hshort
    rw [writeChar, if_neg hquote, if_neg hbackslash, if_neg hn, if_neg hr, if_neg ht, if_neg hb,
      if_neg hf]
    by_cases hprintable : 32 ≤ c.toNat ∧ c.toNat < 127
    · exact .inl ⟨hbackslash, hprintable, if_pos hprintable⟩
    · rw [if_neg hprintable]
      by_cases hbasic : c.toNat < 0x10000
      · exact .inr (.inl ⟨hbasic, if_pos hbasic⟩)
      · exact .inr (.inr ⟨hbasic, if_neg hbasic⟩)

/-! ## Reading characters back -/

/-- The value of a hexadecimal digit. -/
def hexValue (c : Char) : Nat :=
  if c.isDigit then c.toNat - 48 else c.toNat - 87

/-- Reads a UTF-16 unit that is written by its code. -/
def readUnit? : List Char → Option (Nat × List Char)
  | '\\' :: 'u' :: a :: b :: c :: d :: rest =>
    some (4096 * hexValue a + 256 * hexValue b + 16 * hexValue c + hexValue d, rest)
  | _ => .none

/-- Reads a character that is written by its units.  The first of two is a high surrogate. -/
def readUnits? (cs : List Char) : Option (Char × List Char) :=
  match readUnit? cs with
  | .none => .none
  | some (high, rest) =>
    if 0xD800 ≤ high ∧ high < 0xDC00 then
      (readUnit? rest).map fun low =>
        (Char.ofNat (0x10000 + 0x400 * (high - 0xD800) + (low.1 - 0xDC00)), low.2)
    else some (Char.ofNat high, rest)

/-- Reads a character of which the backslash has been read. -/
def readEscape? : List Char → Option (Char × List Char)
  | '"' :: rest => some ('"', rest)
  | '\\' :: rest => some ('\\', rest)
  | 'n' :: rest => some ('\n', rest)
  | 'r' :: rest => some ('\r', rest)
  | 't' :: rest => some ('\t', rest)
  | 'b' :: rest => some ('\x08', rest)
  | 'f' :: rest => some ('\x0c', rest)
  | rest => readUnits? ('\\' :: rest)

/-- Reads a character of a JSON string. -/
def readChar? : List Char → Option (Char × List Char)
  | [] => .none
  | c :: rest => if c = '\\' then readEscape? rest else some (c, rest)

theorem hexValue_digitChar : ∀ d < 16, hexValue (Nat.digitChar d) = d := by
  decide

theorem hexDigits_four (n : Nat) :
    hexDigits 4 n =
      [Nat.digitChar (n / 4096 % 16), Nat.digitChar (n / 256 % 16), Nat.digitChar (n / 16 % 16),
        Nat.digitChar (n % 16)] := by
  simp [hexDigits, Nat.div_div_eq_div_mul]

theorem readUnit?_escapeUnit {n : Nat} (hn : n < 0x10000) (rest : List Char) :
    readUnit? (escapeUnit n ++ rest) = some (n, rest) := by
  have hdigit (k : Nat) : hexValue (Nat.digitChar (k % 16)) = k % 16 :=
    hexValue_digitChar (k % 16) (Nat.mod_lt k (by decide))
  have hunit : 4096 * (n / 4096 % 16) + 256 * (n / 256 % 16) + 16 * (n / 16 % 16) + n % 16 = n := by
    omega
  simp only [escapeUnit, hexDigits_four, List.cons_append, List.nil_append, readUnit?, hdigit,
    hunit]

/-- A character is no surrogate. -/
theorem toNat_cases (c : Char) : c.toNat < 0xD800 ∨ 0xDFFF < c.toNat ∧ c.toNat < 0x110000 :=
  c.valid

theorem readUnits?_basic {c : Char} (hc : c.toNat < 0x10000) (rest : List Char) :
    readUnits? (escapeUnit c.toNat ++ rest) = some (c, rest) := by
  have hscalar := toNat_cases c
  rw [readUnits?, readUnit?_escapeUnit hc]
  dsimp only
  rw [if_neg (by omega), Char.ofNat_toNat]

theorem readUnits?_beyond {c : Char} (hc : ¬c.toNat < 0x10000) (rest : List Char) :
    readUnits? (escapeUnit (0xD800 + (c.toNat - 0x10000) / 0x400) ++
      (escapeUnit (0xDC00 + (c.toNat - 0x10000) % 0x400) ++ rest)) = some (c, rest) := by
  have hscalar := toNat_cases c
  have hcode : 0x10000 + 0x400 * (0xD800 + (c.toNat - 0x10000) / 0x400 - 0xD800) +
      (0xDC00 + (c.toNat - 0x10000) % 0x400 - 0xDC00) = c.toNat := by
    omega
  rw [readUnits?, readUnit?_escapeUnit (by omega)]
  dsimp only
  rw [if_pos (by omega), readUnit?_escapeUnit (by omega), Option.map_some, hcode, Char.ofNat_toNat]

theorem readChar?_escapeUnit (n : Nat) (rest : List Char) :
    readChar? (escapeUnit n ++ rest) = readUnits? (escapeUnit n ++ rest) := by
  rw [escapeUnit, List.cons_append, List.cons_append, readChar?, if_pos rfl]
  rfl

theorem readChar?_cons {c : Char} (hc : c ≠ '\\') (rest : List Char) :
    readChar? (c :: rest) = some (c, rest) :=
  if_neg hc

theorem readChar?_of_mem_shortEscapes {c e : Char} (he : (c, e) ∈ shortEscapes)
    (rest : List Char) : readChar? ('\\' :: e :: rest) = some (c, rest) := by
  simp only [shortEscapes, List.mem_cons, Prod.mk.injEq, List.not_mem_nil, or_false] at he
  rcases he with ⟨rfl, rfl⟩ | ⟨rfl, rfl⟩ | ⟨rfl, rfl⟩ | ⟨rfl, rfl⟩ | ⟨rfl, rfl⟩ | ⟨rfl, rfl⟩ |
    ⟨rfl, rfl⟩ <;> rfl

/-- What is written for a character is read as that character, whatever follows. -/
theorem readChar?_writeChar (c : Char) (rest : List Char) :
    readChar? (writeChar c ++ rest) = some (c, rest) := by
  rcases writeChar_cases c with ⟨e, he, hwrite⟩ | ⟨hbackslash, -, hwrite⟩ | ⟨hbasic, hwrite⟩ |
    ⟨hbeyond, hwrite⟩ <;> rw [hwrite]
  · exact readChar?_of_mem_shortEscapes he rest
  · exact readChar?_cons hbackslash rest
  · rw [readChar?_escapeUnit, readUnits?_basic hbasic]
  · rw [List.append_assoc, readChar?_escapeUnit, readUnits?_beyond hbeyond]

/-! ## Strings -/

theorem writeChar_append_inj {c d : Char} {r s : List Char}
    (h : writeChar c ++ r = writeChar d ++ s) : c = d ∧ r = s := by
  have hread := readChar?_writeChar c r
  rw [h, readChar?_writeChar] at hread
  simpa [eq_comm] using hread

/-- No character is written with a quote in front. -/
theorem writeChar_append_ne (c : Char) (rest tail : List Char) :
    writeChar c ++ rest ≠ '"' :: tail := by
  intro h
  have hread := readChar?_writeChar c rest
  rw [h, readChar?_cons (by decide), Option.some.injEq, Prod.mk.injEq] at hread
  obtain ⟨rfl, -⟩ := hread
  exact absurd (List.cons.inj h).1 (by decide)

theorem flatMap_writeChar_append_inj {cs ds r s : List Char}
    (h : cs.flatMap writeChar ++ '"' :: r = ds.flatMap writeChar ++ '"' :: s) :
    cs = ds ∧ r = s := by
  induction cs generalizing ds with
  | nil =>
    cases ds with
    | nil => exact ⟨rfl, (List.cons.inj h).2⟩
    | cons d ds =>
      rw [List.flatMap_cons, List.append_assoc] at h
      exact absurd h.symm (writeChar_append_ne d _ _)
  | cons c cs ih =>
    rw [List.flatMap_cons, List.append_assoc] at h
    cases ds with
    | nil => exact absurd h (writeChar_append_ne c _ _)
    | cons d ds =>
      rw [List.flatMap_cons, List.append_assoc] at h
      obtain ⟨rfl, hrest⟩ := writeChar_append_inj h
      obtain ⟨rfl, hafter⟩ := ih hrest
      exact ⟨rfl, hafter⟩

theorem writeString_append_inj {s t : String} {r u : List Char}
    (h : writeString s ++ r = writeString t ++ u) : s = t ∧ r = u := by
  simp only [writeString, List.cons_append, List.append_assoc, List.nil_append,
    List.cons.injEq, true_and] at h
  obtain ⟨hchars, hafter⟩ := flatMap_writeChar_append_inj h
  exact ⟨String.toList_inj.1 hchars, hafter⟩

/-! ## Integers -/

/-- Whether a character can be part of a written integer. -/
def isIntegerChar (c : Char) : Bool :=
  c == '-' || c.isDigit

/-- The text does not go on with a character that could be part of an integer. -/
def EndsInteger (rest : List Char) : Prop :=
  ∀ c ∈ rest.head?, isIntegerChar c = false

theorem endsInteger_cons {c : Char} (hc : isIntegerChar c = false) (rest : List Char) :
    EndsInteger (c :: rest) := by
  intro d hd
  obtain rfl : c = d := by simpa using hd
  exact hc

theorem isIntegerChar_of_mem_repr {n : Int} {c : Char} (hc : c ∈ n.repr.toList) :
    isIntegerChar c = true := by
  have hdigits : ∀ d ∈ Nat.toDigits 10 n.natAbs, isIntegerChar d = true := by
    intro d hd
    rw [isIntegerChar, Nat.isDigit_of_mem_toDigits (by decide) (by decide) hd, Bool.or_true]
  rw [Number.toList_repr] at hc
  split at hc
  · rcases List.mem_cons.1 hc with rfl | hc
    · rfl
    · exact hdigits c hc
  · exact hdigits c hc

theorem repr_ne_nil (n : Int) : n.repr.toList ≠ [] := by
  rw [Number.toList_repr]
  split
  · exact List.cons_ne_nil _ _
  · exact Nat.toDigits_ne_nil

theorem EndsInteger.takeWhile_append {rest : List Char} (hrest : EndsInteger rest) (n : Int) :
    (n.repr.toList ++ rest).takeWhile isIntegerChar = n.repr.toList := by
  have hnone : rest.takeWhile isIntegerChar = [] := by
    cases rest with
    | nil => rfl
    | cons c rest => simp [hrest c rfl]
  rw [List.takeWhile_append_of_pos fun c hc => isIntegerChar_of_mem_repr hc, hnone,
    List.append_nil]

theorem repr_append_inj {m n : Int} {r s : List Char} (hr : EndsInteger r) (hs : EndsInteger s)
    (h : m.repr.toList ++ r = n.repr.toList ++ s) : m = n ∧ r = s := by
  have hsame : m.repr.toList = n.repr.toList := by
    rw [← hr.takeWhile_append m, h, hs.takeWhile_append]
  rw [hsame, List.append_cancel_left_eq] at h
  exact ⟨Int.repr_injective (String.toList_inj.1 hsame), h⟩

/-! ## Items and entries -/

/-- Wherever the two texts agree together with what follows them, `same` holds, and what follows
agrees as well. -/
def Cancels (text text' : List Char) (same : Prop) : Prop :=
  ∀ r s, EndsInteger r → EndsInteger s → text ++ r = text' ++ s → same ∧ r = s

section

variable {α : Type}

/-- Written things with separators between them. -/
def separated (write : α → List Char) : List α → List Char
  | [] => []
  | a :: rest => write a ++ rest.flatMap fun b => ',' :: ' ' :: write b

/-- An entry of a dictionary. -/
def writeEntry (entry : String × Value) : List Char :=
  writeString entry.1 ++ ':' :: ' ' :: write entry.2

theorem writeItems_eq (items : List Value) : writeItems items = separated write items := by
  induction items with
  | nil => rfl
  | cons item rest ih =>
    cases rest with
    | nil => simp [writeItems, separated]
    | cons next rest => simp [writeItems, separated, ih]

theorem writeEntries_eq (entries : List (String × Value)) :
    writeEntries entries = separated writeEntry entries := by
  induction entries with
  | nil => rfl
  | cons entry rest ih =>
    cases rest with
    | nil => simp [writeEntries, separated, writeEntry]
    | cons next rest => simp [writeEntries, separated, writeEntry, ih]

theorem write_list (items : List Value) :
    write (.list items) = '[' :: separated write items ++ [']'] := by
  rw [← writeItems_eq]
  rfl

theorem write_dict (entries : List (String × Value)) :
    write (.dict entries) = '\x7b' :: separated writeEntry entries ++ ['\x7d'] := by
  rw [← writeEntries_eq]
  rfl

variable {write : α → List Char} {close : Char}

theorem endsInteger_flatMap (hclose : isIntegerChar close = false) (as : List α)
    (rest : List Char) :
    EndsInteger ((as.flatMap fun a => ',' :: ' ' :: write a) ++ close :: rest) := by
  cases as with
  | nil => exact endsInteger_cons hclose rest
  | cons a as => exact endsInteger_cons rfl _

variable (hcomma : close ≠ ',') (hclose : isIntegerChar close = false)
include hcomma hclose

/-- After a separator, things can be cancelled one by one up to the closing bracket. -/
theorem flatMap_append_inj {as bs : List α} {r s : List Char}
    (hinj : ∀ a ∈ as, ∀ b ∈ bs, Cancels (write a) (write b) (a = b))
    (h : (as.flatMap fun a => ',' :: ' ' :: write a) ++ close :: r =
      (bs.flatMap fun b => ',' :: ' ' :: write b) ++ close :: s) :
    as = bs ∧ r = s := by
  induction as generalizing bs with
  | nil =>
    cases bs with
    | nil => exact ⟨rfl, (List.cons.inj h).2⟩
    | cons b bs => exact absurd (List.cons.inj h).1 hcomma
  | cons a as ih =>
    cases bs with
    | nil => exact absurd (List.cons.inj h).1.symm hcomma
    | cons b bs =>
      simp only [List.flatMap_cons, List.cons_append, List.append_assoc, List.cons.injEq,
        true_and] at h
      obtain ⟨rfl, hrest⟩ := hinj a List.mem_cons_self b List.mem_cons_self _ _
        (endsInteger_flatMap hclose as r) (endsInteger_flatMap hclose bs s) h
      have hlater : ∀ a ∈ as, ∀ b ∈ bs, Cancels (write a) (write b) (a = b) :=
        fun a ha b hb => hinj a (List.mem_cons_of_mem _ ha) b (List.mem_cons_of_mem _ hb)
      obtain ⟨rfl, hafter⟩ := ih hlater hrest
      exact ⟨rfl, hafter⟩

theorem separated_append_inj {as bs : List α} {r s : List Char}
    (hopen : ∀ a, a ∈ as ∨ a ∈ bs → ∀ rest tail, write a ++ rest ≠ close :: tail)
    (hinj : ∀ a ∈ as, ∀ b ∈ bs, Cancels (write a) (write b) (a = b))
    (h : separated write as ++ close :: r = separated write bs ++ close :: s) :
    as = bs ∧ r = s := by
  cases as with
  | nil =>
    cases bs with
    | nil => exact ⟨rfl, (List.cons.inj h).2⟩
    | cons b bs =>
      rw [separated.eq_2, List.append_assoc] at h
      exact absurd h.symm (hopen b (.inr List.mem_cons_self) _ _)
  | cons a as =>
    rw [separated, List.append_assoc] at h
    cases bs with
    | nil => exact absurd h (hopen a (.inl List.mem_cons_self) _ _)
    | cons b bs =>
      rw [separated, List.append_assoc] at h
      obtain ⟨rfl, hrest⟩ := hinj a List.mem_cons_self b List.mem_cons_self _ _
        (endsInteger_flatMap hclose as r) (endsInteger_flatMap hclose bs s) h
      obtain ⟨rfl, hafter⟩ := flatMap_append_inj hcomma hclose
        (fun a ha b hb => hinj a (List.mem_cons_of_mem _ ha) b (List.mem_cons_of_mem _ hb)) hrest
      exact ⟨rfl, hafter⟩

end

/-! ## Values -/

/-- The character that a value starts with; that of a number stands for all of them. -/
def lead : Value → Char
  | .none => 'n'
  | .bool true => 't'
  | .bool false => 'f'
  | .number _ => '-'
  | .text _ => '"'
  | .list _ => '['
  | .dict _ => '\x7b'

/-- The characters that integers start with are not told apart. -/
def leadOf (c : Char) : Char :=
  if isIntegerChar c then '-' else c

theorem exists_write_append {value : Value} (hvalue : Integral value) (rest : List Char) :
    ∃ c cs, write value ++ rest = c :: cs ∧ leadOf c = lead value := by
  cases hvalue with
  | none => exact ⟨_, _, rfl, rfl⟩
  | bool b => cases b <;> exact ⟨_, _, rfl, rfl⟩
  | @int n hn =>
    obtain ⟨c, cs, hrepr⟩ := List.exists_cons_of_ne_nil (repr_ne_nil n)
    have hc : isIntegerChar c = true :=
      isIntegerChar_of_mem_repr (n := n) (by rw [hrepr]; exact List.mem_cons_self)
    refine ⟨c, cs ++ rest, ?_, by rw [leadOf, if_pos hc, lead]⟩
    show n.repr.toList ++ rest = c :: (cs ++ rest)
    rw [hrepr, List.cons_append]
  | text s => exact ⟨_, _, rfl, rfl⟩
  | list hitems => exact ⟨_, _, rfl, rfl⟩
  | dict hentries => exact ⟨_, _, rfl, rfl⟩

theorem lead_eq_of_write_append {value other : Value} (hvalue : Integral value)
    (hother : Integral other) {r s : List Char} (h : write value ++ r = write other ++ s) :
    lead value = lead other := by
  obtain ⟨c, cs, hc, hlead⟩ := exists_write_append hvalue r
  obtain ⟨d, ds, hd, hlead'⟩ := exists_write_append hother s
  rw [hc, hd] at h
  rw [← hlead, ← hlead', (List.cons.inj h).1]

/-- No value starts with the bracket that ends a list. -/
theorem write_append_ne {value : Value} (hvalue : Integral value) (rest tail : List Char) :
    write value ++ rest ≠ ']' :: tail := by
  intro h
  obtain ⟨c, cs, hc, hlead⟩ := exists_write_append hvalue rest
  rw [hc] at h
  rw [(List.cons.inj h).1] at hlead
  have hbracket : leadOf ']' = ']' := rfl
  rw [hbracket] at hlead
  cases hvalue with
  | bool b => cases b <;> simp [lead] at hlead
  | _ => simp [lead] at hlead

theorem Cancels.writeEntry {entry other : String × Value}
    (hvalue : Cancels (write entry.2) (write other.2) (entry.2 = other.2)) :
    Cancels (writeEntry entry) (writeEntry other) (entry = other) := by
  intro r s hr hs h
  simp only [Json.writeEntry, List.append_assoc, List.cons_append] at h
  obtain ⟨hname, hrest⟩ := writeString_append_inj h
  obtain ⟨hsame, hafter⟩ := hvalue r s hr hs (by simpa using hrest)
  exact ⟨Prod.ext hname hsame, hafter⟩

/-- **The text determines the value** and where it ends, unless it is followed by more digits. -/
theorem write_append_inj {value other : Value} (hvalue : Integral value)
    (hother : Integral other) {r s : List Char} (hr : EndsInteger r) (hs : EndsInteger s)
    (h : write value ++ r = write other ++ s) : value = other ∧ r = s := by
  have hlead := lead_eq_of_write_append hvalue hother h
  induction hvalue generalizing other r s with
  | none =>
    cases hother with
    | none => exact ⟨rfl, List.append_cancel_left h⟩
    | bool b => cases b <;> simp [lead] at hlead
    | _ => simp [lead] at hlead
  | bool b =>
    cases hother with
    | bool b' =>
      obtain rfl : b = b' := by cases b <;> cases b' <;> simp [lead] at hlead ⊢
      exact ⟨rfl, List.append_cancel_left h⟩
    | _ => cases b <;> simp [lead] at hlead
  | int hn =>
    cases hother with
    | int hm =>
      obtain ⟨rfl, hafter⟩ := repr_append_inj hr hs h
      exact ⟨rfl, hafter⟩
    | bool b => cases b <;> simp [lead] at hlead
    | _ => simp [lead] at hlead
  | text t =>
    cases hother with
    | text t' =>
      obtain ⟨rfl, hafter⟩ := writeString_append_inj h
      exact ⟨rfl, hafter⟩
    | bool b => cases b <;> simp [lead] at hlead
    | _ => simp [lead] at hlead
  | list hitems ih =>
    cases hother with
    | list hitems' =>
      simp only [write_list, List.cons_append, List.append_assoc, List.nil_append,
        List.cons.injEq, true_and] at h
      obtain ⟨rfl, hafter⟩ := separated_append_inj (by decide) (by decide)
        (fun item hitem => write_append_ne (hitem.elim (hitems item) (hitems' item)))
        (fun item hitem other hother r s hr hs heq =>
          ih item hitem (hitems' other hother) hr hs heq
            (lead_eq_of_write_append (hitems item hitem) (hitems' other hother) heq)) h
      exact ⟨rfl, hafter⟩
    | bool b => cases b <;> simp [lead] at hlead
    | _ => simp [lead] at hlead
  | dict hentries ih =>
    cases hother with
    | dict hentries' =>
      simp only [write_dict, List.cons_append, List.append_assoc, List.nil_append,
        List.cons.injEq, true_and] at h
      obtain ⟨rfl, hafter⟩ := separated_append_inj (by decide) (by decide)
        (fun entry _ rest tail heq => absurd (List.cons.inj heq).1 (by decide))
        (fun entry hentry other hother => .writeEntry fun r s hr hs heq =>
          ih entry hentry (hentries' other hother) hr hs heq
            (lead_eq_of_write_append (hentries entry hentry) (hentries' other hother) heq)) h
      exact ⟨rfl, hafter⟩
    | bool b => cases b <;> simp [lead] at hlead
    | _ => simp [lead] at hlead

/-! ## Printable characters -/

theorem isPrintableAscii_digitChar : ∀ d < 16, IsPrintableAscii (Nat.digitChar d) := by
  decide

theorem isPrintableAscii_of_mem_escapeUnit {n : Nat} {c : Char} (hc : c ∈ escapeUnit n) :
    IsPrintableAscii c := by
  have hdigit (k : Nat) : IsPrintableAscii (Nat.digitChar (k % 16)) :=
    isPrintableAscii_digitChar (k % 16) (Nat.mod_lt k (by decide))
  rw [escapeUnit, hexDigits_four] at hc
  simp only [List.mem_cons, List.not_mem_nil, or_false] at hc
  rcases hc with rfl | rfl | rfl | rfl | rfl | rfl
  · decide
  · decide
  all_goals exact hdigit _

theorem isPrintableAscii_of_mem_shortEscapes :
    ∀ pair ∈ shortEscapes, IsPrintableAscii pair.2 := by
  decide

theorem isPrintableAscii_of_mem_writeChar {c d : Char} (hd : d ∈ writeChar c) :
    IsPrintableAscii d := by
  rcases writeChar_cases c with ⟨e, he, hwrite⟩ | ⟨-, hprintable, hwrite⟩ | ⟨-, hwrite⟩ |
    ⟨-, hwrite⟩ <;> rw [hwrite] at hd
  · rcases List.mem_pair.1 hd with rfl | rfl
    · decide
    · exact isPrintableAscii_of_mem_shortEscapes _ he
  · exact List.mem_singleton.1 hd ▸ hprintable
  · exact isPrintableAscii_of_mem_escapeUnit hd
  · rcases List.mem_append.1 hd with hd | hd
    · exact isPrintableAscii_of_mem_escapeUnit hd
    · exact isPrintableAscii_of_mem_escapeUnit hd

theorem isPrintableAscii_of_mem_writeString {s : String} {c : Char} (hc : c ∈ writeString s) :
    IsPrintableAscii c := by
  simp only [writeString, List.mem_append, List.mem_cons, List.not_mem_nil, or_false] at hc
  rcases hc with (rfl | hc) | rfl
  · decide
  · obtain ⟨d, -, hd⟩ := List.mem_flatMap.1 hc
    exact isPrintableAscii_of_mem_writeChar hd
  · decide

theorem isPrintableAscii_of_isIntegerChar {c : Char} (hc : isIntegerChar c = true) :
    IsPrintableAscii c := by
  rw [isIntegerChar, Bool.or_eq_true, beq_iff_eq] at hc
  rcases hc with rfl | hc
  · decide
  · have hbounds : 48 ≤ c.toNat ∧ c.toNat ≤ 57 := Char.isDigit_iff_toNat.1 hc
    constructor <;> omega

theorem isPrintableAscii_of_mem_separated {α : Type} {write : α → List Char} {as : List α}
    (hwrite : ∀ a ∈ as, ∀ c ∈ write a, IsPrintableAscii c) :
    ∀ c ∈ separated write as, IsPrintableAscii c := by
  intro c hc
  cases as with
  | nil => cases hc
  | cons a as =>
    rcases List.mem_append.1 hc with hc | hc
    · exact hwrite a List.mem_cons_self c hc
    · obtain ⟨b, hb, hc⟩ := List.mem_flatMap.1 hc
      rcases List.mem_cons.1 hc with rfl | hc
      · decide
      rcases List.mem_cons.1 hc with rfl | hc
      · decide
      · exact hwrite b (List.mem_cons_of_mem a hb) c hc

/-- The text of a value has printable characters of ASCII only; in particular it is one line. -/
theorem isPrintableAscii_of_mem_write {value : Value} (hvalue : Integral value) :
    ∀ c ∈ write value, IsPrintableAscii c := by
  have hall {cs : List Char} (h : cs.all fun c => decide (IsPrintableAscii c)) :
      ∀ c ∈ cs, IsPrintableAscii c := by
    simpa using h
  induction hvalue with
  | none => exact hall (by decide)
  | bool b => cases b <;> exact hall (by decide)
  | int hn => exact fun c hc => isPrintableAscii_of_isIntegerChar (isIntegerChar_of_mem_repr hc)
  | text s => exact fun c hc => isPrintableAscii_of_mem_writeString hc
  | list hitems ih =>
    intro c hc
    simp only [write_list, List.mem_append, List.mem_cons, List.not_mem_nil,
      or_false] at hc
    rcases hc with (rfl | hc) | rfl
    · decide
    · exact isPrintableAscii_of_mem_separated ih c hc
    · decide
  | dict hentries ih =>
    intro c hc
    simp only [write_dict, List.mem_append, List.mem_cons, List.not_mem_nil,
      or_false] at hc
    rcases hc with (rfl | hc) | rfl
    · decide
    · refine isPrintableAscii_of_mem_separated (fun entry hentry d hd => ?_) c hc
      simp only [writeEntry, List.mem_append, List.mem_cons] at hd
      rcases hd with hd | rfl | rfl | hd
      · exact isPrintableAscii_of_mem_writeString hd
      · decide
      · decide
      · exact ih entry hentry d hd
    · decide

end Json

end DeckScript.Value
