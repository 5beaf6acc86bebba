import Mathlib.Data.List.DropRight
import DeckScript.Text.Blank
import DeckScript.Text.Case
import DeckScript.Text.Word

/-!
# Words, blanks and the ends of texts

A text is trimmed exactly if it neither starts nor ends with a blank.  Texts put
together from words and single spaces are trimmed as soon as their first and last
parts are, and indentation disappears under trimming.

Word characters are never blanks.  Both classes are tables of code ranges, so this
comes down to a comparison of the two tables.  Facts about the letters of ASCII are
checked code by code.
-/

namespace DeckScript.Text

/-! ## Blanks and word characters -/

@[simp] theorem isBlank_space : isBlank ' ' = true := by decide

@[simp] theorem isWord_space : isWord ' ' = false := by decide

@[simp] theorem isBlank_quote : isBlank '"' = false := by decide

/-- No range of the first table meets one of the second. -/
def CodeRanges.disjoint (first second : CodeRanges) : Bool :=
  first.all fun range => second.all fun other => decide (range.2 < other.1 ∨ other.2 < range.1)

theorem CodeRanges.not_contains_of_disjoint {first second : CodeRanges}
    (hdisjoint : first.disjoint second = true) {n : Nat} (hn : first.contains n = true) :
    second.contains n = false := by
  simp only [CodeRanges.disjoint, List.all_eq_true, decide_eq_true_eq] at hdisjoint
  obtain ⟨range, hrange, hlow, hhigh⟩ := (contains_eq_true_iff first n).mp hn
  rw [Bool.eq_false_iff]
  intro hcontains
  obtain ⟨other, hother, hlow', hhigh'⟩ := (contains_eq_true_iff second n).mp hcontains
  have := hdisjoint range hrange other hother
  omega

theorem blankRanges_disjoint_wordRanges : blankRanges.disjoint wordRanges = true := by
  decide +kernel

/-- What holds for the codes below 128 holds for the characters of ASCII. -/
theorem ascii_induction {P : Char → Prop} (hcodes : ∀ n < 128, P (Char.ofNat n)) {c : Char}
    (hascii : c.toNat < 128) : P c := by
  have := hcodes c.toNat hascii
  rwa [Char.ofNat_toNat] at this

theorem unbroken_of_any {cs : List Char} (hcs : cs.any isBlank = false) :
    ∀ c ∈ cs, isBlank c = false := by
  simpa using hcs

theorem isWord_eq_false_of_isBlank {c : Char} (hblank : isBlank c = true) : isWord c = false := by
  by_cases hascii : c.toNat < 128
  · have hcodes : ∀ n < 128, isBlank (Char.ofNat n) = true → isWord (Char.ofNat n) = false := by
      decide
    exact ascii_induction (P := fun c => isBlank c = true → isWord c = false) hcodes hascii hblank
  · rw [isWord, if_neg hascii]
    exact CodeRanges.not_contains_of_disjoint blankRanges_disjoint_wordRanges hblank

theorem isBlank_eq_false_of_isWord {c : Char} (hword : isWord c = true) : isBlank c = false := by
  rw [Bool.eq_false_iff]
  intro hblank
  rw [isWord_eq_false_of_isBlank hblank] at hword
  cases hword

/-! ## Trimming -/

/-- Neither end of the text is a blank. -/
def Tight (cs : List Char) : Prop :=
  (∀ c ∈ cs.head?, isBlank c = false) ∧ ∀ c ∈ cs.getLast?, isBlank c = false

/-- Blanks in a row, at least one. -/
structure IsGap (gap : List Char) : Prop where
  ne_nil : gap ≠ []
  isBlank : ∀ c ∈ gap, isBlank c = true

instance (gap : List Char) : Decidable (IsGap gap) :=
  decidable_of_iff (gap ≠ [] ∧ gap.all isBlank = true)
    ⟨fun h => ⟨h.1, List.all_eq_true.1 h.2⟩, fun h => ⟨h.ne_nil, List.all_eq_true.2 h.isBlank⟩⟩

theorem trimLeft_eq_self {cs : List Char} (hhead : ∀ c ∈ cs.head?, isBlank c = false) :
    trimLeft cs = cs := by
  cases cs with
  | nil => rfl
  | cons c cs => simp [trimLeft, hhead c (by simp)]

theorem trimLeft_append_of_blanks {blanks : List Char} (hblanks : ∀ c ∈ blanks, isBlank c = true)
    (cs : List Char) : trimLeft (blanks ++ cs) = trimLeft cs := by
  induction blanks with
  | nil => rfl
  | cons blank rest ih =>
    have hrest := ih fun c hc => hblanks c (List.mem_cons_of_mem _ hc)
    rw [List.cons_append, trimLeft, List.dropWhile_cons_of_pos (hblanks blank (by simp))]
    exact hrest

theorem trimRight_eq_self {cs : List Char} (hlast : ∀ c ∈ cs.getLast?, isBlank c = false) :
    trimRight cs = cs := by
  unfold trimRight
  rw [← trimLeft, trimLeft_eq_self (by simpa using hlast), List.reverse_reverse]

theorem head?_trimLeft (cs : List Char) : ∀ c ∈ (trimLeft cs).head?, isBlank c = false := by
  intro c hc
  have := List.head?_dropWhile_not isBlank cs
  rw [← trimLeft, Option.mem_def.mp hc] at this
  simpa using this

theorem getLast?_trimRight (cs : List Char) :
    ∀ c ∈ (trimRight cs).getLast?, isBlank c = false := by
  have := head?_trimLeft cs.reverse
  simpa [trimRight, trimLeft] using this

theorem trimRight_prefix_self (cs : List Char) : trimRight cs <+: cs :=
  List.rdropWhile_prefix isBlank cs

/-- Trimming on the right keeps what a text starts with. -/
theorem head?_trimRight (cs : List Char) (hhead : ∀ c ∈ cs.head?, isBlank c = false) :
    ∀ c ∈ (trimRight cs).head?, isBlank c = false := by
  intro c hc
  obtain ⟨rest, hrest⟩ := trimRight_prefix_self cs
  refine hhead c ?_
  rw [← hrest]
  exact List.mem_head?_append_of_mem_head? hc

theorem trim_eq_self {cs : List Char} (htight : Tight cs) : trim cs = cs := by
  rw [trim, trimLeft_eq_self htight.1, trimRight_eq_self htight.2]

theorem tight_trim (cs : List Char) : Tight (trim cs) :=
  ⟨head?_trimRight _ (head?_trimLeft cs), getLast?_trimRight _⟩

/-- The trimmed texts are those that start and end with other characters than blanks. -/
theorem trim_eq_self_iff {cs : List Char} : trim cs = cs ↔ Tight cs := by
  constructor
  · intro htrim
    rw [← htrim]
    exact tight_trim cs
  · exact trim_eq_self

@[simp] theorem trim_trim (cs : List Char) : trim (trim cs) = trim cs :=
  trim_eq_self (tight_trim cs)

theorem trim_append_of_blanks {blanks : List Char} (hblanks : ∀ c ∈ blanks, isBlank c = true)
    (cs : List Char) : trim (blanks ++ cs) = trim cs := by
  rw [trim, trimLeft_append_of_blanks hblanks, trim]

theorem tight_of_trimmed {s : String} (htrimmed : trimmed s = s) : Tight s.toList := by
  rw [← trim_eq_self_iff, ← toList_trimmed, htrimmed]

theorem trim_isInfix (cs : List Char) : trim cs <:+: cs :=
  (trimRight_prefix_self _).isInfix.trans (List.dropWhile_suffix isBlank).isInfix

theorem mem_of_mem_trim {cs : List Char} {c : Char} (hc : c ∈ trim cs) : c ∈ cs :=
  (trim_isInfix cs).subset hc

theorem trimRight_concat_of_blank {c : Char} (hblank : isBlank c = true) (cs : List Char) :
    trimRight (cs ++ [c]) = trimRight cs :=
  List.rdropWhile_concat_pos isBlank cs c hblank

theorem trim_concat_of_blank {c : Char} (hblank : isBlank c = true) (cs : List Char) :
    trim (cs ++ [c]) = trim cs := by
  induction cs with
  | nil => simp [trim, trimLeft, hblank]
  | cons d cs ih =>
    by_cases hd : isBlank d = true
    · have hdrop (ds : List Char) : trim (d :: ds) = trim ds := by
        rw [trim, trim, trimLeft, List.dropWhile_cons_of_pos hd, ← trimLeft]
      rw [List.cons_append, hdrop, hdrop, ih]
    · have hkeep (ds : List Char) : trim (d :: ds) = trimRight (d :: ds) := by
        rw [trim, trimLeft, List.dropWhile_cons_of_neg hd]
      rw [List.cons_append, hkeep, hkeep, ← List.cons_append, trimRight_concat_of_blank hblank]

/-- Blanks on both sides disappear under trimming. -/
theorem trim_between_blanks {before after : List Char} (hbefore : ∀ c ∈ before, isBlank c = true)
    (hafter : ∀ c ∈ after, isBlank c = true) (cs : List Char) :
    trim (before ++ cs ++ after) = trim cs := by
  induction after using List.reverseRecOn with
  | nil => rw [List.append_nil, trim_append_of_blanks hbefore]
  | append_singleton after c ih =>
    rw [List.forall_mem_append, List.forall_mem_singleton] at hafter
    rw [← List.append_assoc, trim_concat_of_blank hafter.2, ih hafter.1]

theorem trim_trimRight (cs : List Char) : trim (trimRight cs) = trim cs := by
  induction cs using List.reverseRecOn with
  | nil => rfl
  | append_singleton cs c ih =>
    cases hblank : isBlank c with
    | true => rw [trimRight_concat_of_blank hblank, trim_concat_of_blank hblank, ih]
    | false => rw [trimRight_eq_self (by simpa using hblank)]

/-- Trimming on the right stops at the last character that is no blank. -/
theorem trimRight_append_cons {c : Char} (hc : isBlank c = false) (cs ds : List Char) :
    trimRight (cs ++ c :: ds) = cs ++ c :: trimRight ds := by
  induction ds using List.reverseRecOn with
  | nil => exact trimRight_eq_self (by simpa using hc)
  | append_singleton ds d ih =>
    have hline : cs ++ c :: (ds ++ [d]) = cs ++ c :: ds ++ [d] := by simp
    cases hblank : isBlank d with
    | true => rw [hline, trimRight_concat_of_blank hblank, trimRight_concat_of_blank hblank, ih]
    | false =>
      have hlast (es : List Char) : trimRight (es ++ [d]) = es ++ [d] := by
        refine trimRight_eq_self fun e he => ?_
        rw [List.getLast?_concat] at he
        rwa [← Option.some.inj he]
      rw [hlast, hline, hlast]

/-- Only blanks are trimmed away as a whole. -/
theorem isBlank_of_trim_eq_nil {cs : List Char} (htrim : trim cs = []) :
    ∀ c ∈ cs, isBlank c = true := by
  induction cs with
  | nil => exact fun _ hc => nomatch hc
  | cons c cs ih =>
    cases hblank : isBlank c with
    | true =>
      rw [trim, trimLeft, List.dropWhile_cons_of_pos hblank] at htrim
      exact List.forall_mem_cons.2 ⟨hblank, ih htrim⟩
    | false =>
      rw [trim, trimLeft, List.dropWhile_cons_of_neg (by simp [hblank]), ← List.nil_append (c :: cs),
        trimRight_append_cons hblank] at htrim
      cases htrim

/-! ## Tight texts in a row -/

theorem Tight.head?_append {cs : List Char} (htight : Tight cs) (hne : cs ≠ [])
    (rest : List Char) : ∀ c ∈ (cs ++ rest).head?, isBlank c = false := by
  intro c hc
  rw [List.head?_append_of_ne_nil _ hne] at hc
  exact htight.1 c hc

/-- The parts between the first and the last play no role. -/
theorem Tight.append {first last : List Char} (hfirst : Tight first) (hne : first ≠ [])
    (middle : List Char) (hlast : Tight last) (hne' : last ≠ []) :
    Tight (first ++ middle ++ last) := by
  constructor
  · rw [List.append_assoc]
    exact hfirst.head?_append hne _
  · intro c hc
    rw [List.getLast?_append_of_ne_nil _ hne'] at hc
    exact hlast.2 c hc

theorem tight_of_forall {cs : List Char} (hcs : ∀ c ∈ cs, isBlank c = false) : Tight cs :=
  ⟨fun c hc => hcs c (List.mem_of_mem_head? hc), fun c hc => hcs c (List.mem_of_getLast? hc)⟩

theorem tight_singleton {c : Char} (hc : isBlank c = false) : Tight [c] :=
  tight_of_forall fun d hd => by rwa [List.mem_singleton.1 hd]

/-! ## Words -/

theorem wordOf_append {word rest : List Char} (hword : ∀ c ∈ word, isWord c = true)
    (hrest : ∀ c ∈ rest.head?, isWord c = false) : wordOf (word ++ rest) = word := by
  rw [wordOf, List.takeWhile_append_of_pos hword]
  cases rest with
  | nil => simp
  | cons c rest => simp [hrest c (by simp)]

theorem afterWord_append {word rest : List Char} (hword : ∀ c ∈ word, isWord c = true)
    (hrest : ∀ c ∈ rest.head?, isWord c = false) : afterWord (word ++ rest) = rest := by
  rw [afterWord, List.dropWhile_append_of_pos hword]
  cases rest with
  | nil => rfl
  | cons c rest => simp [hrest c (by simp)]

theorem tight_of_isWord {word : List Char} (hword : ∀ c ∈ word, isWord c = true) : Tight word :=
  tight_of_forall fun c hc => isBlank_eq_false_of_isWord (hword c hc)

/-! ## Letters of ASCII in any case -/

/-- Only characters of ASCII have one as their capital. -/
theorem toNat_lt_of_toUpper {c : Char} (hcapital : c.toUpper.toNat < 128) : c.toNat < 128 := by
  unfold Char.toUpper at hcapital
  split at hcapital
  · next hlower =>
    have hhigh : c.toNat ≤ 'z'.toNat := hlower.2
    exact Nat.lt_of_le_of_lt hhigh (by decide)
  · exact hcapital

theorem toNat_lt_of_isAlpha {c : Char} (halpha : c.isAlpha = true) : c.toNat < 128 := by
  have hcase : c.isUpper = true ∨ c.isLower = true := Bool.or_eq_true_iff.1 halpha
  rcases hcase with hupper | hlower
  · have hhigh : c.toNat ≤ 'Z'.toNat := (of_decide_eq_true hupper).2
    exact Nat.lt_of_le_of_lt hhigh (by decide)
  · have hhigh : c.toNat ≤ 'z'.toNat := of_decide_eq_true (Bool.and_eq_true_iff.1 hlower).2
    exact Nat.lt_of_le_of_lt hhigh (by decide)

/-- A character whose capital is a letter of ASCII is a letter of ASCII. -/
theorem isAlpha_of_isUpper_toUpper {c : Char} (hcapital : c.toUpper.isUpper = true) :
    c.isAlpha = true := by
  have hletter : c.toUpper.isAlpha = true := Bool.or_eq_true_iff.2 (Or.inl hcapital)
  have hascii : c.toNat < 128 := toNat_lt_of_toUpper (toNat_lt_of_isAlpha hletter)
  have hcodes : ∀ n < 128, (Char.ofNat n).toUpper.isUpper = true →
      (Char.ofNat n).isAlpha = true := by decide
  exact ascii_induction (P := fun c => c.toUpper.isUpper = true → c.isAlpha = true) hcodes
    hascii hcapital

theorem isWord_of_isAlpha {c : Char} (halpha : c.isAlpha = true) : isWord c = true := by
  rw [isWord, if_pos (toNat_lt_of_isAlpha halpha), Char.isAlphanum, halpha]
  rfl

theorem upper_eq_map_toUpper {cs : List Char} (hcs : ∀ c ∈ cs, c.isAlpha = true) :
    upper cs = cs.map Char.toUpper := by
  induction cs with
  | nil => rfl
  | cons c cs ih =>
    have hrest := ih fun d hd => hcs d (List.mem_cons_of_mem _ hd)
    have hhere : Case.upperChar c = [c.toUpper] :=
      if_pos (toNat_lt_of_isAlpha (hcs c (List.mem_cons_self ..)))
    rw [upper] at hrest ⊢
    rw [List.flatMap_cons, hhere, hrest]
    rfl

end DeckScript.Text
