import DeckScript.Command.Line
import DeckScript.Proofs.Number.Pattern
import DeckScript.Proofs.Table
import DeckScript.Proofs.Text.Pieces

/-!
# Command lines are read as they are written

A command line is written as a name and tokens, with any blanks around and between them.
A token is a parameter `key=value` or a stray word without an equals sign.  Values are
truth values, integers within the limit, and literal texts: those that nothing else is
written as and that have no blanks or quotes.

`Written` is such a line together with its blanks.  Reading it gives back the name and
the parameters; stray words leave no trace, and of several values for one key the last
counts, at the place of the first.
-/

namespace DeckScript

/-! ## Fields -/

namespace Text

/-- A text that is one field of a line. -/
structure IsField (cs : List Char) : Prop where
  ne_nil : cs ≠ []
  unbroken : ∀ c ∈ cs, isBlank c = false

instance (cs : List Char) : Decidable (IsField cs) :=
  decidable_of_iff (cs ≠ [] ∧ cs.any isBlank = false)
    ⟨fun h => ⟨h.1, unbroken_of_any h.2⟩, fun h => ⟨h.ne_nil, by simpa using h.unbroken⟩⟩

theorem fields_append_of_blanks {blanks : List Char} (hblanks : ∀ c ∈ blanks, isBlank c = true)
    (rest : List Char) : fields (blanks ++ rest) = fields rest := by
  induction blanks with
  | nil => rfl
  | cons c blanks ih =>
    rw [List.forall_mem_cons] at hblanks
    rw [List.cons_append, fields.eq_def]
    simp [hblanks.1, ih hblanks.2]

theorem fields_eq_nil {blanks : List Char} (hblanks : ∀ c ∈ blanks, isBlank c = true) :
    fields blanks = [] := by
  rw [← List.append_nil blanks, fields_append_of_blanks hblanks, fields]

/-- A field ends at the next blank. -/
theorem IsField.fields_append {field : List Char} (hfield : IsField field) {rest : List Char}
    (hrest : ∀ c ∈ rest.head?, isBlank c = true) :
    fields (field ++ rest) = field :: fields rest := by
  obtain ⟨hne, hunbroken⟩ := hfield
  induction field with
  | nil => exact absurd rfl hne
  | cons c field ih =>
    rw [List.forall_mem_cons] at hunbroken
    cases field with
    | nil =>
      cases rest with
      | nil => simp [fields, hunbroken.1]
      | cons d rest => simp [fields, hunbroken.1, hrest d rfl]
    | cons d field =>
      have hd : isBlank d = false := hunbroken.2 d (List.mem_cons_self ..)
      have hmore : fields (d :: (field ++ rest)) = (d :: field) :: fields rest :=
        ih (List.cons_ne_nil _ _) hunbroken.2
      rw [List.cons_append, List.cons_append, fields.eq_def]
      simp only [hunbroken.1, hd, Bool.false_eq_true, if_false, hmore]

end Text

open Text

/-- A text that does not look like a number is not read as one. -/
theorem Number.ofText?_eq_none {s : String} (hunbroken : ∀ c ∈ s.toList, isBlank c = false)
    (hnumeral : ¬Numeral.IsNumeral s.toList) : Number.ofText? s = none := by
  rw [Number.ofText?, Option.map_eq_none_iff, Option.eq_none_iff_forall_not_mem]
  intro numeral hread
  obtain ⟨text, htext, hs' | hs'⟩ := Numeral.exists_of_ofText? hread
  · exact hnumeral (hs' ▸ htext)
  · exact absurd (hunbroken '\n' (by simp [hs'])) (by decide)

/-! ## Parameters -/

namespace Params

theorem ne_sign_of_notMem {cs : List Char} (hcs : '=' ∉ cs) : ∀ c ∈ cs, (c != '=') = true := by
  intro c hc
  rw [bne_iff_ne]
  rintro rfl
  exact hcs hc

/-- A field is cut at its first equals sign. -/
theorem entry?_append {key : List Char} (hne : key ≠ []) (uncut : '=' ∉ key)
    (value : List Char) :
    entry? (key ++ '=' :: value) =
      some (String.ofList key, .ofParameter (String.ofList value)) := by
  have hkey := ne_sign_of_notMem uncut
  have htake : (key ++ '=' :: value).takeWhile (· != '=') = key := by
    rw [List.takeWhile_append_of_pos hkey, List.takeWhile_cons_of_neg (by simp), List.append_nil]
  have hdrop : (key ++ '=' :: value).dropWhile (· != '=') = '=' :: value := by
    rw [List.dropWhile_append_of_pos hkey, List.dropWhile_cons_of_neg (by simp)]
  obtain ⟨c, rest, rfl⟩ := List.exists_cons_of_ne_nil hne
  unfold entry?
  rw [htake, hdrop]

end Params

namespace CommandLine

/-! ## Values -/

/-- A text that stands for itself as the value of a parameter. -/
structure IsLiteral (s : String) : Prop where
  unbroken : ∀ c ∈ s.toList, isBlank c = false
  unquoted : '\x27' ∉ s.toList ∧ '"' ∉ s.toList
  noTruth : s ≠ "true" ∧ s ≠ "false"
  noNumber : ¬Numeral.IsNumeral s.toList

/-- A value that a parameter can be given. -/
inductive Argument where
  | truth (b : Bool)
  | integer (n : Int) (within : n.natAbs < Number.writeLimit)
  | literal (s : String) (isLiteral : IsLiteral s)

namespace Argument

/-- The value itself. -/
def value : Argument → Value
  | truth b => .bool b
  | integer n _ => .int n
  | literal s _ => .text s

/-- The value as it is written. -/
def text : Argument → String
  | truth true => "true"
  | truth false => "false"
  | integer n _ => n.repr
  | literal s _ => s

end Argument

theorem IsLiteral.ofText?_eq_none {s : String} (hs : IsLiteral s) : Number.ofText? s = none :=
  Number.ofText?_eq_none hs.unbroken hs.noNumber

/-- A text without quotes loses nothing when they are dropped. -/
theorem filter_quotes_eq_self {cs : List Char} (hcs : '\x27' ∉ cs ∧ '"' ∉ cs) :
    (cs.filter fun c => c != '\x27' && c != '"') = cs := by
  rw [List.filter_eq_self]
  intro c hc
  have hapostrophe : c ≠ '\x27' := fun heq => hcs.1 (heq ▸ hc)
  have hquote : c ≠ '"' := fun heq => hcs.2 (heq ▸ hc)
  simp [hapostrophe, hquote]

theorem isBlank_eq_false_of_mem_repr {n : Int} {c : Char} (hc : c ∈ n.repr.toList) :
    isBlank c = false := by
  have hdigit (hc : c ∈ Nat.toDigits 10 n.natAbs) : isBlank c = false := by
    have hdecimal : c.isDigit = true := Nat.isDigit_of_mem_toDigits (by omega) (by omega) hc
    have hascii : c.toNat < 128 := by
      have hhigh : c.toNat ≤ '9'.toNat := of_decide_eq_true (Bool.and_eq_true_iff.1 hdecimal).2
      exact Nat.lt_of_le_of_lt hhigh (by decide)
    have hcodes : ∀ k < 128, (Char.ofNat k).isDigit = true → isBlank (Char.ofNat k) = false := by
      decide
    exact ascii_induction (P := fun c => c.isDigit = true → isBlank c = false) hcodes hascii
      hdecimal
  rw [Number.toList_repr] at hc
  split at hc
  · rcases List.mem_cons.1 hc with rfl | hc
    · decide
    · exact hdigit hc
  · exact hdigit hc

theorem Argument.unbroken (argument : Argument) :
    ∀ c ∈ argument.text.toList, isBlank c = false := by
  cases argument with
  | truth b => cases b <;> exact unbroken_of_any (by decide)
  | integer n within => exact fun c hc => isBlank_eq_false_of_mem_repr hc
  | literal s isLiteral => exact isLiteral.unbroken

/-- A value is read from its text. -/
theorem Argument.ofParameter_text (argument : Argument) :
    Value.ofParameter argument.text = argument.value := by
  cases argument with
  | truth b => cases b <;> rfl
  | integer n within =>
    have hword {word : String} (hword : Number.ofText? word = none) : n.repr ≠ word := by
      rintro rfl
      rw [Number.ofText?_repr within] at hword
      cases hword
    have htrue : n.repr ≠ "true" := hword (by decide)
    have hfalse : n.repr ≠ "false" := hword (by decide)
    rw [text, Value.ofParameter, if_neg htrue, if_neg hfalse, Number.ofText?_repr within]
    rfl
  | literal s isLiteral =>
    rw [text, Value.ofParameter, if_neg isLiteral.noTruth.1, if_neg isLiteral.noTruth.2,
      isLiteral.ofText?_eq_none, filter_quotes_eq_self isLiteral.unquoted, String.ofList_toList]
    rfl

/-! ## Tokens -/

/-- What can follow the name. -/
inductive Token where
  | parameter (key : String) (isKey : IsField key.toList) (uncut : '=' ∉ key.toList)
      (argument : Argument)
  | stray (word : String) (isWord : IsField word.toList) (noSign : '=' ∉ word.toList)

namespace Token

/-- The token as it is written. -/
def text : Token → List Char
  | parameter key _ _ argument => key.toList ++ '=' :: argument.text.toList
  | stray word _ _ => word.toList

/-- The parameter, if the token is one. -/
def pair? : Token → Option (String × Value)
  | parameter key _ _ argument => some (key, argument.value)
  | stray _ _ _ => none

theorem isField (token : Token) : IsField token.text := by
  cases token with
  | parameter key isKey uncut argument =>
    refine ⟨by simp [text], ?_⟩
    rw [text, List.forall_mem_append, List.forall_mem_cons]
    exact ⟨isKey.unbroken, by decide, argument.unbroken⟩
  | stray word isWord noSign => exact isWord

/-- A parameter is recognised by its equals sign, and cut there. -/
theorem entry?_text (token : Token) : Params.entry? token.text = token.pair? := by
  cases token with
  | parameter key isKey uncut argument =>
    rw [text, Params.entry?_append isKey.ne_nil uncut, String.ofList_toList, String.ofList_toList,
      argument.ofParameter_text]
    rfl
  | stray word isWord noSign =>
    have hdrop : word.toList.dropWhile (· != '=') = [] :=
      List.dropWhile_eq_nil_iff.2 (Params.ne_sign_of_notMem noSign)
    unfold Params.entry?
    rw [text, hdrop]
    split <;> simp_all [pair?]

end Token

/-! ## Lines -/

/-- A token with the blanks before it. -/
structure Placed where
  gap : List Char
  token : Token
  gap_ne_nil : gap ≠ []
  gap_blank : ∀ c ∈ gap, isBlank c = true

/-- A command line as it is written: a name, tokens, and blanks around and between them. -/
structure Written where
  margin : List Char
  name : String
  placed : List Placed
  rest : List Char
  margin_blank : ∀ c ∈ margin, isBlank c = true
  isName : IsField name.toList
  rest_blank : ∀ c ∈ rest, isBlank c = true

namespace Written

/-- Tokens as they are written, and what follows them. -/
def tail (placed : List Placed) (rest : List Char) : List Char :=
  placed.flatMap (fun place => place.gap ++ place.token.text) ++ rest

/-- The line. -/
def text (line : Written) : String :=
  String.ofList (line.margin ++ (line.name.toList ++ tail line.placed line.rest))

/-- The parameters in the order in which they are written. -/
def parameters (line : Written) : List (String × Value) :=
  line.placed.filterMap fun place => place.token.pair?

theorem tail_cons (place : Placed) (placed : List Placed) (rest : List Char) :
    tail (place :: placed) rest = place.gap ++ (place.token.text ++ tail placed rest) := by
  simp [tail]

/-- What follows a field starts with a blank. -/
theorem isBlank_head?_tail {placed : List Placed} {rest : List Char}
    (hrest : ∀ c ∈ rest, isBlank c = true) : ∀ c ∈ (tail placed rest).head?, isBlank c = true := by
  intro c hc
  cases placed with
  | nil => exact hrest c (List.mem_of_mem_head? hc)
  | cons place placed =>
    rw [tail_cons, List.head?_append_of_ne_nil _ place.gap_ne_nil] at hc
    exact place.gap_blank c (List.mem_of_mem_head? hc)

theorem fields_tail (placed : List Placed) {rest : List Char}
    (hrest : ∀ c ∈ rest, isBlank c = true) :
    fields (tail placed rest) = placed.map fun place => place.token.text := by
  induction placed with
  | nil => exact fields_eq_nil hrest
  | cons place placed ih =>
    rw [tail_cons, fields_append_of_blanks place.gap_blank,
      place.token.isField.fields_append (isBlank_head?_tail hrest), ih, List.map_cons]

/-- The name and the tokens are the fields of the line, and those with a sign its parameters. -/
theorem ofText_text (line : Written) :
    ofText line.text = ⟨line.name, .ofList line.parameters⟩ := by
  have hfields : fields line.text.toList =
      line.name.toList :: line.placed.map fun place => place.token.text := by
    rw [text, String.toList_ofList, fields_append_of_blanks line.margin_blank,
      line.isName.fields_append (isBlank_head?_tail line.rest_blank), fields_tail _ line.rest_blank]
  have hentries : (line.placed.map fun place => place.token.text).filterMap Params.entry? =
      line.parameters := by
    rw [List.filterMap_map]
    exact List.filterMap_congr fun place _ => place.token.entry?_text
  rw [ofText, hfields]
  simp only [String.ofList_toList, Params.ofFields, hentries]

end Written

/-- **A command line decodes to what it encodes.**  The name is given back, with the parameters in
their order as long as their keys are distinct.  If a key is given several times, it keeps the
place of its first value and has its last. -/
theorem ofText_written (line : Written) :
    (ofText line.text).name = line.name ∧
      ((line.parameters.map Prod.fst).Nodup →
        (ofText line.text).params.entries = line.parameters) ∧
      (ofText line.text).params.names = (line.parameters.map Prod.fst).eraseDups ∧
      ∀ before key value after, line.parameters = before ++ (key, value) :: after →
        key ∉ after.map Prod.fst → (ofText line.text).params.get? key = some value := by
  rw [line.ofText_text]
  refine ⟨rfl, Table.entries_ofList, Table.names_ofList _, ?_⟩
  intro before key value after hparameters hlast
  rw [hparameters]
  exact Table.get?_ofList value hlast

/-- A text that is not recognised as a number does not look like one. -/
theorem not_isNumeral {s : String} (hs : Number.ofText? s = none) :
    ¬Numeral.IsNumeral s.toList := by
  intro hnumeral
  have hsome := hnumeral.ofText?
  rw [Number.ofText?, Option.map_eq_none_iff] at hs
  rw [hs] at hsome
  cases hsome

/-- The tokens `x=7 note y=true x=a=b`. -/
def sampleTokens : List Token :=
  [.parameter "x" (by decide) (by decide)
      (.integer 7 (Number.lt_writeLimit (n := 1) (by decide) (by decide))),
   .stray "note" (by decide) (by decide),
   .parameter "y" (by decide) (by decide) (.truth true),
   .parameter "x" (by decide) (by decide)
      (.literal "a=b"
        ⟨unbroken_of_any (by decide), by decide, by decide, not_isNumeral (by decide)⟩)]

/-- A line of these tokens, each after a tab. -/
def Written.sample : Written where
  margin := [' ', ' ']
  name := "put"
  placed := sampleTokens.map fun token =>
    ⟨['\t'], token, List.cons_ne_nil _ _, List.all_eq_true.1 (by decide)⟩
  rest := []
  margin_blank := List.all_eq_true.1 (by decide)
  isName := by decide
  rest_blank := fun _ hc => nomatch hc

theorem ofText_written_sample :
    (ofText "  put\tx=7\tnote\ty=true\tx=a=b").name = "put" ∧
      (ofText "  put\tx=7\tnote\ty=true\tx=a=b").params.names = ["x", "y"] ∧
      (ofText "  put\tx=7\tnote\ty=true\tx=a=b").params.get? "x" = some (.text "a=b") := by
  have htext : Written.sample.text = "  put\tx=7\tnote\ty=true\tx=a=b" := by decide
  obtain ⟨hname, -, hnames, hlast⟩ := ofText_written Written.sample
  rw [htext] at hname hnames hlast
  exact ⟨hname, hnames, hlast [("x", .int 7), ("y", .bool true)] "x" (.text "a=b") [] rfl (by simp)⟩

end CommandLine

end DeckScript
