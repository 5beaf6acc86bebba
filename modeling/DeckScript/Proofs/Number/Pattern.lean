import DeckScript.Proofs.Number.Limit
import DeckScript.Proofs.Text.Pieces
import Mathlib.Data.List.DropRight
import Mathlib.Data.List.TakeWhile
import Std.Data.String.ToInt

/-!
# What numbers look like

`IsNumeral` is the pattern of a number: an optional sign, digits with an optional point
among or around them, and an optional power of ten.  A text that is taken for a number
has this form, but for a line feed at its end (`exists_of_ofText?`), and what has this
form is taken for one (`IsNumeral.ofText?`); every other text stays a text.

Integers within the limit are read from their decimal text (`ofText?_repr`).
-/

namespace DeckScript

/-! ## Runs of digits -/

namespace Text

/-- Digits and nothing else. -/
def AllDigits (cs : List Char) : Prop :=
  ∀ c ∈ cs, isDigit c = true

theorem allDigits_takeWhile (cs : List Char) : AllDigits (cs.takeWhile isDigit) := by
  intro c hc
  exact List.mem_takeWhile_imp hc

theorem takeWhile_append_afterDigits (cs : List Char) :
    cs.takeWhile isDigit ++ afterDigits cs = cs :=
  List.takeWhile_append_dropWhile

theorem length_leadingDigits (cs : List Char) :
    (leadingDigits cs).length = (cs.takeWhile isDigit).length := by
  induction cs with
  | nil => rfl
  | cons c cs ih =>
    rw [leadingDigits]
    cases hdigit : digit? c with
    | none => simp [isDigit, hdigit]
    | some d => simp [isDigit, hdigit, ih]

theorem leadingDigits_eq_nil_iff {cs : List Char} :
    leadingDigits cs = [] ↔ cs.takeWhile isDigit = [] := by
  rw [← List.length_eq_zero_iff, length_leadingDigits, List.length_eq_zero_iff]

theorem AllDigits.takeWhile_eq {cs : List Char} (hcs : AllDigits cs) :
    cs.takeWhile isDigit = cs :=
  List.takeWhile_eq_self_iff.2 hcs

theorem AllDigits.afterDigits_eq {cs : List Char} (hcs : AllDigits cs) : afterDigits cs = [] :=
  List.dropWhile_eq_nil_iff.2 hcs

theorem AllDigits.leadingDigits_append {cs : List Char} (hcs : AllDigits cs) (rest : List Char) :
    leadingDigits (cs ++ rest) = leadingDigits cs ++ leadingDigits rest := by
  induction cs with
  | nil => rfl
  | cons c cs ih =>
    obtain ⟨d, hd⟩ := Option.isSome_iff_exists.1 (hcs c (List.mem_cons_self ..))
    have hrest := ih fun c hc => hcs c (List.mem_cons_of_mem _ hc)
    simp [leadingDigits, hd, hrest]

theorem digitRanges_disjoint_blankRanges :
    CodeRanges.disjoint (digitZeros.map fun first => (first, first + 9)) blankRanges = true := by
  decide +kernel

theorem isBlank_eq_false_of_isDigit {c : Char} (hdigit : isDigit c = true) : isBlank c = false := by
  refine CodeRanges.not_contains_of_disjoint digitRanges_disjoint_blankRanges ?_
  obtain ⟨d, hd⟩ := Option.isSome_iff_exists.1 hdigit
  obtain ⟨first, hfirst, -⟩ := Option.map_eq_some_iff.1 hd
  have hrange := List.find?_some hfirst
  simp only [Bool.and_eq_true, decide_eq_true_eq] at hrange
  rw [CodeRanges.contains_eq_true_iff]
  refine ⟨(first, first + 9), List.mem_map_of_mem (List.mem_of_find?_eq_some hfirst), hrange.1, ?_⟩
  exact Nat.le_of_lt_succ hrange.2

end Text

/-! ## The pattern -/

namespace Numeral

open Text

/-- An optional sign. -/
def IsSign (cs : List Char) : Prop :=
  cs = [] ∨ cs = ['+'] ∨ cs = ['-']

/-- Digits with an optional point; at least one digit has to be there. -/
inductive IsMantissa : List Char → Prop
  | whole {digits : List Char} (hdigits : AllDigits digits) (hne : digits ≠ []) :
      IsMantissa digits
  | pointed {digits more : List Char} (hdigits : AllDigits digits) (hne : digits ≠ [])
      (hmore : AllDigits more) : IsMantissa (digits ++ '.' :: more)
  | fraction {digits : List Char} (hdigits : AllDigits digits) (hne : digits ≠ []) :
      IsMantissa ('.' :: digits)

/-- An optional power of ten. -/
inductive IsExponent : List Char → Prop
  | absent : IsExponent []
  | present {mark : Char} {sign digits : List Char} (hmark : mark = 'e' ∨ mark = 'E')
      (hsign : IsSign sign) (hdigits : AllDigits digits) (hne : digits ≠ []) :
      IsExponent (mark :: (sign ++ digits))

/-- The pattern of a number. -/
inductive IsNumeral : List Char → Prop
  | mk {sign mantissa exponent : List Char} (hsign : IsSign sign)
      (hmantissa : IsMantissa mantissa) (hexponent : IsExponent exponent) :
      IsNumeral (sign ++ mantissa ++ exponent)

/-- A character that may stand in a number. -/
def IsPart (c : Char) : Prop :=
  isDigit c = true ∨ c ∈ ['+', '-', '.', 'e', 'E']

instance (c : Char) : Decidable (IsPart c) :=
  inferInstanceAs (Decidable (_ ∨ _))

theorem IsPart.isBlank_eq_false {c : Char} (hpart : IsPart c) : isBlank c = false := by
  rcases hpart with hdigit | hmark
  · exact isBlank_eq_false_of_isDigit hdigit
  · have hmarks : ∀ c ∈ ['+', '-', '.', 'e', 'E'], isBlank c = false :=
      unbroken_of_any (by decide)
    exact hmarks c hmark

theorem IsSign.isPart {sign : List Char} (hsign : IsSign sign) : ∀ c ∈ sign, IsPart c := by
  rcases hsign with rfl | rfl | rfl
  · exact fun _ hc => nomatch hc
  · exact List.forall_mem_singleton.2 (by decide)
  · exact List.forall_mem_singleton.2 (by decide)

theorem IsNumeral.isPart {text : List Char} (htext : IsNumeral text) : ∀ c ∈ text, IsPart c := by
  have hpoint : IsPart '.' := by decide
  have hdigits {digits : List Char} (hdigits : AllDigits digits) : ∀ c ∈ digits, IsPart c :=
    fun c hc => .inl (hdigits c hc)
  obtain @⟨sign, mantissa, exponent, hsign, hmantissa, hexponent⟩ := htext
  simp only [List.forall_mem_append]
  refine ⟨⟨hsign.isPart, ?_⟩, ?_⟩
  · cases hmantissa with
    | whole hwhole hne => exact hdigits hwhole
    | pointed hwhole hne hmore =>
      exact List.forall_mem_append.2
        ⟨hdigits hwhole, List.forall_mem_cons.2 ⟨hpoint, hdigits hmore⟩⟩
    | fraction hfraction hne => exact List.forall_mem_cons.2 ⟨hpoint, hdigits hfraction⟩
  · cases hexponent with
    | absent => exact fun _ hc => nomatch hc
    | present hmark hsign hpower hne =>
      refine List.forall_mem_cons.2 ⟨?_, List.forall_mem_append.2 ⟨hsign.isPart, hdigits hpower⟩⟩
      rcases hmark with rfl | rfl
      · decide
      · decide

theorem IsNumeral.ne_nil {text : List Char} (htext : IsNumeral text) : text ≠ [] := by
  obtain @⟨sign, mantissa, exponent, hsign, hmantissa, hexponent⟩ := htext
  have hne : mantissa ≠ [] := by
    cases hmantissa with
    | whole hdigits hne => exact hne
    | pointed hdigits hne hmore => simp
    | fraction hdigits hne => simp
  simp [hne]

theorem exists_sign (cs : List Char) : ∃ sign, IsSign sign ∧ cs = sign ++ (splitSign cs).2 := by
  unfold splitSign
  split
  · exact ⟨['-'], .inr (.inr rfl), rfl⟩
  · exact ⟨['+'], .inr (.inl rfl), rfl⟩
  · exact ⟨[], .inl rfl, rfl⟩

theorem exists_of_splitDigits {cs rest : List Char} {whole : List Nat}
    {fraction : Option (List Nat)} (hsplit : splitDigits cs = some (whole, fraction, rest)) :
    ∃ mantissa, IsMantissa mantissa ∧ cs = mantissa ++ rest := by
  have hcs := takeWhile_append_afterDigits cs
  have hdigits := allDigits_takeWhile cs
  unfold splitDigits at hsplit
  split at hsplit
  · -- a point comes first, and digits have to follow it
    next more hnone hpoint =>
    rw [leadingDigits_eq_nil_iff] at hnone
    rw [hnone, hpoint, List.nil_append] at hcs
    split at hsplit
    · cases hsplit
    · next hsome =>
      cases hsplit
      refine ⟨_, .fraction (allDigits_takeWhile more) (mt leadingDigits_eq_nil_iff.2 hsome), ?_⟩
      rw [List.cons_append, takeWhile_append_afterDigits, hcs]
  · cases hsplit
  · next more hpoint hsome =>
    cases hsplit
    refine ⟨_, .pointed hdigits (mt leadingDigits_eq_nil_iff.2 hsome)
      (allDigits_takeWhile more), ?_⟩
    rw [List.append_assoc, List.cons_append, takeWhile_append_afterDigits, ← hpoint, hcs]
  · next hsome _ _ =>
    cases hsplit
    exact ⟨_, .whole hdigits (mt leadingDigits_eq_nil_iff.2 hsome), hcs.symm⟩

theorem exists_exponent (cs : List Char) :
    ∃ power, IsExponent power ∧ cs = power ++ (splitExponent cs).2 := by
  unfold splitExponent
  split
  · exact ⟨[], .absent, rfl⟩
  · next mark more =>
    split
    · next hmark =>
      dsimp only
      split
      · exact ⟨[], .absent, rfl⟩
      · next hsome =>
        obtain ⟨sign, hsign, hmore⟩ := exists_sign more
        refine ⟨_, .present hmark hsign (allDigits_takeWhile _)
          (mt leadingDigits_eq_nil_iff.2 hsome), ?_⟩
        rw [List.cons_append, List.append_assoc, takeWhile_append_afterDigits, ← hmore]
    · exact ⟨[], .absent, rfl⟩

/-- What is taken for a number has the form of one; a line feed may follow it. -/
theorem exists_of_ofText? {cs : List Char} {numeral : Numeral} (hread : ofText? cs = some numeral) :
    ∃ text, IsNumeral text ∧ (cs = text ∨ cs = text ++ ['\n']) := by
  unfold ofText? at hread
  dsimp only at hread
  split at hread
  · cases hread
  · next whole fraction rest hdigits =>
    split at hread
    · next hrest =>
      obtain ⟨sign, hsign, hcs⟩ := exists_sign cs
      obtain ⟨mantissa, hmantissa, hunsigned⟩ := exists_of_splitDigits hdigits
      obtain ⟨power, hpower, hmore⟩ := exists_exponent rest
      refine ⟨_, .mk hsign hmantissa hpower, ?_⟩
      have hall : cs = sign ++ mantissa ++ power ++ (splitExponent rest).2 := by
        calc cs = sign ++ (splitSign cs).2 := hcs
          _ = sign ++ (mantissa ++ (power ++ (splitExponent rest).2)) := by rw [hunsigned, ← hmore]
          _ = sign ++ mantissa ++ power ++ (splitExponent rest).2 := by
              simp only [List.append_assoc]
      rcases hrest with hnothing | hfeed
      · exact .inl (by rw [hall, hnothing, List.append_nil])
      · exact .inr (by rw [hall, hfeed])
    · cases hread

/-! ### What has the form of a number is recognised -/

theorem leadingDigits_append_of_head {digits rest : List Char} (hdigits : AllDigits digits)
    (hrest : ∀ c ∈ rest.head?, isDigit c = false) :
    leadingDigits (digits ++ rest) = leadingDigits digits ∧
      afterDigits (digits ++ rest) = rest := by
  constructor
  · rw [hdigits.leadingDigits_append]
    cases rest with
    | nil => rw [leadingDigits, List.append_nil]
    | cons c rest =>
      have hnone : digit? c = none := by simpa [isDigit] using hrest c rfl
      rw [leadingDigits, hnone, List.append_nil]
  · rw [afterDigits, List.dropWhile_append_of_pos hdigits]
    cases rest with
    | nil => rfl
    | cons c rest => rw [List.dropWhile_cons_of_neg (by simp [hrest c rfl])]

theorem leadingDigits_ne_nil {digits : List Char} (hdigits : AllDigits digits)
    (hne : digits ≠ []) : leadingDigits digits ≠ [] := by
  rw [Ne, leadingDigits_eq_nil_iff, hdigits.takeWhile_eq]
  exact hne

theorem splitSign_append {sign rest : List Char} (hsign : IsSign sign)
    (hrest : ∀ c ∈ rest.head?, c ≠ '+' ∧ c ≠ '-') : (splitSign (sign ++ rest)).2 = rest := by
  rcases hsign with rfl | rfl | rfl
  · cases rest with
    | nil => rfl
    | cons c rest => simp [splitSign, hrest c rfl]
  · rfl
  · rfl

theorem ne_sign_of_isDigit {c : Char} (hdigit : isDigit c = true) : c ≠ '+' ∧ c ≠ '-' := by
  constructor
  · rintro rfl
    exact absurd hdigit (by decide)
  · rintro rfl
    exact absurd hdigit (by decide)

theorem AllDigits.ne_sign_head {digits : List Char} (hdigits : AllDigits digits)
    (hne : digits ≠ []) (rest : List Char) : ∀ c ∈ (digits ++ rest).head?, c ≠ '+' ∧ c ≠ '-' := by
  intro c hc
  rw [List.head?_append_of_ne_nil _ hne] at hc
  exact ne_sign_of_isDigit (hdigits c (List.mem_of_mem_head? hc))

theorem IsExponent.splitExponent {power : List Char} (hpower : IsExponent power) :
    (splitExponent power).2 = [] := by
  cases hpower with
  | absent => rfl
  | present hmark hsign hdigits hne =>
    have hunsigned := splitSign_append hsign (by
      simpa using AllDigits.ne_sign_head hdigits hne [])
    obtain ⟨d, more, hmore⟩ := List.exists_cons_of_ne_nil (leadingDigits_ne_nil hdigits hne)
    rw [Numeral.splitExponent, if_pos hmark]
    dsimp only
    rw [hunsigned, hmore]
    exact hdigits.afterDigits_eq

/-- A power of ten starts with neither a digit nor a point. -/
theorem IsExponent.head {power : List Char} (hpower : IsExponent power) :
    ∀ c ∈ power.head?, isDigit c = false ∧ c ≠ '.' := by
  intro c hc
  cases hpower with
  | absent => cases hc
  | present hmark =>
    cases hc
    rcases hmark with rfl | rfl
    · exact ⟨by decide, by decide⟩
    · exact ⟨by decide, by decide⟩

theorem IsMantissa.splitDigits {mantissa power : List Char} (hmantissa : IsMantissa mantissa)
    (hpower : IsExponent power) :
    ∃ whole fraction, splitDigits (mantissa ++ power) = some (whole, fraction, power) := by
  have hdigit : ∀ c ∈ power.head?, isDigit c = false := fun c hc => (hpower.head c hc).1
  cases hmantissa with
  | whole hdigits hne =>
    obtain ⟨hleading, hafter⟩ := leadingDigits_append_of_head hdigits hdigit
    obtain ⟨d, more, hmore⟩ := List.exists_cons_of_ne_nil (leadingDigits_ne_nil hdigits hne)
    rw [Numeral.splitDigits, hleading, hafter, hmore]
    cases power with
    | nil => exact ⟨_, _, rfl⟩
    | cons c power =>
      have hpoint : c ≠ '.' := (hpower.head c rfl).2
      simp [hpoint]
  | @pointed digits fraction hdigits hne hfraction =>
    have hpoint : ∀ c ∈ ('.' :: (fraction ++ power)).head?, isDigit c = false := by
      intro c hc
      cases hc
      decide
    obtain ⟨hleading, hafter⟩ := leadingDigits_append_of_head hdigits hpoint
    obtain ⟨-, hafter'⟩ := leadingDigits_append_of_head hfraction hdigit
    obtain ⟨d, more, hmore⟩ := List.exists_cons_of_ne_nil (leadingDigits_ne_nil hdigits hne)
    rw [List.append_assoc, List.cons_append, Numeral.splitDigits, hleading, hafter, hmore]
    refine ⟨d :: more, some (leadingDigits (fraction ++ power)), ?_⟩
    show some (_, _, afterDigits (fraction ++ power)) = _
    rw [hafter']
  | @fraction digits hdigits hne =>
    obtain ⟨hleading, hafter⟩ := leadingDigits_append_of_head hdigits hdigit
    obtain ⟨d, more, hmore⟩ := List.exists_cons_of_ne_nil (leadingDigits_ne_nil hdigits hne)
    have hpoint : leadingDigits ('.' :: digits ++ power) = [] := rfl
    have hrest : afterDigits ('.' :: digits ++ power) = '.' :: (digits ++ power) := rfl
    refine ⟨[], some (d :: more), ?_⟩
    rw [Numeral.splitDigits, hpoint, hrest]
    simp only [hleading, hafter, hmore]

theorem IsMantissa.head {mantissa : List Char} (hmantissa : IsMantissa mantissa)
    (rest : List Char) : ∀ c ∈ (mantissa ++ rest).head?, c ≠ '+' ∧ c ≠ '-' := by
  cases hmantissa with
  | whole hdigits hne => exact AllDigits.ne_sign_head hdigits hne rest
  | pointed hdigits hne _ =>
    rw [List.append_assoc]
    exact AllDigits.ne_sign_head hdigits hne _
  | fraction hdigits hne =>
    intro c hc
    cases hc
    exact ⟨by decide, by decide⟩

/-- What has the form of a number is taken for one. -/
theorem IsNumeral.ofText? {text : List Char} (htext : IsNumeral text) :
    (ofText? text).isSome = true := by
  obtain @⟨sign, mantissa, power, hsign, hmantissa, hpower⟩ := htext
  obtain ⟨whole, fraction, hdigits⟩ := hmantissa.splitDigits hpower
  have hunsigned := splitSign_append hsign (hmantissa.head power)
  unfold Numeral.ofText?
  dsimp only
  rw [List.append_assoc, hunsigned, hdigits]
  dsimp only
  rw [if_pos (.inl hpower.splitExponent)]
  rfl

end Numeral

/-! ## Decimal text of integers -/

namespace Text

theorem digit?_digitChar {d : Nat} (hd : d < 10) : digit? d.digitChar = some d := by
  have hdigits : ∀ d < 10, digit? d.digitChar = some d := by decide
  exact hdigits d hd

theorem ofDigits_concat (digits : List Nat) (d : Nat) :
    ofDigits (digits ++ [d]) = 10 * ofDigits digits + d := by
  simp [ofDigits]

theorem allDigits_toDigits (n : Nat) : AllDigits (Nat.toDigits 10 n) := by
  induction n using Nat.strongRecOn with
  | ind n ih =>
    have hlast : AllDigits [(n % 10).digitChar] := by
      intro c hc
      rw [List.mem_singleton.1 hc, isDigit, digit?_digitChar (Nat.mod_lt n (by omega))]
      rfl
    rw [Nat.toDigits_eq_if (by omega)]
    split
    · next hsmall => rwa [Nat.mod_eq_of_lt hsmall] at hlast
    · exact List.forall_mem_append.2 ⟨ih (n / 10) (by omega), hlast⟩

/-- The digits of a number write the number. -/
theorem ofDigits_toDigits (n : Nat) : ofDigits (leadingDigits (Nat.toDigits 10 n)) = n := by
  induction n using Nat.strongRecOn with
  | ind n ih =>
    have hlast : leadingDigits [(n % 10).digitChar] = [n % 10] := by
      rw [leadingDigits, digit?_digitChar (Nat.mod_lt n (by omega))]
      rfl
    rw [Nat.toDigits_eq_if (by omega)]
    split
    · next hsmall =>
      rw [Nat.mod_eq_of_lt hsmall] at hlast
      rw [hlast]
      simp [ofDigits]
    · next hlarge =>
      rw [(allDigits_toDigits (n / 10)).leadingDigits_append, hlast, ofDigits_concat,
        ih (n / 10) (by omega)]
      omega

end Text

namespace Numeral

open Text

theorem splitDigits_of_allDigits {cs : List Char} (hcs : AllDigits cs) (hne : cs ≠ []) :
    splitDigits cs = some (leadingDigits cs, none, []) := by
  obtain ⟨d, digits, hdigits⟩ := List.exists_cons_of_ne_nil (leadingDigits_ne_nil hcs hne)
  rw [splitDigits, hcs.afterDigits_eq, hdigits]

theorem splitSign_of_allDigits {cs : List Char} (hcs : AllDigits cs) :
    splitSign cs = (false, cs) := by
  cases cs with
  | nil => rfl
  | cons c cs =>
    have hsign := ne_sign_of_isDigit (hcs c (List.mem_cons_self ..))
    simp [splitSign, hsign]

/-- A run of digits, with a minus sign if asked for, is a numeral without point and exponent. -/
theorem ofText?_of_allDigits {cs : List Char} (hcs : AllDigits cs) (hne : cs ≠ [])
    (negative : Bool) :
    ofText? (if negative then '-' :: cs else cs) =
      some ⟨negative, leadingDigits cs, none, none⟩ := by
  have hsign : splitSign (if negative then '-' :: cs else cs) = (negative, cs) := by
    cases negative with
    | false => exact splitSign_of_allDigits hcs
    | true => rfl
  simp [ofText?, hsign, splitDigits_of_allDigits hcs hne, splitExponent]

end Numeral

namespace Number

open Text

theorem toList_repr (n : Int) :
    n.repr.toList =
      if decide (n < 0) then '-' :: Nat.toDigits 10 n.natAbs else Nat.toDigits 10 n.natAbs := by
  rw [Int.repr_eq_if]
  by_cases hn : 0 ≤ n
  · have habs : n.toNat = n.natAbs := by omega
    rw [if_pos hn, if_neg (by simpa using hn), Nat.toList_repr, habs]
  · have habs : (-n).toNat = n.natAbs := by omega
    rw [if_neg hn, if_pos (by simpa using hn), String.toList_append, Nat.toList_repr, habs]
    rfl

theorem length_toDigits_le {n digits : Nat} (hdigits : 0 < digits) (hn : n < Nat.pow 10 digits) :
    (Nat.toDigits 10 n).length ≤ digits :=
  (Nat.length_toDigits_le_iff (by omega) hdigits).2 hn

/-- Integers are read from their decimal text. -/
theorem ofText?_repr {n : Int} (hn : n.natAbs < writeLimit) : ofText? n.repr = some (.int n) := by
  have hdigits := allDigits_toDigits n.natAbs
  have hlength : (leadingDigits (Nat.toDigits 10 n.natAbs)).length ≤ digitLimit := by
    unfold writeLimit at hn
    rw [length_leadingDigits, hdigits.takeWhile_eq]
    exact length_toDigits_le (by decide) hn
  rw [ofText?, toList_repr, Numeral.ofText?_of_allDigits hdigits Nat.toDigits_ne_nil,
    Option.map_some, Numeral.value, if_pos ⟨rfl, rfl, hlength⟩, ofDigits_toDigits]
  have hsigned : Numeral.signed (decide (n < 0)) n.natAbs = n := by
    by_cases hneg : n < 0
    · rw [Numeral.signed, if_pos (decide_eq_true hneg)]
      omega
    · rw [Numeral.signed, if_neg (by simpa using hneg)]
      omega
  rw [hsigned]

end Number

end DeckScript
