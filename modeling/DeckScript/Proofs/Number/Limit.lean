import DeckScript.Number.Numeral

/-!
# Integers within the limit

Integers and decimal text are converted up to 4300 digits.  This file says that an
integer with at most that many digits is below the limit for writing, so what a
script can read it can also write.
-/

namespace DeckScript

namespace Number

/-! ## The limit -/

theorem tenPow_le {m n : Nat} (hle : m ≤ n) : Nat.pow 10 m ≤ Nat.pow 10 n :=
  Nat.pow_le_pow_right (by decide) hle

/-- A number with at most 4300 digits is below the limit. -/
theorem lt_writeLimit {k n : Nat} (hk : k < Nat.pow 10 n) (hn : n ≤ digitLimit) :
    k < writeLimit := by
  unfold writeLimit
  exact Nat.lt_of_lt_of_le hk (tenPow_le hn)

theorem one_lt_writeLimit : 1 < writeLimit :=
  lt_writeLimit (n := 1) (by decide) (by decide)

theorem writeInt_of_lt {n : Int} (hn : n.natAbs < writeLimit) : writeInt n = .ok n.repr :=
  if_pos hn

theorem writeInt_of_not_lt {n : Int} (hn : ¬n.natAbs < writeLimit) :
    writeInt n = .error .tooLongToWrite :=
  if_neg hn

end Number

/-! ## Digits -/

namespace Text

theorem digit?_lt {c : Char} {d : Nat} (hd : digit? c = some d) : d < 10 := by
  obtain ⟨first, hfirst, rfl⟩ := Option.map_eq_some_iff.1 hd
  have hrange := List.find?_some hfirst
  simp only [Bool.and_eq_true, decide_eq_true_eq] at hrange
  omega

theorem lt_of_mem_leadingDigits {cs : List Char} {d : Nat} (hd : d ∈ leadingDigits cs) :
    d < 10 := by
  induction cs with
  | nil => simp [leadingDigits] at hd
  | cons c cs ih =>
    cases hdigit : digit? c with
    | none => simp [leadingDigits, hdigit] at hd
    | some first =>
      simp only [leadingDigits, hdigit, List.mem_cons] at hd
      rcases hd with rfl | hd
      · exact digit?_lt hdigit
      · exact ih hd

theorem foldl_digits_lt {digits : List Nat} (hdigits : ∀ d ∈ digits, d < 10) (value : Nat) :
    digits.foldl (fun value digit => 10 * value + digit) value <
      (value + 1) * Nat.pow 10 digits.length := by
  induction digits generalizing value with
  | nil => simp
  | cons digit digits ih =>
    have hdigit : digit < 10 := hdigits digit List.mem_cons_self
    have hrest := ih (fun d hd => hdigits d (List.mem_cons_of_mem _ hd)) (10 * value + digit)
    rw [List.foldl_cons, List.length_cons]
    calc digits.foldl (fun value digit => 10 * value + digit) (10 * value + digit)
        < (10 * value + digit + 1) * Nat.pow 10 digits.length := hrest
      _ ≤ (value + 1) * 10 * Nat.pow 10 digits.length :=
          Nat.mul_le_mul_right _ (by omega)
      _ = (value + 1) * Nat.pow 10 (digits.length + 1) := by
          rw [Nat.mul_assoc, Nat.mul_comm 10]
          rfl

theorem ofDigits_lt {digits : List Nat} (hdigits : ∀ d ∈ digits, d < 10) :
    ofDigits digits < Nat.pow 10 digits.length := by
  have hlt := foldl_digits_lt hdigits 0
  rwa [Nat.zero_add, Nat.one_mul] at hlt

end Text

namespace Numeral

theorem natAbs_signed (negative : Bool) (n : Nat) : (signed negative n).natAbs = n := by
  unfold signed
  split <;> omega

/-- An integer with few enough digits is within the limit. -/
theorem natAbs_signed_ofDigits_lt {digits : List Nat} (hdigits : ∀ d ∈ digits, d < 10)
    (hlength : digits.length ≤ Number.digitLimit) (negative : Bool) :
    (signed negative (Text.ofDigits digits)).natAbs < Number.writeLimit := by
  rw [natAbs_signed]
  exact Number.lt_writeLimit (Text.ofDigits_lt hdigits) hlength

theorem lt_of_splitDigits {cs rest : List Char} {whole : List Nat} {fraction : Option (List Nat)}
    (hsplit : splitDigits cs = some (whole, fraction, rest)) {d : Nat} (hd : d ∈ whole) :
    d < 10 := by
  -- a point that comes first leaves no digits in front of it
  have hwhole : whole = [] ∨ whole = Text.leadingDigits cs := by
    unfold splitDigits at hsplit
    split at hsplit
    · split at hsplit
      · cases hsplit
      · cases hsplit
        exact .inl rfl
    · cases hsplit
    · cases hsplit
      exact .inr rfl
    · cases hsplit
      exact .inr rfl
  rcases hwhole with rfl | rfl
  · cases hd
  · exact Text.lt_of_mem_leadingDigits hd

/-- The digits of a numeral that was read. -/
theorem lt_of_ofText? {cs : List Char} {numeral : Numeral} (hread : ofText? cs = some numeral)
    {d : Nat} (hd : d ∈ numeral.whole) : d < 10 := by
  unfold ofText? at hread
  dsimp only at hread
  split at hread
  · cases hread
  · rename_i whole fraction rest hsplit
    split at hread
    · cases hread
      exact lt_of_splitDigits hsplit hd
    · cases hread

end Numeral

/-! ## Reading integers -/

namespace Number

theorem natAbs_lt_of_readInteger {text : String} {n : Int} (hread : readInteger text = .ok n) :
    n.natAbs < writeLimit := by
  unfold readInteger at hread
  dsimp only at hread
  split at hread
  · cases hread
  · split at hread
    · cases hread
    · rename_i n' hrun
      split at hread
      · cases hread
      · cases hread
        unfold ofDigitRun at hrun
        split at hrun
        · rename_i hlength
          cases hrun
          refine Numeral.natAbs_signed_ofDigits_lt ?_ hlength _
          intro d hd
          obtain ⟨c, -, hc⟩ := List.mem_filterMap.1 hd
          exact Text.digit?_lt hc
        · cases hrun

end Number

end DeckScript
