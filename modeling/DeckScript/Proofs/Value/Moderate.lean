import DeckScript.Proofs.Binary64.Rounding
import DeckScript.Proofs.Number.Limit
import DeckScript.Script.Expression

/-!
# Moderate values

A value is moderate if all its integers can be written, and if it is a binary number
of the format when it is one.  Moderate values can be printed and logged, and one that
counts as an integer is within the limit.  Expressions over moderate variables have
moderate values: no literal, however long, leads out of them.
-/

namespace DeckScript

/-! ## Binary numbers -/

namespace Binary64

theorem inFormat_zero (negative : Bool) : (finite negative 0 (-1074)).InFormat :=
  ⟨by decide, by decide⟩

theorem inFormat_ofDecimal (negative : Bool) (digits : Nat) (scale : Int) :
    (ofDecimal negative digits scale).InFormat := by
  unfold ofDecimal
  split_ifs
  · exact inFormat_zero negative
  · trivial
  · exact inFormat_zero negative
  · exact inFormat_ofMagnitude _ _

/-- The integer part has no more decimal digits than the number may have binary ones. -/
theorem natAbs_truncate_lt_tenPow (negative : Bool) {m digits range : Nat} {e : Int}
    (hm : m < Nat.pow 2 digits) (he : e ≤ range) :
    (finite negative m e).truncate.natAbs < Nat.pow 10 (digits + range) := by
  have hmagnitude : (if 0 ≤ e then m * Nat.pow 2 e.toNat else m / Nat.pow 2 (-e).toNat) ≤
      m * Nat.pow 2 range := by
    split
    · exact Nat.mul_le_mul_left m (Nat.pow_le_pow_right (by decide) (by omega))
    · exact (Nat.div_le_self m _).trans (Nat.le_mul_of_pos_right m (Nat.pow_pos (by decide)))
  have hnatAbs : (finite negative m e).truncate.natAbs =
      if 0 ≤ e then m * Nat.pow 2 e.toNat else m / Nat.pow 2 (-e).toNat := by
    rw [truncate]
    cases negative
    · exact Int.natAbs_natCast _
    · exact (Int.natAbs_neg _).trans (Int.natAbs_natCast _)
  rw [hnatAbs]
  calc (if 0 ≤ e then m * Nat.pow 2 e.toNat else m / Nat.pow 2 (-e).toNat)
      ≤ m * Nat.pow 2 range := hmagnitude
    _ < Nat.pow 2 digits * Nat.pow 2 range :=
        Nat.mul_lt_mul_of_pos_right hm (Nat.pow_pos (by decide))
    _ = Nat.pow 2 (digits + range) := (Nat.pow_add 2 digits range).symm
    _ ≤ Nat.pow 10 (digits + range) := Nat.pow_le_pow_left (by decide) _

theorem natAbs_truncate_lt {x : Binary64} (hformat : x.InFormat) :
    x.truncate.natAbs < Number.writeLimit := by
  cases x with
  | nan => exact Nat.zero_lt_of_lt Number.one_lt_writeLimit
  | infinite => exact Nat.zero_lt_of_lt Number.one_lt_writeLimit
  | finite negative m e =>
    exact Number.lt_writeLimit (natAbs_truncate_lt_tenPow negative hformat.1 hformat.2) (by decide)

end Binary64

/-! ## Values -/

namespace Value

/-- All integers of the value can be written, and a binary number is one of the format. -/
def IsModerate : Value → Prop
  | number (.real x) => x.InFormat
  | value => value.isWritable = true

theorem IsModerate.isWritable {value : Value} (h : value.IsModerate) :
    value.isWritable = true := by
  unfold IsModerate at h
  split at h
  · rfl
  · exact h

theorem isModerate_text (s : String) : (text s).IsModerate := by
  rw [IsModerate]
  · rw [Value.isWritable]
    · nofun
    · nofun
    · nofun
  · nofun

theorem isModerate_int {n : Int} (hn : n.natAbs < Number.writeLimit) : (int n).IsModerate :=
  decide_eq_true hn

theorem IsModerate.display {value : Value} (h : value.IsModerate) :
    value.display = .ok value.displayText :=
  if_pos h.isWritable

theorem IsModerate.inspect {value : Value} (h : value.IsModerate) :
    ∃ text, value.inspect = .ok text :=
  ⟨_, if_pos h.isWritable⟩

end Value

theorem Numeral.isModerate_value {cs : List Char} {numeral : Numeral}
    (hread : Numeral.ofText? cs = some numeral) : (Value.number numeral.value).IsModerate := by
  unfold Numeral.value
  split
  · -- an integer has few digits; a longer numeral is rounded to the binary format
    rename_i hinteger
    exact Value.isModerate_int
      (natAbs_signed_ofDigits_lt (fun d hd => lt_of_ofText? hread hd) hinteger.2.2 _)
  · exact Binary64.inFormat_ofDecimal _ _ _

namespace Script

/-! ## Expressions -/

/-- Every variable has a moderate value. -/
def Variables.AreModerate (vars : Variables) : Prop :=
  ∀ name value, vars.get? name = some value → value.IsModerate

theorem Variables.AreModerate.empty : Variables.AreModerate .empty := by
  intro name value hvalue
  cases hvalue

theorem Variables.AreModerate.insert {vars : Variables} (h : vars.AreModerate) {value : Value}
    (hvalue : value.IsModerate) (name : String) :
    Variables.AreModerate (Table.insert vars name value) := by
  intro other found hfound
  rw [Table.get?_insert] at hfound
  split at hfound
  · cases hfound
    exact hvalue
  · exact h other found hfound

namespace Expression

theorem isModerate_of_atom? {vars : Variables} (hvars : vars.AreModerate) {cs : List Char}
    {value : Value} (hatom : atom? vars cs = some value) : value.IsModerate := by
  unfold atom? at hatom
  split at hatom
  · cases hatom
    exact Value.isModerate_text _
  · split at hatom
    · rename_i numeral hnumeral
      cases hatom
      exact Numeral.isModerate_value hnumeral
    · exact hvars _ _ hatom

theorem isModerate_operandValue {vars : Variables} (hvars : vars.AreModerate)
    (operand : List Char) : (operandValue vars operand).IsModerate := by
  unfold operandValue
  dsimp only
  cases hatom : atom? vars (Text.trim operand) with
  | none => exact Value.isModerate_text _
  | some value => exact isModerate_of_atom? hvars hatom

/-- Operands can always be joined. -/
theorem exists_joined {vars : Variables} (hvars : vars.AreModerate)
    (operands : List (List Char)) : ∃ text, joined vars operands = .ok text := by
  induction operands with
  | nil => exact ⟨"", rfl⟩
  | cons operand rest ih =>
    obtain ⟨others, hothers⟩ := ih
    rw [joined, (isModerate_operandValue hvars operand).display, hothers]
    exact ⟨_, rfl⟩

/-- An expression over moderate variables has a moderate value. -/
theorem exists_evaluate {vars : Variables} (hvars : vars.AreModerate) (expression : String) :
    ∃ value, evaluate vars expression = .ok value ∧ value.IsModerate := by
  unfold evaluate
  dsimp only
  split
  · rename_i value hatom
    exact ⟨value, rfl, isModerate_of_atom? hvars hatom⟩
  · split
    · obtain ⟨text, htext⟩ := exists_joined hvars (operands (Text.trim expression.toList))
      rw [htext]
      exact ⟨_, rfl, Value.isModerate_text text⟩
    · exact ⟨_, rfl, Value.isModerate_text _⟩

end Expression

end Script

end DeckScript
