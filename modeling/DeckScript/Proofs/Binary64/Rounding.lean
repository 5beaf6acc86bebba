import Mathlib.Algebra.Order.Field.Power
import Mathlib.Data.Rat.Floor
import Mathlib.Order.WithBot
import Mathlib.Tactic.Linarith
import Mathlib.Tactic.NormNum
import Mathlib.Tactic.Positivity
import Mathlib.Tactic.Ring
import DeckScript.Binary64.Basic

/-!
# Rounding keeps order

A number that is not less than another is not rounded to less.  This is what makes
budgets comparable: the end of a run is found by rounding a number of milliseconds,
its thousandth, and the sum with the start of the run.

The magnitude that a rational is rounded to, before the range of the format is looked
at, is `rounded`.  `ofMagnitude_spec` says that this is the value of the number if it is
less than `2 ^ 1024`, and that the number is infinite otherwise; `rounded_mono` that it
grows with the rational.

## Strategy

Two magnitudes counted in the same unit are compared by their rounded significands.
If the larger one is counted in a larger unit, a power of two lies between them: the
smaller is rounded to at most `2 ^ 53` units, the larger to at least `2 ^ 52`.
-/

namespace DeckScript.Binary64

/-! ## Rounding to integers -/

theorem floor_le_roundEven (q : Rat) : q.floor ≤ roundEven q := by
  unfold roundEven
  dsimp only
  split_ifs <;> omega

theorem roundEven_le_floor_add_one (q : Rat) : roundEven q ≤ q.floor + 1 := by
  unfold roundEven
  dsimp only
  split_ifs <;> omega

theorem roundEven_mono {q r : Rat} (hle : q ≤ r) : roundEven q ≤ roundEven r := by
  have hfloor : q.floor ≤ r.floor := Int.floor_le_floor hle
  rcases hfloor.lt_or_eq with hlt | heq
  · calc roundEven q ≤ q.floor + 1 := roundEven_le_floor_add_one q
      _ ≤ r.floor := hlt
      _ ≤ roundEven r := floor_le_roundEven r
  · -- with the same floor the excess decides
    unfold roundEven
    dsimp only
    rw [heq]
    split_ifs <;> first | omega | (exfalso; linarith)

theorem roundEven_intCast (n : Int) : roundEven n = n := by
  have hfloor : (n : Rat).floor = n := Rat.floor_intCast n
  unfold roundEven
  dsimp only
  rw [hfloor, sub_self, if_pos (by norm_num)]

/-! ## The unit of a magnitude -/

theorem two_zpow_pos (k : Int) : (0 : Rat) < (2 : Rat) ^ k :=
  zpow_pos (by norm_num) k

theorem two_zpow_add (k l : Int) : (2 : Rat) ^ (k + l) = (2 : Rat) ^ k * (2 : Rat) ^ l :=
  zpow_add₀ (by norm_num) k l

theorem two_zpow_le {k l : Int} (hle : k ≤ l) : (2 : Rat) ^ k ≤ (2 : Rat) ^ l :=
  zpow_le_zpow_right₀ (by norm_num) hle

/-- The binary logarithms of numerator and denominator give the order up to one. -/
theorem binaryOrder_spec {q : Rat} (hq : 0 < q) :
    (2 : Rat) ^ binaryOrder q ≤ q ∧ q < (2 : Rat) ^ (binaryOrder q + 1) := by
  have hnum : 0 < q.num := Rat.num_pos.2 hq
  have hnumNat : ((q.num.toNat : Nat) : Rat) = (q.num : Rat) := by
    exact_mod_cast Int.toNat_of_nonneg hnum.le
  have hvalue : q * q.den = q.num := Rat.mul_den_eq_num q
  have hden : (0 : Rat) < q.den := by exact_mod_cast q.den_pos
  -- both logarithms are exact up to a factor of two
  have hnumLow : (2 : Rat) ^ (Nat.log2 q.num.toNat : Int) ≤ q.num := by
    rw [← hnumNat, zpow_natCast]
    exact_mod_cast Nat.log2_self_le (by omega)
  have hnumHigh : (q.num : Rat) < (2 : Rat) ^ ((Nat.log2 q.num.toNat : Int) + 1) := by
    rw [← hnumNat]
    exact_mod_cast Nat.lt_log2_self (n := q.num.toNat)
  have hdenLow : (2 : Rat) ^ (Nat.log2 q.den : Int) ≤ q.den := by
    rw [zpow_natCast]
    exact_mod_cast Nat.log2_self_le q.den_nz
  have hdenHigh : (q.den : Rat) < (2 : Rat) ^ ((Nat.log2 q.den : Int) + 1) := by
    exact_mod_cast Nat.lt_log2_self (n := q.den)
  set k : Int := Nat.log2 q.num.toNat - Nat.log2 q.den with hk
  have hhigh : q < (2 : Rat) ^ (k + 1) := by
    refine lt_of_mul_lt_mul_right ?_ hden.le
    calc q * q.den = q.num := hvalue
      _ < (2 : Rat) ^ ((Nat.log2 q.num.toNat : Int) + 1) := hnumHigh
      _ = (2 : Rat) ^ (k + 1) * (2 : Rat) ^ (Nat.log2 q.den : Int) := by
        rw [← two_zpow_add]
        congr 1
        omega
      _ ≤ (2 : Rat) ^ (k + 1) * q.den :=
        mul_le_mul_of_nonneg_left hdenLow (two_zpow_pos _).le
  have hlow : (2 : Rat) ^ (k - 1) ≤ q := by
    refine le_of_mul_le_mul_right ?_ hden
    calc (2 : Rat) ^ (k - 1) * q.den
        ≤ (2 : Rat) ^ (k - 1) * (2 : Rat) ^ ((Nat.log2 q.den : Int) + 1) :=
          mul_le_mul_of_nonneg_left hdenHigh.le (two_zpow_pos _).le
      _ = (2 : Rat) ^ (Nat.log2 q.num.toNat : Int) := by
        rw [← two_zpow_add]
        congr 1
        omega
      _ ≤ q.num := hnumLow
      _ = q * q.den := hvalue.symm
  unfold binaryOrder
  rw [← hk]
  dsimp only
  split_ifs with hpower
  · exact ⟨hpower, hhigh⟩
  · exact ⟨hlow, by rw [sub_add_cancel]; exact not_le.1 hpower⟩

theorem binaryOrder_mono {q r : Rat} (hq : 0 < q) (hle : q ≤ r) :
    binaryOrder q ≤ binaryOrder r := by
  have hpowers : (2 : Rat) ^ binaryOrder q < (2 : Rat) ^ (binaryOrder r + 1) :=
    calc (2 : Rat) ^ binaryOrder q ≤ q := (binaryOrder_spec hq).1
      _ ≤ r := hle
      _ < (2 : Rat) ^ (binaryOrder r + 1) := (binaryOrder_spec (hq.trans_le hle)).2
  have horders := (zpow_lt_zpow_iff_right₀ (by norm_num : (1 : Rat) < 2)).1 hpowers
  omega

theorem unitOrder_mono {q r : Rat} (hq : 0 < q) (hle : q ≤ r) : unitOrder q ≤ unitOrder r := by
  have horder := binaryOrder_mono hq hle
  unfold unitOrder
  omega

/-- A magnitude is less than `2 ^ 53` of its units. -/
theorem scaled_lt {q : Rat} (hq : 0 < q) :
    q * (2 : Rat) ^ (-unitOrder q) < (2 : Rat) ^ (53 : Int) := by
  have hunit : binaryOrder q + 1 ≤ 53 + unitOrder q := by
    unfold unitOrder
    omega
  calc q * (2 : Rat) ^ (-unitOrder q)
      < (2 : Rat) ^ (binaryOrder q + 1) * (2 : Rat) ^ (-unitOrder q) :=
        mul_lt_mul_of_pos_right (binaryOrder_spec hq).2 (two_zpow_pos _)
    _ ≤ (2 : Rat) ^ (53 + unitOrder q) * (2 : Rat) ^ (-unitOrder q) :=
        mul_le_mul_of_nonneg_right (two_zpow_le hunit) (two_zpow_pos _).le
    _ = (2 : Rat) ^ (53 : Int) := by
        rw [← two_zpow_add]
        congr 1
        omega

/-- A magnitude with a unit above the least is at least `2 ^ 52` of its units. -/
theorem le_scaled {q : Rat} (hq : 0 < q) (hunit : -1074 < unitOrder q) :
    (2 : Rat) ^ (52 : Int) ≤ q * (2 : Rat) ^ (-unitOrder q) := by
  have horder : binaryOrder q = 52 + unitOrder q := by
    unfold unitOrder at hunit ⊢
    omega
  calc (2 : Rat) ^ (52 : Int) = (2 : Rat) ^ (52 + unitOrder q) * (2 : Rat) ^ (-unitOrder q) := by
        rw [← two_zpow_add]
        congr 1
        omega
    _ ≤ q * (2 : Rat) ^ (-unitOrder q) := by
        rw [← horder]
        exact mul_le_mul_of_nonneg_right (binaryOrder_spec hq).1 (two_zpow_pos _).le

/-! ## Significands -/

/-- The number of units that a magnitude is rounded to. -/
def significand (q : Rat) : Nat :=
  (roundEven (q * (2 : Rat) ^ (-unitOrder q))).toNat

theorem significand_le {q : Rat} (hq : 0 < q) : significand q ≤ Nat.pow 2 53 := by
  have hround : roundEven (q * (2 : Rat) ^ (-unitOrder q)) ≤ ((2 ^ 53 : Int)) := by
    rw [← roundEven_intCast (2 ^ 53)]
    refine roundEven_mono ((scaled_lt hq).le.trans ?_)
    norm_num
  unfold significand
  have hpow : Nat.pow 2 53 = 9007199254740992 := by norm_num
  omega

theorem le_significand {q : Rat} (hq : 0 < q) (hunit : -1074 < unitOrder q) :
    Nat.pow 2 52 ≤ significand q := by
  have hround : (2 ^ 52 : Int) ≤ roundEven (q * (2 : Rat) ^ (-unitOrder q)) := by
    rw [← roundEven_intCast (2 ^ 52)]
    refine roundEven_mono (le_trans ?_ (le_scaled hq hunit))
    norm_num
  unfold significand
  have hpow : Nat.pow 2 52 = 4503599627370496 := by norm_num
  omega

/-- The magnitude that `q` is rounded to, the range of the format aside. -/
def rounded (q : Rat) : Rat :=
  if q ≤ 0 then 0 else significand q * (2 : Rat) ^ unitOrder q

theorem rounded_nonneg (q : Rat) : 0 ≤ rounded q := by
  unfold rounded
  split_ifs
  · exact le_rfl
  · exact mul_nonneg (Nat.cast_nonneg _) (two_zpow_pos _).le

theorem rounded_mono {q r : Rat} (hle : q ≤ r) : rounded q ≤ rounded r := by
  by_cases hq : q ≤ 0
  · rw [rounded, if_pos hq]
    exact rounded_nonneg r
  · have hqpos : 0 < q := not_le.1 hq
    have hrpos : 0 < r := hqpos.trans_le hle
    rw [rounded, if_neg hq, rounded, if_neg (not_le.2 hrpos)]
    rcases (unitOrder_mono hqpos hle).lt_or_eq with hlt | heq
    · -- a power of two lies between the two
      have hunit : -1074 < unitOrder r := by
        have hleast : -1074 ≤ unitOrder q := le_max_right _ _
        omega
      have hsmall : (significand q : Rat) ≤ (2 : Rat) ^ (53 : Int) := by
        exact_mod_cast significand_le hqpos
      have hlarge : (2 : Rat) ^ (52 : Int) ≤ significand r := by
        exact_mod_cast le_significand hrpos hunit
      calc significand q * (2 : Rat) ^ unitOrder q
          ≤ (2 : Rat) ^ (53 : Int) * (2 : Rat) ^ unitOrder q :=
            mul_le_mul_of_nonneg_right hsmall (two_zpow_pos _).le
        _ ≤ (2 : Rat) ^ (52 : Int) * (2 : Rat) ^ unitOrder r := by
            rw [← two_zpow_add, ← two_zpow_add]
            exact two_zpow_le (by omega)
        _ ≤ significand r * (2 : Rat) ^ unitOrder r :=
            mul_le_mul_of_nonneg_right hlarge (two_zpow_pos _).le
    · -- counted in the same unit, the significands are compared
      have hscaled : q * (2 : Rat) ^ (-unitOrder q) ≤ r * (2 : Rat) ^ (-unitOrder r) := by
        rw [heq]
        exact mul_le_mul_of_nonneg_right hle (two_zpow_pos _).le
      have hsignificand : significand q ≤ significand r :=
        Int.toNat_le_toNat (roundEven_mono hscaled)
      rw [heq]
      exact mul_le_mul_of_nonneg_right (by exact_mod_cast hsignificand) (two_zpow_pos _).le

/-! ## Numbers of the format -/

/-- The significand has 53 binary digits at most, and the exponent is in range. -/
def InFormat : Binary64 → Prop
  | finite _ m e => m < Nat.pow 2 53 ∧ e ≤ 971
  | _ => True

theorem InFormat.magnitude_lt {negative : Bool} {m : Nat} {e : Int}
    (hformat : (finite negative m e).InFormat) :
    (m : Rat) * (2 : Rat) ^ e < (2 : Rat) ^ (1024 : Int) := by
  have hm : (m : Rat) < (2 : Rat) ^ (53 : Int) := by exact_mod_cast hformat.1
  calc (m : Rat) * (2 : Rat) ^ e
      < (2 : Rat) ^ (53 : Int) * (2 : Rat) ^ e := mul_lt_mul_of_pos_right hm (two_zpow_pos _)
    _ ≤ (2 : Rat) ^ (53 : Int) * (2 : Rat) ^ (971 : Int) :=
        mul_le_mul_of_nonneg_left (two_zpow_le hformat.2) (two_zpow_pos _).le
    _ = (2 : Rat) ^ (1024 : Int) := by
        rw [← two_zpow_add]
        norm_num

theorem ofMagnitude_of_pos {q : Rat} (hq : 0 < q) (negative : Bool) :
    ofMagnitude negative q =
      if significand q < Nat.pow 2 53 then
        if unitOrder q ≤ 971 then finite negative (significand q) (unitOrder q)
        else infinite negative
      else
        if unitOrder q + 1 ≤ 971 then finite negative (significand q / 2) (unitOrder q + 1)
        else infinite negative := by
  rw [ofMagnitude, if_neg (not_le.2 hq)]
  rfl

/-- A significand that is rounded up to 54 digits is a power of two. -/
theorem half_significand {q : Rat} (hq : 0 < q) (hlarge : ¬ significand q < Nat.pow 2 53) :
    significand q / 2 = Nat.pow 2 52 ∧
      ((significand q / 2 : Nat) : Rat) * (2 : Rat) ^ (unitOrder q + 1) =
        significand q * (2 : Rat) ^ unitOrder q := by
  have heq : significand q = Nat.pow 2 53 := le_antisymm (significand_le hq) (not_lt.1 hlarge)
  refine ⟨by rw [heq], ?_⟩
  rw [heq, two_zpow_add]
  norm_num
  ring

/-- A magnitude is rounded to a number of the format with the rounded value, or to infinity if
that is out of range. -/
theorem ofMagnitude_spec (negative : Bool) (q : Rat) :
    (∃ m e, ofMagnitude negative q = finite negative m e ∧
      (finite negative m e).InFormat ∧ (m : Rat) * (2 : Rat) ^ e = rounded q) ∨
    (ofMagnitude negative q = infinite negative ∧ (2 : Rat) ^ (1024 : Int) ≤ rounded q) := by
  by_cases hq : q ≤ 0
  · refine .inl ⟨0, -1074, by rw [ofMagnitude, if_pos hq], ⟨by decide, by omega⟩, ?_⟩
    rw [rounded, if_pos hq, Nat.cast_zero, zero_mul]
  · have hqpos : 0 < q := not_le.1 hq
    rw [rounded, if_neg hq, ofMagnitude_of_pos hqpos]
    by_cases hm : significand q < Nat.pow 2 53
    · rw [if_pos hm]
      by_cases he : unitOrder q ≤ 971
      · rw [if_pos he]
        exact .inl ⟨_, _, rfl, ⟨hm, he⟩, rfl⟩
      · rw [if_neg he]
        have hlarge : (2 : Rat) ^ (52 : Int) ≤ significand q := by
          exact_mod_cast le_significand hqpos (by omega)
        refine .inr ⟨rfl, ?_⟩
        calc (2 : Rat) ^ (1024 : Int) ≤ (2 : Rat) ^ (52 : Int) * (2 : Rat) ^ unitOrder q := by
              rw [← two_zpow_add]
              exact two_zpow_le (by omega)
          _ ≤ significand q * (2 : Rat) ^ unitOrder q :=
              mul_le_mul_of_nonneg_right hlarge (two_zpow_pos _).le
    · -- the significand was rounded up to a power of two
      obtain ⟨hhalf, hvalue⟩ := half_significand hqpos hm
      rw [if_neg hm, ← hvalue, hhalf]
      by_cases he : unitOrder q + 1 ≤ 971
      · rw [if_pos he]
        exact .inl ⟨_, _, rfl, ⟨by norm_num, he⟩, rfl⟩
      · rw [if_neg he]
        refine .inr ⟨rfl, ?_⟩
        calc (2 : Rat) ^ (1024 : Int) ≤ (2 : Rat) ^ (52 : Int) * (2 : Rat) ^ (unitOrder q + 1) := by
              rw [← two_zpow_add]
              exact two_zpow_le (by omega)
          _ = ((Nat.pow 2 52 : Nat) : Rat) * (2 : Rat) ^ (unitOrder q + 1) := by norm_num

theorem inFormat_ofMagnitude (negative : Bool) (q : Rat) : (ofMagnitude negative q).InFormat := by
  rcases ofMagnitude_spec negative q with ⟨m, e, heq, hformat, -⟩ | ⟨heq, -⟩
  · rw [heq]
    exact hformat
  · rw [heq]
    trivial

/-! ## The extended line -/

/-- Where a number lies on the line from minus to plus infinity.  NaN lies nowhere. -/
def place : Binary64 → WithBot (WithTop Rat)
  | finite negative m e => ((finite negative m e).value : WithTop Rat)
  | infinite negative => if negative then ⊥ else ⊤
  | nan => ⊥

theorem lt_iff_place_lt {x y : Binary64} (hx : x ≠ nan) (hy : y ≠ nan) :
    x.lt y = true ↔ x.place < y.place := by
  cases x with
  | nan => exact absurd rfl hx
  | infinite negative =>
    cases y with
    | nan => exact absurd rfl hy
    | infinite negative' => cases negative <;> cases negative' <;> simp [lt, place]
    | finite => cases negative <;> simp [lt, place]
  | finite negative m e =>
    cases y with
    | nan => exact absurd rfl hy
    | infinite negative' =>
      cases negative' with
      | true => simp [lt, place]
      | false =>
        have hlt : (finite negative m e).place < (infinite false).place :=
          WithBot.coe_lt_coe.2 (WithTop.coe_lt_top _)
        exact iff_of_true rfl hlt
    | finite => simp [lt, place]

theorem ne_nan_of_lt {x y : Binary64} (hlt : x.lt y = true) : x ≠ nan ∧ y ≠ nan := by
  cases x <;> cases y <;> simp_all [lt]

theorem lt_eq_false_of_lt {x y : Binary64} (hlt : x.lt y = true) : y.lt x = false := by
  obtain ⟨hx, hy⟩ := ne_nan_of_lt hlt
  have hplace : x.place < y.place := (lt_iff_place_lt hx hy).1 hlt
  rw [Bool.eq_false_iff, ne_eq, lt_iff_place_lt hy hx]
  exact hplace.not_gt

/-- The value that `q` is rounded to, the range of the format aside. -/
def nearest (q : Rat) : Rat :=
  if q < 0 then -rounded (-q) else rounded q

theorem nearest_mono {q r : Rat} (hle : q ≤ r) : nearest q ≤ nearest r := by
  unfold nearest
  split_ifs with hq hr hr
  · exact neg_le_neg (rounded_mono (neg_le_neg hle))
  · exact (neg_nonpos.2 (rounded_nonneg _)).trans (rounded_nonneg _)
  · exact absurd (hle.trans_lt hr) hq
  · exact rounded_mono hle

/-- The place of a value, which may be out of the range of the format. -/
def bounded (v : Rat) : WithBot (WithTop Rat) :=
  if (2 : Rat) ^ (1024 : Int) ≤ v then ⊤
  else if v ≤ -(2 : Rat) ^ (1024 : Int) then ⊥
  else (v : WithTop Rat)

theorem bounded_mono {v w : Rat} (hle : v ≤ w) : bounded v ≤ bounded w := by
  have hpos := two_zpow_pos 1024
  unfold bounded
  split_ifs with hv hw hw' hv' hw hw' hw hw'
  all_goals first
    | exact le_rfl
    | exact le_top
    | exact bot_le
    | (exfalso; linarith)
    | exact WithBot.coe_le_coe.2 (WithTop.coe_le_coe.2 hle)

theorem bounded_of_lt {v : Rat} (hlow : -(2 : Rat) ^ (1024 : Int) < v)
    (hhigh : v < (2 : Rat) ^ (1024 : Int)) : bounded v = (v : WithTop Rat) := by
  rw [bounded, if_neg (not_le.2 hhigh), if_neg (not_le.2 hlow)]

/-- A magnitude with a sign lies where its rounded value does. -/
theorem place_ofMagnitude (negative : Bool) (q : Rat) :
    (ofMagnitude negative q).place =
      bounded (if negative then -rounded q else rounded q) := by
  have hpos := two_zpow_pos 1024
  have hnonneg := rounded_nonneg q
  rcases ofMagnitude_spec negative q with ⟨m, e, heq, hformat, hvalue⟩ | ⟨heq, hlarge⟩
  · have hlt : rounded q < (2 : Rat) ^ (1024 : Int) := hvalue ▸ hformat.magnitude_lt
    have hplace : (finite negative m e).place =
        ((if negative then -rounded q else rounded q : Rat) : WithTop Rat) := by
      rw [place, value, hvalue]
    rw [heq, hplace]
    cases negative with
    | true => exact (bounded_of_lt (neg_lt_neg hlt) ((neg_nonpos.2 hnonneg).trans_lt hpos)).symm
    | false => exact (bounded_of_lt ((neg_lt_zero.2 hpos).trans_le hnonneg) hlt).symm
  · rw [heq, place, bounded]
    cases negative with
    | true =>
      have hlow : -rounded q < (2 : Rat) ^ (1024 : Int) := (neg_nonpos.2 hnonneg).trans_lt hpos
      simp only [if_true]
      rw [if_neg (not_le.2 hlow), if_pos (neg_le_neg hlarge)]
    | false =>
      simp only [Bool.false_eq_true, if_false]
      rw [if_pos hlarge]

theorem ofMagnitude_ne_nan (negative : Bool) (q : Rat) : ofMagnitude negative q ≠ nan := by
  rcases ofMagnitude_spec negative q with ⟨m, e, heq, -⟩ | ⟨heq, -⟩ <;> rw [heq] <;> simp

theorem place_ofRat (q : Rat) : (ofRat q).place = bounded (nearest q) := by
  unfold ofRat nearest
  split_ifs <;> rw [place_ofMagnitude] <;> simp

theorem ofRat_ne_nan (q : Rat) : ofRat q ≠ nan := by
  unfold ofRat
  split_ifs <;> exact ofMagnitude_ne_nan _ _

theorem inFormat_ofRat (q : Rat) : (ofRat q).InFormat := by
  unfold ofRat
  split_ifs <;> exact inFormat_ofMagnitude _ _

theorem rounded_zero : rounded 0 = 0 := by
  rw [rounded, if_pos le_rfl]

/-- A signed zero lies where zero does. -/
theorem place_ofMagnitude_signed (negative : Bool) {q : Rat} (hq : 0 ≤ q) :
    (ofMagnitude negative q).place = bounded (nearest (if negative then -q else q)) := by
  rw [place_ofMagnitude]
  cases negative with
  | false => simp only [Bool.false_eq_true, if_false, nearest, if_neg (not_lt.2 hq)]
  | true =>
    simp only [if_true, nearest, neg_neg]
    split_ifs with hneg
    · rfl
    · have hzero : q = 0 := le_antisymm (neg_nonneg.1 (not_lt.1 hneg)) hq
      rw [hzero, neg_zero, rounded_zero, neg_zero]

/-! ## Sums with a larger number -/

/-- The number is neither infinite nor NaN. -/
def IsFinite : Binary64 → Prop
  | finite .. => True
  | _ => False

theorem place_of_isFinite {x : Binary64} (hx : x.IsFinite) : x.place = (x.value : WithTop Rat) := by
  cases x with
  | finite => rfl
  | infinite => exact hx.elim
  | nan => exact hx.elim

theorem value_le_of_place_le {x y : Binary64} (hx : x.IsFinite) (hy : y.IsFinite)
    (hle : x.place ≤ y.place) : x.value ≤ y.value := by
  rw [place_of_isFinite hx, place_of_isFinite hy] at hle
  exact WithTop.coe_le_coe.1 (WithBot.coe_le_coe.1 hle)

/-- A magnitude that is well within the range is not rounded to infinity. -/
theorem isFinite_ofMagnitude (negative : Bool) {q : Rat} (hq : q < (2 : Rat) ^ (1023 : Int)) :
    (ofMagnitude negative q).IsFinite := by
  by_cases hpos : 0 < q
  · have horder : binaryOrder q < 1023 :=
      (zpow_lt_zpow_iff_right₀ (by norm_num : (1 : Rat) < 2)).1
        ((binaryOrder_spec hpos).1.trans_lt hq)
    have hunit : unitOrder q + 1 ≤ 971 := by
      unfold unitOrder
      omega
    rw [ofMagnitude_of_pos hpos, if_pos hunit, if_pos (by omega : unitOrder q ≤ 971)]
    split_ifs <;> trivial
  · rw [ofMagnitude, if_pos (not_lt.1 hpos)]
    trivial

/-- What is past `y` is past `x`, and what is before `x` is before `y`. -/
structure NotAfter (x y : Binary64) : Prop where
  past : ∀ z : Binary64, y.lt z = true → x.lt z = true
  before : ∀ z : Binary64, z.lt x = true → z.lt y = true

theorem NotAfter.refl (x : Binary64) : NotAfter x x :=
  ⟨fun _ h => h, fun _ h => h⟩

theorem notAfter_of_place_le {x y : Binary64} (hx : x ≠ nan) (hy : y ≠ nan)
    (hle : x.place ≤ y.place) : NotAfter x y where
  past z hlt := by
    have hz := (ne_nan_of_lt hlt).2
    exact (lt_iff_place_lt hx hz).2 (hle.trans_lt ((lt_iff_place_lt hy hz).1 hlt))
  before z hlt := by
    have hz := (ne_nan_of_lt hlt).1
    exact (lt_iff_place_lt hz hy).2 (((lt_iff_place_lt hz hx).1 hlt).trans_le hle)

theorem place_add {x y : Binary64} (hx : x.IsFinite) (hy : y.IsFinite) :
    x.add y ≠ nan ∧ (x.add y).place = bounded (nearest (x.value + y.value)) := by
  cases x with
  | infinite => exact hx.elim
  | nan => exact hx.elim
  | finite negative m e =>
    cases y with
    | infinite => exact hy.elim
    | nan => exact hy.elim
    | finite negative' m' e' =>
      rw [add]
      split_ifs with hsum
      · refine ⟨by simp, ?_⟩
        have hzero := place_ofRat 0
        rw [hsum, ← hzero]
        cases negative <;> cases negative' <;> simp [place, value, ofRat, ofMagnitude]
      · exact ⟨ofRat_ne_nan _, place_ofRat _⟩

/-- The sum with a larger number is not less. -/
theorem notAfter_add (start : Binary64) {x y : Binary64} (hx : x.IsFinite) (hy : y.IsFinite)
    (hle : x.value ≤ y.value) : NotAfter (start.add x) (start.add y) := by
  by_cases hstart : start.IsFinite
  · obtain ⟨hnan, hplace⟩ := place_add hstart hx
    obtain ⟨hnan', hplace'⟩ := place_add hstart hy
    refine notAfter_of_place_le hnan hnan' ?_
    rw [hplace, hplace']
    exact bounded_mono (nearest_mono (by linarith))
  · -- a clock that does not show a finite time stays as it is
    have hsame (z : Binary64) (hz : z.IsFinite) : start.add z = start := by
      cases start <;> cases z <;> simp_all [add, IsFinite]
    rw [hsame x hx, hsame y hy]
    exact .refl start

end DeckScript.Binary64
