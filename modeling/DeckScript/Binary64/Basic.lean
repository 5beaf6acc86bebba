/-!
# Numbers of the 64-bit binary format

A finite number is a sign, a significand and a power of two, and its value is an
exact rational.  Every operation computes the exact rational result and rounds it
once: to the nearest number of the format, a tie going to the even significand.
The machine's own floating point plays no part, so results can be reasoned about.
-/

namespace DeckScript

/-- A number of the 64-bit binary format.  `finite negative m e` is `± m · 2 ^ e`. -/
inductive Binary64 where
  | finite (negative : Bool) (significand : Nat) (exponent : Int)
  | infinite (negative : Bool)
  | nan
deriving Repr, DecidableEq, Inhabited

namespace Binary64

/-- Positive zero. -/
def zero : Binary64 := finite false 0 (-1074)

/-- The exact value of a finite number; infinities and NaN have none and are given `0`. -/
def value : Binary64 → Rat
  | finite negative m e =>
    let magnitude := (m : Rat) * (2 : Rat) ^ e
    if negative then -magnitude else magnitude
  | _ => 0

/-! ## Rounding -/

/-- The integer nearest to `q`, the even one of two equally near. -/
def roundEven (q : Rat) : Int :=
  let below := q.floor
  let excess := q - below
  if excess < 1 / 2 then below
  else if 1 / 2 < excess then below + 1
  else if below % 2 = 0 then below
  else below + 1

/-- The greatest `k` with `2 ^ k ≤ q`, for a positive `q`. -/
def binaryOrder (q : Rat) : Int :=
  let k : Int := Nat.log2 q.num.toNat - Nat.log2 q.den
  if (2 : Rat) ^ k ≤ q then k else k - 1

/-- The power of two that a positive `q` is counted in: 53 binary digits, but never finer than
the least positive number. -/
def unitOrder (q : Rat) : Int :=
  max (binaryOrder q - 52) (-1074)

/-- The number nearest to a magnitude `q ≥ 0`, with the given sign.  A significand that rounds
up to 54 digits moves to the next power of two, and what is then beyond the largest finite
number is infinite. -/
def ofMagnitude (negative : Bool) (q : Rat) : Binary64 :=
  if q ≤ 0 then finite negative 0 (-1074)
  else
    let e := unitOrder q
    let m := (roundEven (q * (2 : Rat) ^ (-e))).toNat
    if m < Nat.pow 2 53 then
      if e ≤ 971 then finite negative m e else infinite negative
    else
      if e + 1 ≤ 971 then finite negative (m / 2) (e + 1) else infinite negative

/-- The number nearest to `q`. -/
def ofRat (q : Rat) : Binary64 :=
  if q < 0 then ofMagnitude true (-q) else ofMagnitude false q

/-- The number nearest to an integer, if that is finite. -/
def ofInt? (n : Int) : Option Binary64 :=
  match ofRat n with
  | finite negative m e => some (finite negative m e)
  | _ => none

/-! ## Arithmetic -/

/-- The number times a positive factor. -/
def scale (factor : Rat) : Binary64 → Binary64
  | finite negative m e => ofMagnitude negative ((m : Rat) * (2 : Rat) ^ e * factor)
  | x => x

/-- The sum.  An exact zero is negative only if both summands are. -/
def add : Binary64 → Binary64 → Binary64
  | nan, _ => nan
  | _, nan => nan
  | infinite n, infinite n' => if n = n' then infinite n else nan
  | infinite n, _ => infinite n
  | _, infinite n => infinite n
  | finite n m e, finite n' m' e' =>
    let sum := (finite n m e).value + (finite n' m' e').value
    if sum = 0 then finite (n && n') 0 (-1074) else ofRat sum

/-- Whether `x` is less than `y`; never so for NaN. -/
def lt : Binary64 → Binary64 → Bool
  | nan, _ => false
  | _, nan => false
  | infinite n, infinite n' => n && !n'
  | infinite n, _ => n
  | _, infinite n => !n
  | finite n m e, finite n' m' e' => decide ((finite n m e).value < (finite n' m' e').value)

/-! ## Integers among them -/

/-- Whether the number is zero, of either sign. -/
def isZero : Binary64 → Bool
  | finite _ m _ => m == 0
  | _ => false

/-- Whether the number is finite and whole. -/
def isWhole : Binary64 → Bool
  | finite _ m e => decide (0 ≤ e) || m % Nat.pow 2 (-e).toNat == 0
  | _ => false

/-- A finite number without its fraction. -/
def truncate : Binary64 → Int
  | finite negative m e =>
    let magnitude : Nat := if 0 ≤ e then m * Nat.pow 2 e.toNat else m / Nat.pow 2 (-e).toNat
    if negative then -magnitude else magnitude
  | _ => 0

end Binary64

end DeckScript
