import DeckScript.Binary64.Basic

/-!
# Decimal texts of binary numbers

Reading rounds the exact decimal.  Writing takes the fewest significant digits that
read back to the same number and, among those, the ones nearest to it.  Numbers from
`0.0001` up to but not including `10 ^ 16` are written positionally, always with a
fraction; the others have an exponent with a sign and at least two digits.
-/

namespace DeckScript.Binary64

/-! ## Reading -/

/-- The number nearest to `± digits · 10 ^ scale`.  Decimals that lie far outside the range are
recognised by their size alone. -/
def ofDecimal (negative : Bool) (digits : Nat) (scale : Int) : Binary64 :=
  if digits = 0 then finite negative 0 (-1074)
  else if 0 ≤ scale ∧ 1100 < Nat.log2 digits + 3 * scale then infinite negative
  else if scale < 0 ∧ Nat.log2 digits + 1 + 3 * scale < -1100 then finite negative 0 (-1074)
  else ofMagnitude negative ((digits : Rat) * (10 : Rat) ^ scale)

/-! ## The shortest digits -/

/-- The decimals that are read as `± m · 2 ^ e` reach from the first component to the second;
the ends belong to them if the third says so. -/
def readingInterval (m : Nat) (e : Int) : Rat × Rat × Bool :=
  let quarter := (2 : Rat) ^ (e - 2)
  let below := if m = Nat.pow 2 52 ∧ -1074 < e then 4 * m - 1 else 4 * m - 2
  ((below : Nat) * quarter, (4 * m + 2 : Nat) * quarter, m % 2 == 0)

/-- Whether the decimal `q` is read as `± m · 2 ^ e`. -/
def readsBack (m : Nat) (e : Int) (q : Rat) : Bool :=
  match readingInterval m e with
  | (low, high, closed) =>
    if closed then decide (low ≤ q) && decide (q ≤ high)
    else decide (low < q) && decide (q < high)

/-- The greatest `k` with `10 ^ k ≤ q`, for a positive `q` in the range of the format. -/
def decimalOrder (q : Rat) : Int :=
  let k := (binaryOrder q * 30103).fdiv 100000
  if (10 : Rat) ^ (k + 1) ≤ q then k + 1
  else if q < (10 : Rat) ^ k then k - 1
  else k

/-- The multiple of `10 ^ order` that is read as `m · 2 ^ e` and is nearest to it, the even one
of two equally near, if there is any. -/
def onGrid? (m : Nat) (e order : Int) (q : Rat) : Option Nat :=
  let grid := (10 : Rat) ^ order
  let below := (q / grid).floor.toNat
  let low := (below : Rat) * grid
  let high := (below + 1 : Nat) * grid
  match readsBack m e low, readsBack m e high with
  | true, false => some below
  | false, true => some (below + 1)
  | false, false => none
  | true, true =>
    if q - low < high - q then some below
    else if high - q < q - low then some (below + 1)
    else if below % 2 = 0 then some below
    else some (below + 1)

/-- Digits and power of ten of the shortest decimal, searched from one significant digit on. -/
def shortestFrom (m : Nat) (e : Int) (q : Rat) (order : Int) : Nat → Nat × Int
  | 0 => ((q / (10 : Rat) ^ order).floor.toNat, order)
  | more + 1 =>
    match onGrid? m e order q with
    | some digits => (digits, order)
    | none => shortestFrom m e q (order - 1) more

/-- Digits and power of ten of the shortest decimal that is read as `m · 2 ^ e`. -/
def shortest (m : Nat) (e : Int) : Nat × Int :=
  let q := (m : Rat) * (2 : Rat) ^ e
  shortestFrom m e q (decimalOrder q) 17

/-! ## Writing -/

/-- A number without the zeros at the end of its decimal digits, `count` of them at most. -/
def dropZeros : Nat → Nat → Nat
  | 0, n => n
  | count + 1, n => if n % 10 = 0 then dropZeros count (n / 10) else n

/-- The exponent of a decimal as it is written: with its sign and two digits at least. -/
def writeExponent (n : Int) : List Char :=
  let digits := Nat.toDigits 10 n.natAbs
  let padded := if digits.length < 2 then '0' :: digits else digits
  'e' :: (if n < 0 then '-' else '+') :: padded

/-- The decimal `0.d₁d₂… · 10 ^ point` with the digits `ds`. -/
def writeDecimal (ds : List Char) (point : Int) : List Char :=
  if -4 < point ∧ point ≤ 16 then
    if point ≤ 0 then
      ['0', '.'] ++ List.replicate (-point).toNat '0' ++ ds
    else if ds.length ≤ point.toNat then
      ds ++ List.replicate (point.toNat - ds.length) '0' ++ ['.', '0']
    else
      ds.take point.toNat ++ '.' :: ds.drop point.toNat
  else
    match ds with
    | [d] => d :: writeExponent (point - 1)
    | ds => ds.take 1 ++ '.' :: ds.drop 1 ++ writeExponent (point - 1)

/-- The text of a number. -/
def write : Binary64 → List Char
  | nan => ['n', 'a', 'n']
  | infinite negative => (if negative then ['-'] else []) ++ ['i', 'n', 'f']
  | finite negative m e =>
    let magnitude :=
      if m = 0 then ['0', '.', '0']
      else
        match shortest m e with
        | (digits, order) =>
          let all := Nat.toDigits 10 digits
          writeDecimal (Nat.toDigits 10 (dropZeros all.length digits)) (order + all.length)
    (if negative then ['-'] else []) ++ magnitude

instance : ToString Binary64 where
  toString x := String.ofList x.write

end DeckScript.Binary64
