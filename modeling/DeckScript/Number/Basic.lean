import DeckScript.Binary64.Decimal
import DeckScript.Text.Quoted

/-!
# Numbers of scripts and decks

A number is an integer of any size or a binary fraction.  Conversions between
integers and decimal text are limited to 4300 digits; everything that can go wrong
in a conversion is a `NumberError`.
-/

namespace DeckScript

/-- An integer, or a number of the 64-bit binary format. -/
inductive Number where
  | int (n : Int)
  | real (x : Binary64)
deriving Repr, DecidableEq, Inhabited

/-- Why a conversion of a number failed. -/
inductive NumberError where
  /-- A text with more digits than may be read as an integer. -/
  | tooLongToRead (digits : Nat)
  /-- An integer with more digits than may be written. -/
  | tooLongToWrite
  /-- A text that is no integer. -/
  | notInteger (text : String)
  /-- Infinity has no integer part. -/
  | infinite
  /-- NaN has no integer part. -/
  | undefined
  /-- An integer beyond the range of the binary format. -/
  | outOfRange
deriving Repr, DecidableEq

namespace Number

/-- The number of decimal digits that are converted between text and integer. -/
def digitLimit : Nat := 4300

/-- The least magnitude whose decimal text is over the limit. -/
@[irreducible] def writeLimit : Nat := Nat.pow 10 digitLimit

/-- The decimal text of an integer, which has to be within the limit. -/
def writeInt (n : Int) : Except NumberError String :=
  if n.natAbs < writeLimit then .ok n.repr else .error .tooLongToWrite

/-- Whether the text of the number is within the limit. -/
def isWritable : Number → Bool
  | int n => decide (n.natAbs < writeLimit)
  | real _ => true

/-- The text of a number, which shows its kind: a whole binary number has a fraction `.0`. -/
def text : Number → String
  | int n => n.repr
  | real x => toString x

/-- Whether the number differs from zero; NaN does. -/
def isTruthy : Number → Bool
  | int n => n != 0
  | real x => !x.isZero

/-- The integer part. -/
def integerPart : Number → Except NumberError Int
  | int n => .ok n
  | real .nan => .error .undefined
  | real (.infinite _) => .error .infinite
  | real x => .ok x.truncate

end Number

/-- The wording of an error. -/
def NumberError.message : NumberError → String
  | tooLongToRead digits =>
    "Exceeds the limit (4300 digits) for integer string conversion: value has " ++ digits.repr
      ++ " digits; use sys.set_int_max_str_digits() to increase the limit"
  | tooLongToWrite =>
    "Exceeds the limit (4300 digits) for integer string conversion; " ++
      "use sys.set_int_max_str_digits() to increase the limit"
  | notInteger text =>
    "invalid literal for int() with base 10: " ++
      String.ofList ((Text.quote text.toList).take 200)
  | infinite => "cannot convert float infinity to integer"
  | undefined => "cannot convert float NaN to integer"
  | outOfRange => "int too large to convert to float"

end DeckScript
