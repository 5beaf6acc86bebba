import DeckScript.Number.Basic
import DeckScript.Text.Blank
import DeckScript.Text.Digit

/-!
# Reading numbers

A numeral is an optional sign, decimal digits with an optional point among or around
them, and an optional power of ten.  Digits may come from any script.  A numeral
without point and exponent is an integer as long as it has at most 4300 digits;
every other one is rounded to the binary format.

Integers standing alone (loop bounds, settings) are read by a second rule: blanks
around them are skipped and single underscores between digits are allowed.
-/

namespace DeckScript

/-- The parts of a written number. -/
structure Numeral where
  negative : Bool
  /-- The digits before the point. -/
  whole : List Nat
  /-- The digits after the point, if there is a point. -/
  fraction : Option (List Nat)
  /-- The power of ten, if one is written. -/
  exponent : Option Int
deriving Repr, DecidableEq

namespace Numeral

open Text

/-- Reads an optional sign: whether it is a minus, and the rest. -/
def splitSign : List Char → Bool × List Char
  | '-' :: cs => (true, cs)
  | '+' :: cs => (false, cs)
  | cs => (false, cs)

/-- `n`, negated if asked for. -/
def signed (negative : Bool) (n : Nat) : Int :=
  if negative then -(n : Int) else n

/-- Reads digits with an optional point; at least one digit has to be there, and a point that
comes first needs digits after it. -/
def splitDigits (cs : List Char) : Option (List Nat × Option (List Nat) × List Char) :=
  match leadingDigits cs, afterDigits cs with
  | [], '.' :: rest =>
    match leadingDigits rest with
    | [] => none
    | digits => some ([], some digits, afterDigits rest)
  | [], _ => none
  | whole, '.' :: rest => some (whole, some (leadingDigits rest), afterDigits rest)
  | whole, rest => some (whole, none, rest)

/-- Reads an optional power of ten. -/
def splitExponent (cs : List Char) : Option Int × List Char :=
  match cs with
  | [] => (none, [])
  | c :: rest =>
    if c = 'e' ∨ c = 'E' then
      match splitSign rest with
      | (negative, body) =>
        match leadingDigits body with
        | [] => (none, c :: rest)
        | digits => (some (signed negative (ofDigits digits)), afterDigits body)
    else (none, c :: rest)

/-- The numeral that makes up a whole text; one line feed may follow it. -/
def ofText? (cs : List Char) : Option Numeral :=
  match splitSign cs with
  | (negative, unsigned) =>
    match splitDigits unsigned with
    | none => none
    | some (whole, fraction, afterDigits) =>
      match splitExponent afterDigits with
      | (exponent, rest) =>
        if rest = [] ∨ rest = ['\n'] then some ⟨negative, whole, fraction, exponent⟩ else none

/-- The number nearest to the numeral in the binary format. -/
def toBinary (numeral : Numeral) : Binary64 :=
  let fraction := numeral.fraction.getD []
  Binary64.ofDecimal numeral.negative (ofDigits (numeral.whole ++ fraction))
    (numeral.exponent.getD 0 - fraction.length)

/-- The number that a numeral writes. -/
def value (numeral : Numeral) : Number :=
  if numeral.fraction = none ∧ numeral.exponent = none ∧
      numeral.whole.length ≤ Number.digitLimit then
    .int (signed numeral.negative (ofDigits numeral.whole))
  else
    .real numeral.toBinary

end Numeral

namespace Number

open Text

/-- The number that makes up a whole text, if it is one. -/
def ofText? (text : String) : Option Number :=
  (Numeral.ofText? text.toList).map Numeral.value

/-- The integer with the given digits. -/
def ofDigitRun (negative : Bool) (digits : List Nat) : Except NumberError Int :=
  if digits.length ≤ digitLimit then .ok (Numeral.signed negative (ofDigits digits))
  else .error (.tooLongToRead digits.length)

/-- The integer at the beginning of a text, leading blanks aside; `none` if there is none. -/
def leadingInteger (text : String) : Except NumberError (Option Int) :=
  match Numeral.splitSign (trimLeft text.toList) with
  | (negative, body) =>
    match leadingDigits body with
    | [] => .ok none
    | digits => (ofDigitRun negative digits).map some

/-- Blanks that may surround an integer: all but the information separators. -/
def isMargin (c : Char) : Bool :=
  isBlank c && !(decide (0x1C ≤ c.toNat) && decide (c.toNat ≤ 0x1F))

/-- Whether underscores stand only between digits, one at a time. -/
def wellSeparated : List Char → Bool
  | [] => true
  | ['_'] => false
  | '_' :: '_' :: _ => false
  | _ :: cs => wellSeparated cs

/-- Reads a text as an integer.  Misplaced underscores are reported before the digit limit, and
the limit before anything that follows the digits. -/
def readInteger (text : String) : Except NumberError Int :=
  match Numeral.splitSign (text.toList.dropWhile isMargin) with
  | (negative, body) =>
    let run := body.takeWhile fun c => isDigit c || c == '_'
    let rest := body.dropWhile fun c => isDigit c || c == '_'
    let digits := run.filterMap digit?
    if run.head? = some '_' ∨ wellSeparated run = false then .error (.notInteger text)
    else
      match ofDigitRun negative digits with
      | .error e => .error e
      | .ok n =>
        if digits = [] ∨ rest.dropWhile isMargin ≠ [] then .error (.notInteger text) else .ok n

end Number

end DeckScript
