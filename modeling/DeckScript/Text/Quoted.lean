import DeckScript.Text.Printable

/-!
# Quoted texts

Log and error messages show a text between quotes.  Single quotes are used unless
the text holds a single quote and no double quote; the quote in use, the backslash
and everything that is not printable are escaped.
-/

namespace DeckScript.Text

/-- The last `width` hexadecimal digits of `n`, the most significant first. -/
def hexDigits : Nat → Nat → List Char
  | 0, _ => []
  | width + 1, n => hexDigits width (n / 16) ++ [Nat.digitChar (n % 16)]

namespace Quoted

/-- The single quote. -/
def single : Char := '\x27'

/-- The quote written around a text. -/
def mark (cs : List Char) : Char :=
  if cs.contains single && !cs.contains '"' then '"' else single

/-- A character that is not printable, written by its code. -/
def escapeCode (n : Nat) : List Char :=
  if n < 0x100 then '\\' :: 'x' :: hexDigits 2 n
  else if n < 0x10000 then '\\' :: 'u' :: hexDigits 4 n
  else '\\' :: 'U' :: hexDigits 8 n

/-- One character as it stands between quotes `quote`. -/
def writeChar (quote c : Char) : List Char :=
  if c = quote ∨ c = '\\' then ['\\', c]
  else if c = '\n' then ['\\', 'n']
  else if c = '\r' then ['\\', 'r']
  else if c = '\t' then ['\\', 't']
  else if isPrintable c then [c]
  else escapeCode c.toNat

end Quoted

/-- The text between quotes. -/
def quote (cs : List Char) : List Char :=
  let mark := Quoted.mark cs
  mark :: cs.flatMap (Quoted.writeChar mark) ++ [mark]

/-- `quote` for strings. -/
def quoted (s : String) : String :=
  String.ofList (quote s.toList)

end DeckScript.Text
