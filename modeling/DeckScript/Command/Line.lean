import DeckScript.Number.Numeral
import DeckScript.Value.Inspect

/-!
# Command lines

A command line is a name followed by parameters `key=value`, separated by blanks.
There is no quoting: a value ends at the next blank, and quotes in it are dropped.
-/

namespace DeckScript

open Text

namespace Value

/-- The value that the text of a parameter stands for: a truth value, a number, or the text
without its quotes. -/
def ofParameter (text : String) : Value :=
  if text = "true" then .bool true
  else if text = "false" then .bool false
  else match Number.ofText? text with
    | some n => .number n
    | .none => .text (String.ofList (text.toList.filter fun c => c != '\x27' && c != '"'))

/-- The integer in a value: fractions are dropped and texts are read up to the first character
that is no digit.  Truth values have none. -/
def integer? : Value → Except NumberError (Option Int)
  | number n => n.integerPart.map some
  | text s => Number.leadingInteger s
  | _ => .ok Option.none

/-- The text of a parameter; truth values are written as in a command line. -/
def parameterText : Value → Except NumberError String
  | bool true => .ok "true"
  | bool false => .ok "false"
  | value => value.describe

end Value

namespace Params

/-- A parameter `key=value`, cut at the first equals sign; `none` without sign or key. -/
def entry? (field : List Char) : Option (String × Value) :=
  match field.takeWhile (· != '='), field.dropWhile (· != '=') with
  | [], _ => none
  | _, [] => none
  | key, _ :: value => some (String.ofList key, .ofParameter (String.ofList value))

/-- The parameters among fields; the last value given to a key counts. -/
def ofFields (fields : List (List Char)) : Params :=
  .ofList (fields.filterMap entry?)

end Params

/-- A decoded command line. -/
structure CommandLine where
  name : String
  params : Params
deriving Repr

namespace CommandLine

/-- Decodes a command line; the name of a blank one is empty. -/
def ofText (line : String) : CommandLine :=
  match fields line.toList with
  | [] => ⟨"", .empty⟩
  | name :: rest => ⟨String.ofList name, .ofFields rest⟩

end CommandLine

end DeckScript
