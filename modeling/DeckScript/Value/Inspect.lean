import DeckScript.Value.Basic

/-!
# Values as log messages show them

The log shows a value together with its kind: texts stand between quotes, and
nothing, true and false have names that no text can be confused with.
-/

namespace DeckScript.Value

namespace Inspect

mutual

/-- The characters of a value. -/
def write : Value → List Char
  | .none => "None".toList
  | .bool true => "True".toList
  | .bool false => "False".toList
  | .number n => n.text.toList
  | .text s => Text.quote s.toList
  | .list items => '[' :: writeItems items ++ [']']
  | .dict entries => '\x7b' :: writeEntries entries ++ ['\x7d']

/-- The items of a list and their separators. -/
def writeItems : List Value → List Char
  | [] => []
  | [item] => write item
  | item :: rest => write item ++ [',', ' '] ++ writeItems rest

/-- The entries of a dictionary and their separators. -/
def writeEntries : List (String × Value) → List Char
  | [] => []
  | [(name, value)] => Text.quote name.toList ++ [':', ' '] ++ write value
  | (name, value) :: rest =>
    Text.quote name.toList ++ [':', ' '] ++ write value ++ [',', ' '] ++ writeEntries rest

end

end Inspect

/-- The value with its kind, as the log shows it. -/
def inspect (value : Value) : Except NumberError String :=
  value.ifWritable (String.ofList (Inspect.write value))

/-- The value inside an error message: texts as they are, all else as in the log. -/
def describe : Value → Except NumberError String
  | text s => .ok s
  | value => value.inspect

end DeckScript.Value
