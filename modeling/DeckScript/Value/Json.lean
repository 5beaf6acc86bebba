import DeckScript.Value.Basic

/-!
# Values as a script prints them

Nothing prints as the empty text, truth values in lower case, whole numbers without
a fraction, texts as they are, and lists and dictionaries as JSON.

The JSON is ASCII: characters outside the printable ASCII range are escaped by their
UTF-16 units, items are separated by a comma and a blank, and names from their values by
a colon and a blank.
-/

namespace DeckScript.Value

namespace Json

/-- A UTF-16 unit written by its code. -/
def escapeUnit (n : Nat) : List Char :=
  '\\' :: 'u' :: Text.hexDigits 4 n

/-- One character as it stands in a JSON string.  Beyond the basic plane it is written as two
units. -/
def writeChar (c : Char) : List Char :=
  if c = '"' then ['\\', '"']
  else if c = '\\' then ['\\', '\\']
  else if c = '\n' then ['\\', 'n']
  else if c = '\r' then ['\\', 'r']
  else if c = '\t' then ['\\', 't']
  else if c = '\x08' then ['\\', 'b']
  else if c = '\x0c' then ['\\', 'f']
  else if 32 ≤ c.toNat ∧ c.toNat < 127 then [c]
  else if c.toNat < 0x10000 then escapeUnit c.toNat
  else
    escapeUnit (0xD800 + (c.toNat - 0x10000) / 0x400) ++
      escapeUnit (0xDC00 + (c.toNat - 0x10000) % 0x400)

/-- A string of JSON. -/
def writeString (s : String) : List Char :=
  '"' :: s.toList.flatMap writeChar ++ ['"']

/-- A number of JSON; infinities and NaN have names. -/
def writeNumber : Number → List Char
  | .real .nan => "NaN".toList
  | .real (.infinite false) => "Infinity".toList
  | .real (.infinite true) => "-Infinity".toList
  | n => n.text.toList

mutual

/-- The characters of a value. -/
def write : Value → List Char
  | .none => "null".toList
  | .bool true => "true".toList
  | .bool false => "false".toList
  | .number n => writeNumber n
  | .text s => writeString s
  | .list items => '[' :: writeItems items ++ [']']
  | .dict entries => '\x7b' :: writeEntries entries ++ ['\x7d']

/-- The items of a list and their separators. -/
def writeItems : List Value → List Char
  | [] => []
  | [item] => write item
  | item :: rest => write item ++ [',', ' '] ++ writeItems rest

/-- The entries of a dictionary and their separators. -/
def writeEntries : List (String × Value) → List Char
  | [] => []
  | [(name, value)] => writeString name ++ [':', ' '] ++ write value
  | (name, value) :: rest =>
    writeString name ++ [':', ' '] ++ write value ++ [',', ' '] ++ writeEntries rest

end

end Json

/-- The printed text, integers of any size included. -/
def displayText : Value → String
  | none => ""
  | bool true => "true"
  | bool false => "false"
  | number (.int n) => n.repr
  | number (.real x) => if x.isWhole then x.truncate.repr else toString x
  | text s => s
  | value => String.ofList (Json.write value)

/-- The text of a value as a script prints it. -/
def display (value : Value) : Except NumberError String :=
  value.ifWritable value.displayText

end DeckScript.Value
