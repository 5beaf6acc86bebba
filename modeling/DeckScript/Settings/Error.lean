import DeckScript.Number.Basic

/-!
# Errors of settings files
-/

namespace DeckScript

/-- What is wrong with a settings file, a setting, or a change of one. -/
inductive SettingsError where
  /-- A second header of the same section. -/
  | duplicateSection (name : String) (line : Nat)
  /-- A second setting of the same name in a section. -/
  | duplicateOption (place option : String) (line : Nat)
  /-- Something other than a comment before the first header. -/
  | missingHeader (line : Nat) (text : String)
  /-- Lines that are neither header nor setting, or settings without a name. -/
  | unreadable (lines : List (Nat × String))
  /-- A percent sign that starts neither a reference nor an escape. -/
  | strayPercent (rest : String)
  /-- A reference that does not end. -/
  | openReference (rest : String)
  /-- A reference to a setting that does not exist. -/
  | unknownReference (place option raw name : String)
  /-- References to references without an end. -/
  | deepReference (place option raw : String)
  /-- A section of this name cannot be added. -/
  | reservedSection (name : String)
  /-- A value with a percent sign that starts neither a reference nor an escape. -/
  | invalidValue (value : String) (position : Nat)
  /-- A setting that is no truth value. -/
  | notTruthValue (text : String)
  /-- A setting that is no integer. -/
  | number (error : NumberError)
deriving Repr, DecidableEq

namespace SettingsError

/-- A file as messages name it. -/
def shownPath (path : String) : String :=
  "PosixPath(" ++ Text.quoted path ++ ")"

/-- A line number, two characters wide at least. -/
def shownLine (line : Nat) : String :=
  if line < 10 then "[line  " ++ line.repr ++ "]" else "[line " ++ line.repr ++ "]"

/-- The wording of an error in the file at `path`. -/
def message (path : String) : SettingsError → String
  | duplicateSection name line =>
    "While reading from " ++ shownPath path ++ " " ++ shownLine line ++ ": section " ++
      Text.quoted name ++ " already exists"
  | duplicateOption place option line =>
    "While reading from " ++ shownPath path ++ " " ++ shownLine line ++ ": option " ++
      Text.quoted option ++ " in section " ++ Text.quoted place ++ " already exists"
  | missingHeader line text =>
    "File contains no section headers.\nfile: " ++ shownPath path ++ ", line: " ++ line.repr ++
      "\n" ++ Text.quoted text
  | unreadable lines =>
    "Source contains parsing errors: " ++ shownPath path ++
      String.join (lines.map fun line =>
        "\n\t" ++ shownLine line.1 ++ ": " ++ Text.quoted line.2)
  | strayPercent rest =>
    "'%' must be followed by '%' or '(', found: " ++ Text.quoted rest
  | openReference rest => "bad interpolation variable reference " ++ Text.quoted rest
  | unknownReference place option raw name =>
    "Bad value substitution: option " ++ Text.quoted option ++ " in section " ++
      Text.quoted place ++ " contains an interpolation key " ++ Text.quoted name ++
      " which is not a valid option name. Raw value: " ++ Text.quoted raw
  | deepReference place option raw =>
    "Recursion limit exceeded in value substitution: option " ++ Text.quoted option ++
      " in section " ++ Text.quoted place ++ " contains an interpolation key which " ++
      "cannot be substituted in 10 steps. Raw value: " ++ Text.quoted raw
  | reservedSection name => "Invalid section name: " ++ Text.quoted name
  | invalidValue value position =>
    "invalid interpolation syntax in " ++ Text.quoted value ++ " at position " ++ position.repr
  | notTruthValue text => "Not a boolean: " ++ text
  | number error => error.message

end SettingsError

end DeckScript
