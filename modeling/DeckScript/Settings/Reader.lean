import DeckScript.Settings.Document
import DeckScript.Settings.Error
import DeckScript.Text.Blank
import DeckScript.Text.Case

/-!
# Reading settings files

A file is read line by line.  A line that is indented deeper than the setting before it
continues that setting; any other line is a header `[name]` or a setting `name = value`
or `name: value`.  Blank lines belong to the setting they follow, and blank lines at its
end are dropped.

A comment starts at a hash or semicolon at the beginning of a line or after a blank.
Hashes and semicolons are looked at in turns, the first of each, then the second of
each, and the first turn with the start of a comment decides.
-/

namespace DeckScript.Settings

open Text

/-! ## Lines -/

/-- A text with one line feed for every kind of line end. -/
def unifyLineEnds : List Char → List Char
  | [] => []
  | '\r' :: '\n' :: cs => '\n' :: unifyLineEnds cs
  | c :: cs => (if c = '\r' then '\n' else c) :: unifyLineEnds cs

/-- The lines of a text, with the line feeds that end them. -/
def fileLines : List Char → List (List Char)
  | [] => []
  | c :: cs =>
    if c = '\n' then [c] :: fileLines cs
    else match fileLines cs with
      | [] => [[c]]
      | line :: rest => (c :: line) :: rest

/-! ## Comments -/

/-- For each occurrence of `mark`, its position if a comment can start there.  `free` says
whether the character before allows it. -/
def marks (mark : Char) : Nat → Bool → List Char → List (Option Nat)
  | _, _, [] => []
  | position, free, c :: cs =>
    let rest := marks mark (position + 1) (isBlank c) cs
    if c = mark then (if free then some position else none) :: rest else rest

/-- The start of the comment: the least position in the first turn that has one. -/
def firstTurn : List (Option Nat) → List (Option Nat) → Option Nat
  | [], [] => none
  | some i :: _, [] => some i
  | none :: is, [] => firstTurn is []
  | [], some j :: _ => some j
  | [], none :: js => firstTurn [] js
  | some i :: _, some j :: _ => some (min i j)
  | some i :: _, none :: _ => some i
  | none :: _, some j :: _ => some j
  | none :: is, none :: js => firstTurn is js

/-- Where the comment of a line starts.  A line whose first visible character is a hash or a
semicolon is a comment as a whole. -/
def commentStart? (line : List Char) : Option Nat :=
  match trimLeft line with
  | '#' :: _ => some 0
  | ';' :: _ => some 0
  | _ => firstTurn (marks '#' 0 true line) (marks ';' 0 true line)

/-! ## Headers and settings -/

/-- The text before the last closing bracket. -/
def beforeLastBracket? : List Char → Option (List Char)
  | [] => none
  | c :: cs =>
    match beforeLastBracket? cs with
    | some inner => some (c :: inner)
    | none => if c = ']' then some [] else none

/-- The name in a header. -/
def header? : List Char → Option (List Char)
  | '[' :: cs =>
    match beforeLastBracket? cs with
    | some [] => none
    | name => name
  | _ => none

/-- Name and value of a setting, cut at the first equals sign or colon. -/
def setting? (cs : List Char) : Option (List Char × List Char) :=
  match cs.dropWhile fun c => c != '=' && c != ':' with
  | [] => none
  | _ :: value => some (trimRight (cs.takeWhile fun c => c != '=' && c != ':'), trim value)

/-! ## The file -/

/-- What has been read so far.  Values are kept as lists of lines. -/
structure Draft where
  defaults : Table (List (List Char)) := .empty
  sections : Table (Table (List (List Char))) := .empty
  /-- The section of the last header. -/
  place : Option String := none
  /-- The setting that a deeper line continues. -/
  option : Option String := none
  /-- The depth that a line has to exceed to continue a setting. -/
  indent : Nat := 0
  /-- Settings met so far, with their sections. -/
  seen : List (String × String) := []
  /-- Lines that cannot be read. -/
  unreadable : List (Nat × String) := []

namespace Draft

/-- Changes the settings of a section. -/
def update (draft : Draft) (place : String)
    (change : Table (List (List Char)) → Table (List (List Char))) : Draft :=
  match draft.sections.get? place with
  | some settings => { draft with sections := draft.sections.insert place (change settings) }
  | none => { draft with defaults := change draft.defaults }

/-- Adds a line to the current setting of the current section. -/
def extend (draft : Draft) (line : List Char) : Draft :=
  match draft.place, draft.option with
  | some place, some option =>
    draft.update place fun settings =>
      settings.insert option ((settings.get? option).getD [] ++ [line])
  | _, _ => draft

/-- Whether a line of the given depth continues the current setting. -/
def continues (draft : Draft) (depth : Nat) : Bool :=
  draft.place.isSome && draft.option.isSome && decide (draft.indent < depth)

/-- Begins a section. -/
def beginSection (draft : Draft) (name : String) (line : Nat) : Except SettingsError Draft :=
  if draft.sections.contains name then .error (.duplicateSection name line)
  else
    let sections :=
      if name = Document.defaultName then draft.sections else draft.sections.insert name .empty
    .ok { draft with sections, place := some name, option := none }

/-- Begins a setting.  One without a name is unreadable. -/
def beginSetting (draft : Draft) (place : String) (name value : List Char) (line : Nat)
    (text : List Char) : Except SettingsError Draft :=
  let option := String.ofList (lower name)
  let draft :=
    if name.isEmpty then
      { draft with unreadable := draft.unreadable ++ [(line, String.ofList text)] }
    else draft
  if draft.seen.contains (place, option) then .error (.duplicateOption place option line)
  else
    let draft := draft.update place fun settings => settings.insert option [value]
    .ok { draft with
      seen := (place, option) :: draft.seen
      option := if option.isEmpty then none else some option }

/-- Reads a line that continues nothing. -/
def readEntry (draft : Draft) (value : List Char) (line : Nat) (text : List Char) :
    Except SettingsError Draft :=
  match header? value with
  | some name => draft.beginSection (String.ofList name) line
  | none =>
    match draft.place with
    | none => .error (.missingHeader line (String.ofList text))
    | some place =>
      match setting? value with
      | some (name, value) => draft.beginSetting place name value line text
      | none =>
        .ok { draft with unreadable := draft.unreadable ++ [(line, String.ofList text)] }

/-- Reads a line. -/
def readLine (draft : Draft) (line : Nat) (text : List Char) : Except SettingsError Draft :=
  let comment := commentStart? text
  let value :=
    trim (match comment with
      | some start => text.take start
      | none => text)
  if value.isEmpty then
    .ok (if comment.isNone then draft.extend [] else draft)
  else
    let depth := (text.takeWhile isBlank).length
    if draft.continues depth then .ok (draft.extend value)
    else { draft with indent := depth }.readEntry value line text

/-- Reads lines, the first of which has the given number. -/
def readLines (draft : Draft) : Nat → List (List Char) → Except SettingsError Draft
  | _, [] => .ok draft
  | line, text :: rest =>
    match draft.readLine line text with
    | .ok draft => draft.readLines (line + 1) rest
    | .error error => .error error

/-- Lines joined by line feeds. -/
def joinValue : List (List Char) → List Char
  | [] => []
  | [line] => line
  | line :: rest => line ++ '\n' :: joinValue rest

/-- The settings with their lines joined and blanks at their ends dropped. -/
def joinSettings (settings : Table (List (List Char))) : Table String :=
  ⟨settings.entries.map fun setting =>
    (setting.1, String.ofList (trimRight (joinValue setting.2)))⟩

/-- The document that was read, if all lines could be. -/
def finish (draft : Draft) : Except SettingsError Document :=
  if draft.unreadable.isEmpty then
    .ok
      { defaults := joinSettings draft.defaults
        sections := ⟨draft.sections.entries.map fun entry => (entry.1, joinSettings entry.2)⟩ }
  else .error (.unreadable draft.unreadable)

end Draft

/-- The document that a text writes. -/
def read (text : String) : Except SettingsError Document :=
  match Draft.readLines {} 1 (fileLines (unifyLineEnds text.toList)) with
  | .ok draft => draft.finish
  | .error error => .error error

end DeckScript.Settings
