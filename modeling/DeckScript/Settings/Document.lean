import DeckScript.Table

/-!
# Settings documents

A document has sections of named texts.  The settings of the section `DEFAULT` are
seen in all sections that do not have a setting of the same name.
-/

namespace DeckScript

/-- Sections and their settings, in the order in which they were first written. -/
structure Document where
  defaults : Table String := .empty
  sections : Table (Table String) := .empty
deriving Repr

namespace Document

/-- The name of the section with the defaults. -/
def defaultName : String := "DEFAULT"

/-- Whether there is a section of this name, the one with the defaults aside. -/
def hasSection (document : Document) (name : String) : Bool :=
  document.sections.contains name

/-- The settings of a section without the defaults. -/
def ownSettings? (document : Document) (place : String) : Option (Table String) :=
  match document.sections.get? place with
  | some settings => some settings
  | none => if place = defaultName then some .empty else none

/-- The text of a setting, references unexpanded. -/
def raw? (document : Document) (place option : String) : Option String :=
  match document.ownSettings? place with
  | none => none
  | some settings =>
    match settings.get? option with
    | some value => some value
    | none => document.defaults.get? option

/-! ## Written form -/

/-- A text with a tab after each line feed, so that its lines are read as one value. -/
def indented (value : String) : String :=
  String.ofList (value.toList.flatMap fun c => if c = '\n' then ['\n', '\t'] else [c])

/-- The lines of a section. -/
def writeSection (name : String) (settings : Table String) : String :=
  "[" ++ name ++ "]\n" ++
    String.join (settings.entries.map fun setting =>
      setting.1 ++ " = " ++ indented setting.2 ++ "\n") ++ "\n"

/-- The text of a document: the defaults, if there are any, then the sections. -/
def write (document : Document) : String :=
  (if document.defaults.entries.isEmpty then ""
    else writeSection defaultName document.defaults) ++
    String.join (document.sections.entries.map fun entry => writeSection entry.1 entry.2)

end Document

end DeckScript
