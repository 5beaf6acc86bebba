import DeckScript.Attempt
import DeckScript.Command.Session
import DeckScript.Number.Numeral
import DeckScript.Script.Run
import DeckScript.Settings.Reader
import DeckScript.Settings.Reference

/-!
# Settings

Settings are a document and the file it is kept in.  A change is made in the document
and then the whole file is written anew, without its comments.  Changes are not undone:
if the value is refused after the section was added, the section stays.
-/

namespace DeckScript

/-- The settings in use and the file, if there is one. -/
structure Settings where
  document : Document
  file : Option String

namespace Settings

/-- Reads the settings in a file; without a file there are none. -/
def load (file : Option String) : Except SettingsError Settings :=
  match file with
  | none => .ok ⟨{}, none⟩
  | some text => (read text).map fun document => ⟨document, some text⟩

/-- The settings that can be referred to in a section. -/
def scope (settings : Settings) (place option raw : String) : Scope :=
  { place, option, raw, lookup := settings.document.raw? place }

/-! ## Looking up -/

/-- The text of a setting, references expanded; `none` if there is no such setting. -/
def get? (settings : Settings) (place name : String) : Except SettingsError (Option String) :=
  let option := Text.lowercase name
  match settings.document.raw? place option with
  | none => .ok none
  | some raw => (expanded (settings.scope place option raw)).map some

/-- A setting as an integer. -/
def getInt? (settings : Settings) (place name : String) : Except SettingsError (Option Int) := do
  match ← settings.get? place name with
  | none => return none
  | some text =>
    match Number.readInteger text with
    | .ok n => return some n
    | .error error => .error (.number error)

/-- The words for truth values. -/
def truthValue? (text : String) : Option Bool :=
  if ["1", "yes", "true", "on"].contains text then some true
  else if ["0", "no", "false", "off"].contains text then some false
  else none

/-- A setting as a truth value. -/
def getBool? (settings : Settings) (place name : String) :
    Except SettingsError (Option Bool) := do
  match ← settings.get? place name with
  | none => return none
  | some text =>
    match truthValue? (Text.lowercase text) with
    | some b => return some b
    | none => .error (.notTruthValue text)

/-! ## Changing -/

/-- Writes the file. -/
def save : Attempt Settings SettingsError Unit :=
  .modify fun settings => { settings with file := some settings.document.write }

/-- Adds a section if it is not there yet. -/
def ensureSection (name : String) : Attempt Settings SettingsError Unit := do
  let settings ← .get
  if settings.document.hasSection name then pure ()
  else if name = Document.defaultName then .fail (.reservedSection name)
  else
    .modify fun settings =>
      { settings with
        document :=
          { settings.document with sections := settings.document.sections.insert name .empty } }

/-- The document with a setting changed; a section without a name means the defaults. -/
def put (place option value : String) (document : Document) : Document :=
  match place.isEmpty, document.sections.get? place with
  | false, some settings =>
    { document with sections := document.sections.insert place (settings.insert option value) }
  | _, _ => { document with defaults := document.defaults.insert option value }

/-- Changes a setting and writes the file. -/
def set (place name value : String) : Attempt Settings SettingsError Unit := do
  ensureSection place
  .ofExcept id (checkValue value)
  .modify fun settings =>
    { settings with document := put place (Text.lowercase name) value settings.document }
  save

/-! ## The settings of the program -/

/-- The number of milliseconds a script may take. -/
def timeout (settings : Settings) : Except SettingsError Int :=
  (settings.getInt? "INTERPRETER" "timeout_ms").map (·.getD Script.defaultTimeout)

/-- The beginning of the ids of new slides. -/
def idStem (settings : Settings) : Except SettingsError String :=
  (settings.get? "SLIDES" "id_prefix").map (·.getD Session.defaultStem)

/-- The distance between new slides. -/
def spacing (settings : Settings) : Except SettingsError Int :=
  (settings.getInt? "SLIDES" "spacing_x").map (·.getD Session.defaultSpacing)

/-- The section with other names of commands. -/
def aliasSection : String := "COMMANDS"

/-- Adds the aliases among settings of the given names to a table. -/
def collectAliases (settings : Settings) (all : Table String) :
    List String → Table String → Except SettingsError (Table String)
  | [], aliases => .ok aliases
  | option :: rest, aliases => do
    let scope : Scope :=
      { place := aliasSection, option, raw := (all.get? option).getD "", lookup := all.get? }
    let command ← expanded scope
    settings.collectAliases all rest
      (aliases.insert (Text.lowercase option) (Text.lowercase (Text.trimmed command)))

/-- Other names of commands, the defaults first. -/
def aliases (settings : Settings) : Except SettingsError (Table String) :=
  match settings.document.sections.get? aliasSection with
  | none => .ok .empty
  | some own =>
    let all := settings.document.defaults.update own
    settings.collectAliases all all.names .empty

end Settings

end DeckScript
