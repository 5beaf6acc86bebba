import DeckScript.Settings.Document
import DeckScript.Settings.Error
import DeckScript.Text.Case

/-!
# References between settings

`%(name)s` in a setting stands for the setting `name` of the same section, and `%%` for
a percent sign.  What a reference stands for may hold references again, ten levels deep.
-/

namespace DeckScript.Settings

open Text

/-- A piece of the text of a setting. -/
inductive Piece where
  | char (c : Char)
  /-- A reference to the setting of this name. -/
  | reference (name : List Char)
  /-- A reference that does not end, with the rest of the text. -/
  | openReference (rest : List Char)
  /-- A percent sign that starts nothing, with the rest of the text. -/
  | strayPercent (rest : List Char)
deriving Repr, DecidableEq

/-- The name and the rest of a text that follows `%(`, if it ends the reference. -/
def referenceTail? (cs : List Char) : Option (List Char × List Char) :=
  match cs.dropWhile (· != ')') with
  | ')' :: 's' :: rest =>
    if (cs.takeWhile (· != ')')).isEmpty then none else some (cs.takeWhile (· != ')'), rest)
  | _ => none

theorem length_of_referenceTail? {cs name rest : List Char}
    (h : referenceTail? cs = some (name, rest)) : rest.length < cs.length := by
  have hlength : (cs.dropWhile (· != ')')).length ≤ cs.length :=
    (List.dropWhile_sublist _).length_le
  unfold referenceTail? at h
  split at h
  · next hdrop =>
    split at h
    · simp at h
    · simp only [Option.some.injEq, Prod.mk.injEq] at h
      rw [hdrop, h.2] at hlength
      simp only [List.length_cons] at hlength
      omega
  · simp at h

/-- The pieces of a text, up to the first that is malformed. -/
def pieces (cs : List Char) : List Piece :=
  match cs with
  | [] => []
  | '%' :: '%' :: cs => .char '%' :: pieces cs
  | '%' :: '(' :: cs =>
    match _h : referenceTail? cs with
    | some (name, rest) => .reference name :: pieces rest
    | none => [.openReference ('%' :: '(' :: cs)]
  | '%' :: cs => [.strayPercent ('%' :: cs)]
  | c :: cs => .char c :: pieces cs
termination_by cs.length
decreasing_by
  all_goals simp only [List.length_cons]
  · omega
  · have := length_of_referenceTail? _h
    omega
  · omega

/-- Where references are resolved: the section and name of the setting that was asked for, its
text, and the settings that can be referred to. -/
structure Scope where
  place : String
  option : String
  raw : String
  lookup : String → Option String

/-- Puts pieces together; `expandText` expands the text of a setting that is referred to. -/
def expandPieces (scope : Scope) (expandText : String → Except SettingsError (List Char)) :
    List Piece → Except SettingsError (List Char)
  | [] => .ok []
  | .char c :: rest => (expandPieces scope expandText rest).map (c :: ·)
  | .openReference text :: _ => .error (.openReference (String.ofList text))
  | .strayPercent text :: _ => .error (.strayPercent (String.ofList text))
  | .reference name :: rest =>
    let name := String.ofList (lower name)
    match scope.lookup name with
    | none => .error (.unknownReference scope.place scope.option scope.raw name)
    | some text => do
      let here ← expandText text
      let others ← expandPieces scope expandText rest
      return here ++ others

/-- Expands the references in a text, with as many levels left as given. -/
def expand (scope : Scope) : Nat → String → Except SettingsError (List Char)
  | 0, _ => .error (.deepReference scope.place scope.option scope.raw)
  | levels + 1, text =>
    expandPieces scope
      (fun text => if text.toList.contains '%' then expand scope levels text else .ok text.toList)
      (pieces text.toList)

/-- The number of levels of references. -/
def referenceLevels : Nat := 10

/-- The text of a setting, references expanded. -/
def expanded (scope : Scope) : Except SettingsError String :=
  (expand scope referenceLevels scope.raw).map String.ofList

/-! ## Checking new values -/

/-- A text without its escaped percent signs. -/
def dropEscapes : List Char → List Char
  | [] => []
  | '%' :: '%' :: cs => dropEscapes cs
  | c :: cs => c :: dropEscapes cs

/-- A text without its references. -/
def dropReferences (cs : List Char) : List Char :=
  match cs with
  | [] => []
  | '%' :: '(' :: cs =>
    match _h : referenceTail? cs with
    | some (_, rest) => dropReferences rest
    | none => '%' :: dropReferences ('(' :: cs)
  | c :: cs => c :: dropReferences cs
termination_by cs.length
decreasing_by
  all_goals simp only [List.length_cons]
  · have := length_of_referenceTail? _h
    omega
  · omega
  · omega

/-- Checks that every percent sign of a value starts a reference or an escape. -/
def checkValue (value : String) : Except SettingsError Unit :=
  let rest := dropReferences (dropEscapes value.toList)
  match rest.findIdx? (· == '%') with
  | some position => .error (.invalidValue value position)
  | none => .ok ()

end DeckScript.Settings
