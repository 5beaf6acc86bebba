import DeckScript.Number.Basic
import DeckScript.Table

/-!
# Values

What a script variable, a command parameter or the result of a command can hold.
-/

namespace DeckScript

/-- A value of the script language.  The entries of a `dict` are in insertion order. -/
inductive Value where
  | none
  | bool (b : Bool)
  | number (n : Number)
  | text (s : String)
  | list (items : List Value)
  | dict (entries : List (String × Value))
deriving Repr, Inhabited

/-- Named parameters of a command. -/
abbrev Params := Table Value

namespace Value

/-- The integer `n` as a value. -/
def int (n : Int) : Value := number (.int n)

/-- A condition holds unless its value is nothing, false, zero or empty. -/
def isTruthy : Value → Bool
  | none => false
  | bool b => b
  | number n => n.isTruthy
  | text s => !s.isEmpty
  | list items => !items.isEmpty
  | dict entries => !entries.isEmpty

mutual

/-- Whether every integer in the value is within the limit for writing. -/
def isWritable : Value → Bool
  | number n => n.isWritable
  | list items => areWritable items
  | dict entries => areWritableEntries entries
  | _ => true

/-- `isWritable` for all items of a list. -/
def areWritable : List Value → Bool
  | [] => true
  | item :: rest => item.isWritable && areWritable rest

/-- `isWritable` for all entries of a dictionary. -/
def areWritableEntries : List (String × Value) → Bool
  | [] => true
  | (_, value) :: rest => value.isWritable && areWritableEntries rest

end

/-- A text of the value, if all its integers can be written. -/
def ifWritable (value : Value) (text : String) : Except NumberError String :=
  if value.isWritable then .ok text else .error .tooLongToWrite

end Value

end DeckScript
