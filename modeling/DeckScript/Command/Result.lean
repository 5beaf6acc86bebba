import DeckScript.Value.Basic

/-!
# Command results

A command succeeds with a message and a payload, or fails with a code and a message.
Scripts branch on the codes: each command has a block of its own.
-/

namespace DeckScript

/-- Reasons for a command to fail. -/
inductive ErrorCode where
  | handlerMissing
  | unknown
  | newSlide
  | titleMissing
  | titleIndex
  | titleFailed
  | textMissing
  | textIndex
  | textFailed
  | listFailed
  | currentFailed
  | gotoMissing
  | gotoIndex
  | gotoFailed
  | deleteProtected
  | deleteIndex
  | deleteFailed
  | duplicateMissing
  | duplicateIndex
  | duplicateFailed
  | nothingToUndo
  | undoFailed
  | nothingToRedo
  | redoFailed
  | slidesFailed
  | infoIndex
  | infoFailed
  | runFailed
deriving Repr, DecidableEq

namespace ErrorCode

/-- The code of success. -/
def ok : Int := 0

/-- The number of a code. -/
def number : ErrorCode → Int
  | handlerMissing => 1
  | unknown => 2
  | newSlide => 11
  | titleMissing => 12
  | titleIndex => 13
  | titleFailed => 14
  | textMissing => 21
  | textIndex => 22
  | textFailed => 23
  | listFailed => 31
  | currentFailed => 32
  | gotoMissing => 41
  | gotoIndex => 42
  | gotoFailed => 43
  | deleteProtected => 51
  | deleteIndex => 52
  | deleteFailed => 53
  | duplicateMissing => 61
  | duplicateIndex => 62
  | duplicateFailed => 63
  | nothingToUndo => 71
  | undoFailed => 72
  | nothingToRedo => 81
  | redoFailed => 82
  | slidesFailed => 91
  | infoIndex => 92
  | infoFailed => 93
  | runFailed => 99

theorem number_ne_ok (code : ErrorCode) : code.number ≠ ok := by
  cases code <;> decide

end ErrorCode

/-- The outcome of a command. -/
structure CommandResult where
  success : Bool
  code : Int
  output : String
  result : Value
deriving Repr

/-- A failure was to be reported with the code of success. -/
inductive ResultError where
  | zeroCode
deriving Repr, DecidableEq

/-- The wording of an error. -/
def ResultError.message : ResultError → String
  | zeroCode => "a failed command needs a non-zero error code"

namespace CommandResult

/-- A success. -/
def ok (output : String) (result : Value := .none) : CommandResult :=
  ⟨true, ErrorCode.ok, output, result⟩

/-- A failure for a known reason. -/
def failure (code : ErrorCode) (output : String) : CommandResult :=
  ⟨false, code.number, output, .none⟩

/-- A failure with any code but that of success. -/
def fail (code : Int) (output : String) : Except ResultError CommandResult :=
  if code = ErrorCode.ok then .error .zeroCode else .ok ⟨false, code, output, .none⟩

end CommandResult

end DeckScript
