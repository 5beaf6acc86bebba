import DeckScript.Script.Block
import DeckScript.Script.Expression
import DeckScript.Script.Handler
import DeckScript.Script.Statement
import DeckScript.Value.Inspect

/-!
# Running scripts

A script is run line by line.  A condition that does not hold skips to the END of its
block, one that holds just goes on; the END met later does nothing.  A loop runs the
lines up to its END once for each value, with bounds that are fixed when the loop is
entered, and goes on after the END.

Before each line and each round of a loop the run looks whether it was asked to stop
and whether its time is over.  Everything that goes wrong ends the run and is reported
as its last line of output.

Termination needs no bound from outside: what remains to be run after a line, and the
body of a loop, are shorter than what the line started with, and a loop counts down
the rounds it has left.
-/

namespace DeckScript.Script

/-- The number of milliseconds a script may take unless told otherwise. -/
def defaultTimeout : Int := 30000

/-- The variable that holds the code of the last command. -/
def codeVariable : String := "RC"

/-- The variable that holds the payload of the last command. -/
def resultVariable : String := "RESULT"

/-- Why a run ended early. -/
inductive RunError where
  /-- It was asked to stop. -/
  | stopped
  /-- Its time was over. -/
  | timeout (milliseconds : Int)
  /-- A bound of a loop is no integer. -/
  | invalidBound (expression : String)
  /-- A number could not be converted. -/
  | number (error : NumberError)
  /-- The handler of a command broke off. -/
  | raised (kind message : String)
deriving Repr, DecidableEq

/-- The wording of an error; an error without a message is named by its kind. -/
def RunError.message : RunError → String
  | stopped => "Script execution stopped"
  | timeout milliseconds => "Script execution timeout after " ++ milliseconds.repr ++ "ms"
  | invalidBound expression => "DO: invalid loop bound " ++ Text.quoted expression
  | number error => error.message
  | raised kind message => if message.isEmpty then kind else message

/-- Readings of a clock in seconds, by the number of readings made before.  A reading may be out
of range. -/
abbrev Clock := Nat → Except NumberError Binary64

/-- A number of milliseconds in seconds, if it is within the range of the binary format. -/
def seconds (milliseconds : Int) : Except NumberError Binary64 :=
  match Binary64.ofInt? milliseconds with
  | some x => .ok (x.scale (1 / 1000))
  | none => .error .outOfRange

/-- The clock that advances by the same number of milliseconds at each reading. -/
def Clock.ticking (milliseconds : Int) : Clock :=
  fun reading => seconds (reading * milliseconds)

/-- What a run depends on. -/
structure Surroundings (σ : Type) where
  handler : AddressHandler σ
  clock : Clock
  /-- The number of milliseconds the run may take. -/
  timeout : Int
  /-- The time at which the run has to end. -/
  deadline : Binary64

/-- The state of a run. -/
structure RunState (σ : Type) where
  vars : Variables := .empty
  /-- The lines printed so far. -/
  said : Array String := #[]
  log : Array LogEntry := #[]
  /-- The commands sent so far, with their addresses. -/
  calls : Array (String × String) := #[]
  /-- The number of times the clock was read. -/
  readings : Nat
  /-- Whether the run was asked to stop. -/
  stopped : Bool := false
  /-- The state of the handler. -/
  host : σ

/-- A part of a run. -/
abbrev Run (σ : Type) := Attempt (RunState σ) RunError

namespace Run

variable {σ : Type}

/-! ## Time -/

/-- Reads the clock. -/
def readClock (surroundings : Surroundings σ) : Run σ Binary64 where
  run state :=
    ((surroundings.clock state.readings).mapError .number,
      { state with readings := state.readings + 1 })

/-- Ends the run if it was asked to stop or its time is over. -/
def checkpoint (surroundings : Surroundings σ) : Run σ Unit := do
  let state ← .get
  if state.stopped then .fail .stopped
  else
    let now ← readClock surroundings
    if surroundings.deadline.lt now then .fail (.timeout surroundings.timeout) else pure ()

/-! ## Statements -/

/-- Adds a log entry. -/
def note (level : Level) (message : String) : Run σ Unit :=
  .modify fun state => { state with log := state.log.push ⟨level, message⟩ }

/-- Gives a variable a value. -/
def setVariable (name : String) (value : Value) : Run σ Unit :=
  .modify fun state => { state with vars := state.vars.insert name value }

/-- The value of an expression. -/
def evaluate (expression : String) : Run σ Value := do
  let state ← .get
  .ofExcept .number (Expression.evaluate state.vars expression)

/-- Prints an expression. -/
def say (expression : String) : Run σ Unit := do
  let value ← evaluate expression
  let text ← .ofExcept .number value.display
  .modify fun state => { state with said := state.said.push text }

/-- Gives a variable the value of an expression. -/
def assign (name expression : String) : Run σ Unit := do
  let value ← evaluate expression
  setVariable name value
  let text ← .ofExcept .number value.inspect
  note .info (name ++ " = " ++ text)

/-- Calls the handler. -/
def call (surroundings : Surroundings σ) (address command : String) : Run σ Outcome where
  run state :=
    match surroundings.handler address command state.host with
    | (reply, host) =>
      (.ok reply.outcome,
        { state with
          host
          calls := state.calls.push (address, command)
          stopped := state.stopped || reply.stops })

/-- Stores the result of a command in the variables `RC` and `RESULT`. -/
def storeResult (line : Nat) (result : CommandResult) : Run σ Unit :=
  if result.success then do
    setVariable codeVariable (.int ErrorCode.ok)
    setVariable resultVariable
      (match result.result with
      | .none => .text result.output
      | payload => payload)
  else do
    let code := if result.code = ErrorCode.ok then 1 else result.code
    setVariable codeVariable (.int code)
    setVariable resultVariable (.text result.output)
    let digits ← .ofExcept .number (Number.writeInt code)
    note .warning ("Line " ++ (line + 1).repr ++ ": RC=" ++ digits ++ " " ++ result.output)

/-- Sends a command to an address.  It is not sent if no time is left. -/
def sendCommand (surroundings : Surroundings σ) (line : Nat) (address command : String) :
    Run σ Unit := do
  note .info ("ADDRESS " ++ address ++ " → " ++ command)
  let now ← readClock surroundings
  if now.lt surroundings.deadline then
    match ← call surroundings address command with
    | .answered result => storeResult line result
    | .raised kind message => .fail (.raised kind message)
    | .overdue => .fail (.timeout surroundings.timeout)
  else .fail (.timeout surroundings.timeout)

/-- Passes over an unknown line, with a warning if it looks like a directive. -/
def passOver (line : Nat) (text : String) : Run σ Unit :=
  if leadingWord text = "ADDRESS" then
    note .warning ("Line " ++ (line + 1).repr ++ ": ADDRESS form not recognised, ignored")
  else pure ()

/-! ## Loops -/

/-- The integer that a value is as the bound of a loop, if it is one. -/
def boundOf? : Value → Option Int
  | .number (.int n) => some n
  | .number (.real x) => if x.isWhole then some x.truncate else none
  | .text s => (Number.readInteger (Text.trimmed s)).toOption
  | _ => none

/-- A bound of a loop. -/
def bound (expression : String) : Run σ Int := do
  match boundOf? (← evaluate expression) with
  | some n => pure n
  | none => .fail (.invalidBound expression)

/-- Logs the bounds of a loop. -/
def announce (name : String) (first last : Int) : Run σ Unit := do
  let first ← .ofExcept .number (Number.writeInt first)
  let last ← .ofExcept .number (Number.writeInt last)
  note .info ("DO " ++ name ++ " = " ++ first ++ " TO " ++ last)

/-- Runs the body of a loop as many times as there are rounds left, with the variable counting up
from `value`. -/
def rounds (surroundings : Surroundings σ) (name : String) (body : Run σ Unit) :
    Nat → Int → Run σ Unit
  | 0, _ => pure ()
  | left + 1, value => do
    checkpoint surroundings
    setVariable name (.int value)
    body
    rounds surroundings name body left (value + 1)

/-- Runs the body of a loop once for each value from the first bound to the last. -/
def loop (surroundings : Surroundings σ) (name first last : String) (body : Run σ Unit) :
    Run σ Unit := do
  let first ← bound first
  let last ← bound last
  announce name first last
  rounds surroundings name body (last + 1 - first).toNat first

/-! ## Lines -/

/-- Whether a line ends a comment over several lines. -/
def closesComment : List Char → Bool
  | [] => false
  | c :: cs => Statement.blockCommentEnd.isPrefixOf (c :: cs) || closesComment cs

/-- The number of lines of a comment that was opened on the line before, the closing line
included. -/
def commentLength (lines : List String) : Nat :=
  (lines.takeWhile fun line => !closesComment line.toList).length + 1

/-- Carries out the statement on a line.  `rest` are the lines after it, and `body` runs those of
the block that the line opens.  The result is the number of lines to skip before going on. -/
def perform (surroundings : Surroundings σ) (position : Nat) (rest : List String)
    (body : Unit → Run σ Unit) : Statement → Run σ Nat
  | .say expression => do
    say expression
    return 0
  | .assign name expression => do
    assign name expression
    return 0
  | .address target command => do
    sendCommand surroundings position target command
    return 0
  | .ifThen condition => do
    let value ← evaluate condition
    return if value.isTruthy then 0 else bodyLength 0 rest + 1
  | .doLoop name first last => do
    loop surroundings name first last (body ())
    return bodyLength 0 rest + 1
  | .comment block => return if block then commentLength rest else 0
  | .unknown text => do
    passOver position text
    return 0
  | .endBlock => return 0

/-- Runs one line, then what `next` makes of the number of lines to skip. -/
def runLine (surroundings : Surroundings σ) (position : Nat) (line : String) (rest : List String)
    (body : Unit → Run σ Unit) (next : Nat → Run σ Unit) : Run σ Unit := do
  checkpoint surroundings
  let skipped ← perform surroundings position rest body (Statement.ofLine (Text.trimmed line))
  next skipped

/-- Runs lines, the first of which has the given position in the script. -/
def runLines (surroundings : Surroundings σ) (position : Nat) (lines : List String) :
    Run σ Unit :=
  match lines with
  | [] => pure ()
  | line :: rest =>
    runLine surroundings position line rest
      (fun _ => runLines surroundings (position + 1) (rest.take (bodyLength 0 rest)))
      (fun skipped => runLines surroundings (position + 1 + skipped) (rest.drop skipped))
termination_by lines.length
decreasing_by all_goals (simp only [List.length_cons, List.length_drop, List.length_take]; omega)

theorem runLines_nil (surroundings : Surroundings σ) (position : Nat) :
    runLines surroundings position [] = pure () := by
  rw [runLines]

theorem runLines_cons (surroundings : Surroundings σ) (position : Nat) (line : String)
    (rest : List String) :
    runLines surroundings position (line :: rest) =
      runLine surroundings position line rest
        (fun _ => runLines surroundings (position + 1) (rest.take (bodyLength 0 rest)))
        (fun skipped =>
          runLines surroundings (position + 1 + skipped) (rest.drop skipped)) := by
  rw [runLines]

end Run

/-! ## Whole scripts -/

/-- The result of a script. -/
structure Execution where
  success : Bool
  output : String
  vars : Variables
  code : Int
  error : Option String
deriving Repr

/-- The result of a script and what it did. -/
structure Report (σ : Type) where
  execution : Execution
  said : Array String
  log : Array LogEntry
  calls : Array (String × String)
  host : σ

/-- Lines joined by line feeds. -/
def joinLines (lines : List String) : String :=
  "\n".intercalate lines

/-- The report on a run that ended. -/
def Report.ofRun {σ : Type} : Except RunError Unit × RunState σ → Report σ
  | (.ok (), state) =>
    { execution := ⟨true, joinLines state.said.toList, state.vars, ErrorCode.ok, none⟩
      said := state.said
      log := state.log
      calls := state.calls
      host := state.host }
  | (.error error, state) =>
    let message := error.message
    { execution :=
        ⟨false, joinLines (state.said.toList ++ ["ERROR: " ++ message]), state.vars,
          ErrorCode.runFailed.number, some message⟩
      said := state.said
      log := state.log.push ⟨.error, "Script failed: " ++ message⟩
      calls := state.calls
      host := state.host }

/-- The time at which a script has to end; its first reading of the clock is the start.  A number
of milliseconds beyond the range of the clock is an error. -/
def deadline (clock : Clock) (timeout : Int) : Except NumberError Binary64 := do
  let start ← clock 0
  let budget ← seconds timeout
  return start.add budget

/-- Runs a script. -/
def execute {σ : Type} (handler : AddressHandler σ) (clock : Clock) (timeout : Int)
    (script : String) (host : σ) : Except NumberError (Report σ) :=
  match deadline clock timeout with
  | .error error => .error error
  | .ok deadline =>
    let run := Run.runLines { handler, clock, timeout, deadline } 0 (splitLines script)
    .ok (.ofRun (run.run { readings := 1, host }))

end DeckScript.Script
