import DeckScript.Proofs.Number.Limit
import DeckScript.Proofs.Script.Steps

/-!
# What a line can touch

A line works on the variables, the printed lines and the log; a directive also reads
the clock and calls the handler, and nothing else in a run does, the look before each
line and round aside.  So there are two kinds of steps: those that stay inside the
script (`Inward`) and do the same in all surroundings, and directives, whose effect
`run_sendCommand` spells out.  In both cases printed lines and calls are only added to
those that are there (`Extends`).
-/

namespace DeckScript.Script

variable {σ α β : Type}

/-! ## Staying inside the script -/

/-- Nothing outside the script differs, and no printed line is taken back. -/
structure Untouched (state after : RunState σ) : Prop where
  calls_eq : after.calls = state.calls
  readings_eq : after.readings = state.readings
  stopped_eq : after.stopped = state.stopped
  host_eq : after.host = state.host
  said_grows : state.said.toList <+: after.said.toList

namespace Untouched

theorem refl (state : RunState σ) : Untouched state state :=
  ⟨rfl, rfl, rfl, rfl, List.prefix_rfl⟩

theorem trans {first second third : RunState σ} (h : Untouched first second)
    (h' : Untouched second third) : Untouched first third where
  calls_eq := h'.calls_eq.trans h.calls_eq
  readings_eq := h'.readings_eq.trans h.readings_eq
  stopped_eq := h'.stopped_eq.trans h.stopped_eq
  host_eq := h'.host_eq.trans h.host_eq
  said_grows := h.said_grows.trans h'.said_grows

end Untouched

/-- The run touches nothing outside the script. -/
def Inward (run : Run σ α) : Prop :=
  ∀ state, Untouched state (run.run state).2

namespace Inward

theorem of_inert {run : Run σ α} (hrun : run.Inert) : Inward run := by
  intro state
  rw [hrun state]
  exact .refl state

theorem pure (a : α) : Inward (Pure.pure a : Run σ α) :=
  of_inert (Attempt.Inert.pure a)

theorem ofExcept (result : Except NumberError α) :
    Inward (.ofExcept .number result : Run σ α) :=
  of_inert (Attempt.Inert.ofExcept RunError.number result)

theorem bind {run : Run σ α} {next : α → Run σ β} (hrun : Inward run)
    (hnext : ∀ a, Inward (next a)) : Inward (run >>= next) := by
  intro state
  have hstate := hrun state
  rw [Attempt.run_bind]
  rcases hresult : run.run state with ⟨error | a, after⟩ <;> rw [hresult] at hstate
  · exact hstate
  · exact hstate.trans (hnext a after)

theorem note (level : Level) (message : String) : Inward (Run.note level message : Run σ Unit) :=
  fun _ => ⟨rfl, rfl, rfl, rfl, List.prefix_rfl⟩

theorem setVariable (name : String) (value : Value) :
    Inward (Run.setVariable name value : Run σ Unit) :=
  fun _ => ⟨rfl, rfl, rfl, rfl, List.prefix_rfl⟩

theorem evaluate (expression : String) : Inward (Run.evaluate expression : Run σ Value) :=
  of_inert (Attempt.Inert.get.bind fun _ => Attempt.Inert.ofExcept _ _)

theorem say (expression : String) : Inward (Run.say expression : Run σ Unit) := by
  refine (evaluate expression).bind fun value => (ofExcept value.display).bind fun text => ?_
  intro state
  refine ⟨rfl, rfl, rfl, rfl, ?_⟩
  simp

theorem assign (name expression : String) : Inward (Run.assign name expression : Run σ Unit) :=
  (evaluate expression).bind fun value => (setVariable name value).bind fun _ =>
    (ofExcept value.inspect).bind fun _ => note _ _

theorem passOver (line : Nat) (text : String) : Inward (Run.passOver line text : Run σ Unit) := by
  unfold Run.passOver
  split
  · exact note _ _
  · exact pure ()

theorem bound (expression : String) : Inward (Run.bound expression : Run σ Int) := by
  refine (evaluate expression).bind fun value => ?_
  cases Run.boundOf? value with
  | some n => exact pure n
  | none => exact fun state => .refl state

theorem announce (name : String) (first last : Int) :
    Inward (Run.announce name first last : Run σ Unit) :=
  (ofExcept _).bind fun _ => (ofExcept _).bind fun _ => note _ _

theorem storeResult (line : Nat) (result : CommandResult) :
    Inward (Run.storeResult line result : Run σ Unit) := by
  unfold Run.storeResult
  split
  · exact (setVariable _ _).bind fun _ => setVariable _ _
  · exact (setVariable _ _).bind fun _ => (setVariable _ _).bind fun _ =>
      (ofExcept _).bind fun _ => note _ _

end Inward

/-! ## Directives -/

/-- The address and the command of the directive that comes next in a frame, if it is one. -/
def Frame.directive? (lines : List String) : Frame → Option (String × String)
  | block _ position _ =>
    match statementAt lines position with
    | .address target command => some (target, command)
    | _ => none
  | loop .. => none

/-- The code of a result as a script sees it: a failure without a code has the code 1. -/
def storedCode (result : CommandResult) : Int :=
  if result.success then ErrorCode.ok
  else if result.code = ErrorCode.ok then 1
  else result.code

/-- The payload of a result as a script sees it: the message, unless a success brings another. -/
def storedPayload (result : CommandResult) : Value :=
  if result.success then
    match result.result with
    | .none => .text result.output
    | payload => payload
  else .text result.output

/-- The variables after a result is stored. -/
def stored (result : CommandResult) (vars : Variables) : Variables :=
  (vars.insert codeVariable (.int (storedCode result))).insert resultVariable
    (storedPayload result)

/-- Whether the log can show a result: a failure is logged with its code. -/
def isLoggable (result : CommandResult) : Bool :=
  result.success || decide (result.code.natAbs < Number.writeLimit)

/-- The log after the result of the command on a line. -/
def warned (line : Nat) (result : CommandResult) (log : Array LogEntry) : Array LogEntry :=
  if !result.success && isLoggable result then
    log.push ⟨.warning, "Line " ++ (line + 1).repr ++ ": RC=" ++ (storedCode result).repr ++ " " ++
      result.output⟩
  else log

namespace Run

variable {surroundings : Surroundings σ} {lines : List String}

/-- Storing a result sets two variables, and a failure is logged as far as it can be. -/
theorem run_storeResult (line : Nat) (result : CommandResult) (state : RunState σ) :
    (storeResult line result).run state =
      (if isLoggable result then .ok () else .error (.number .tooLongToWrite),
        { state with
          vars := stored result state.vars
          log := warned line result state.log }) := by
  cases hsuccess : result.success with
  | true =>
    simp only [storeResult, stored, storedCode, storedPayload, isLoggable, warned, hsuccess]
    rfl
  | false =>
    simp only [storeResult, stored, storedCode, storedPayload, isLoggable, warned, hsuccess,
      Bool.false_eq_true, if_false, Bool.false_or, Bool.not_false, Bool.true_and]
    by_cases hcode : result.code.natAbs < Number.writeLimit
    · have hwritten : (if result.code = ErrorCode.ok then 1 else result.code).natAbs <
          Number.writeLimit := by
        split
        · exact Number.one_lt_writeLimit
        · exact hcode
      rw [Number.writeInt_of_lt hwritten]
      simp only [hcode, decide_true, if_true]
      rfl
    · have hnonzero : result.code ≠ ErrorCode.ok := by
        rintro hzero
        rw [hzero] at hcode
        exact hcode (Nat.zero_lt_of_lt Number.one_lt_writeLimit)
      have hwritten : Number.writeInt result.code = .error .tooLongToWrite := if_neg hcode
      simp only [hcode, decide_false, if_neg hnonzero, hwritten]
      rfl

theorem run_readClock (state : RunState σ) :
    (readClock surroundings).run state =
      ((surroundings.clock state.readings).mapError .number,
        { state with readings := state.readings + 1 }) := rfl

/-- The look before a line or a round. -/
theorem run_checkpoint (state : RunState σ) :
    (checkpoint surroundings).run state =
      if state.stopped then (.error .stopped, state)
      else
        match surroundings.clock state.readings with
        | .error error => (.error (.number error), { state with readings := state.readings + 1 })
        | .ok now =>
          if surroundings.deadline.lt now then
            (.error (.timeout surroundings.timeout),
              { state with readings := state.readings + 1 })
          else (.ok (), { state with readings := state.readings + 1 }) := by
  rw [checkpoint, Attempt.run_bind, Attempt.run_get]
  dsimp only
  split
  · rfl
  · rw [Attempt.run_bind, run_readClock]
    cases surroundings.clock state.readings with
    | error error => rfl
    | ok now =>
      dsimp only [Except.mapError]
      split <;> rfl

/-- A look lets the run go on if no stop was asked for and the deadline has not passed. -/
theorem run_checkpoint_eq_ok {state after : RunState σ} :
    (checkpoint surroundings).run state = (.ok (), after) ↔
      state.stopped = false ∧
        (∃ now, surroundings.clock state.readings = .ok now ∧
          surroundings.deadline.lt now = false) ∧
        { state with readings := state.readings + 1 } = after := by
  rw [run_checkpoint]
  cases hstopped : state.stopped with
  | true => simp
  | false =>
    cases hclock : surroundings.clock state.readings with
    | error error => simp
    | ok now => cases hlate : surroundings.deadline.lt now <;> simp [hlate]

/-- The state in which a directive looks at the clock for the time that is left. -/
def noted (state : RunState σ) (target command : String) : RunState σ :=
  { state with
    log := state.log.push ⟨.info, "ADDRESS " ++ target ++ " → " ++ command⟩
    readings := state.readings + 1 }

/-- The state after a call of the handler. -/
def called (surroundings : Surroundings σ) (state : RunState σ) (target command : String) :
    RunState σ :=
  { noted state target command with
    host := (surroundings.handler target command state.host).2
    calls := state.calls.push (target, command)
    stopped := state.stopped || (surroundings.handler target command state.host).1.stops }

/-- What a directive does. -/
theorem run_sendCommand (line : Nat) (target command : String) (state : RunState σ) :
    (sendCommand surroundings line target command).run state =
      match surroundings.clock state.readings with
      | .error error => (.error (.number error), noted state target command)
      | .ok now =>
        if now.lt surroundings.deadline then
          match (surroundings.handler target command state.host).1.outcome with
          | .answered result =>
            (storeResult line result).run (called surroundings state target command)
          | .raised kind message =>
            (.error (.raised kind message), called surroundings state target command)
          | .overdue =>
            (.error (.timeout surroundings.timeout), called surroundings state target command)
        else (.error (.timeout surroundings.timeout), noted state target command) := by
  rw [sendCommand, Attempt.run_bind, note, Attempt.run_modify]
  dsimp only
  rw [Attempt.run_bind, run_readClock]
  cases surroundings.clock state.readings with
  | error error => rfl
  | ok now =>
    dsimp only [Except.mapError]
    split
    · rw [Attempt.run_bind, call]
      dsimp only
      cases (surroundings.handler target command state.host).1.outcome <;> rfl
    · rfl

/-- Once a command is sent, what comes of it stays inside the script. -/
theorem untouched_called_sendCommand {now : Binary64} {state : RunState σ}
    (hclock : surroundings.clock state.readings = .ok now)
    (hearly : now.lt surroundings.deadline = true) (line : Nat) (target command : String) :
    Untouched (called surroundings state target command)
      ((sendCommand surroundings line target command).run state).2 := by
  rw [run_sendCommand, hclock]
  simp only [hearly, if_true]
  split
  · exact Inward.storeResult line _ _
  · exact .refl _
  · exact .refl _

/-! ## The two kinds of steps -/

theorem advance_of_directive {start position stop : Nat} {target command : String}
    (hdirective : (Frame.block start position stop).directive? lines = some (target, command)) :
    advance surroundings lines (.block start position stop) = (do
      sendCommand surroundings position target command
      return [.block start (min (position + 1) stop) stop]) := by
  simp only [Frame.directive?] at hdirective
  rw [advance, beginLine]
  cases hstatement : statementAt lines position <;>
    rw [hstatement] at hdirective <;> cases hdirective
  simp [perform]

/-- A directive sends its command and then goes on with the next line. -/
theorem run_step_of_directive {state looked : RunState σ} {start position stop : Nat}
    {target command : String}
    (hlook : (checkpoint surroundings).run state = (.ok (), looked))
    (hdirective : (Frame.block start position stop).directive? lines = some (target, command))
    (rest : List Frame) :
    (step surroundings lines (.block start position stop :: rest)).run state =
      (((sendCommand surroundings position target command).run looked).1.map fun _ =>
          pending (.block start (min (position + 1) stop) stop :: rest),
        ((sendCommand surroundings position target command).run looked).2) := by
  rw [run_step_of_ok hlook, advance_of_directive hdirective, Attempt.run_bind]
  rcases (sendCommand surroundings position target command).run looked with
    ⟨error | ⟨⟩, after⟩ <;> rfl

theorem inward_perform {statement : Statement} (position : Nat) (rest : List String)
    (hloop : ∀ name first last, statement ≠ .doLoop name first last)
    (haddress : ∀ target command, statement ≠ .address target command) :
    Inward (perform surroundings position rest (fun _ => pure ()) statement) := by
  cases statement with
  | say expression => exact (Inward.say expression).bind fun _ => .pure _
  | assign name expression => exact (Inward.assign name expression).bind fun _ => .pure _
  | address target command => exact absurd rfl (haddress target command)
  | ifThen condition => exact (Inward.evaluate condition).bind fun _ => .pure _
  | doLoop name first last => exact absurd rfl (hloop name first last)
  | comment block => exact .pure _
  | unknown text => exact (Inward.passOver position text).bind fun _ => .pure _
  | endBlock => exact .pure _

theorem inward_advance {frame : Frame} (hdirective : frame.directive? lines = none) :
    Inward (advance surroundings lines frame) := by
  cases frame with
  | loop name value last start stop => exact (Inward.setVariable _ _).bind fun _ => .pure _
  | block start position stop =>
    have haddress : ∀ target command, statementAt lines position ≠ .address target command := by
      intro target command hstatement
      simp [Frame.directive?, hstatement] at hdirective
    rw [advance, beginLine]
    split
    · exact (Inward.bound _).bind fun _ => (Inward.bound _).bind fun _ =>
        (Inward.announce _ _ _).bind fun _ => .pure _
    · exact (inward_perform position _ ‹_› haddress).bind fun _ => .pure _

/-- A step that is no directive does the same in all surroundings. -/
theorem advance_congr {frame : Frame} (hdirective : frame.directive? lines = none)
    (surroundings' : Surroundings σ) :
    advance surroundings lines frame = advance surroundings' lines frame := by
  cases frame with
  | loop => rfl
  | block start position stop =>
    rw [advance, advance, beginLine, beginLine]
    cases hstatement : statementAt lines position with
    | address target command => simp [Frame.directive?, hstatement] at hdirective
    | _ => rfl

end Run

/-! ## Printed lines and calls -/

/-- Printed lines and calls are only added to those that are there. -/
structure Extends (state after : RunState σ) : Prop where
  said_grows : state.said.toList <+: after.said.toList
  calls_grow : state.calls.toList <+: after.calls.toList

namespace Extends

theorem refl (state : RunState σ) : Extends state state :=
  ⟨List.prefix_rfl, List.prefix_rfl⟩

theorem trans {first second third : RunState σ} (h : Extends first second)
    (h' : Extends second third) : Extends first third :=
  ⟨h.said_grows.trans h'.said_grows, h.calls_grow.trans h'.calls_grow⟩

theorem of_untouched {state after : RunState σ} (h : Untouched state after) :
    Extends state after :=
  ⟨h.said_grows, h.calls_eq ▸ List.prefix_rfl⟩

theorem bind {run : Run σ α} {next : α → Run σ β}
    (hrun : ∀ state, Extends state (run.run state).2)
    (hnext : ∀ a state, Extends state ((next a).run state).2) (state : RunState σ) :
    Extends state ((run >>= next).run state).2 := by
  have hstate := hrun state
  rw [Attempt.run_bind]
  rcases hresult : run.run state with ⟨error | a, after⟩ <;> rw [hresult] at hstate
  · exact hstate
  · exact hstate.trans (hnext a after)

end Extends

namespace Run

variable {surroundings : Surroundings σ} {lines : List String}

theorem extends_checkpoint (state : RunState σ) :
    Extends state ((checkpoint surroundings).run state).2 := by
  rw [run_checkpoint]
  split
  · exact .refl state
  · split
    · exact ⟨List.prefix_rfl, List.prefix_rfl⟩
    · split <;> exact ⟨List.prefix_rfl, List.prefix_rfl⟩

theorem extends_called (surroundings : Surroundings σ) (state : RunState σ)
    (target command : String) :
    Extends state (called surroundings state target command) :=
  ⟨List.prefix_rfl, by simp [called]⟩

theorem extends_sendCommand (line : Nat) (target command : String) (state : RunState σ) :
    Extends state ((sendCommand surroundings line target command).run state).2 := by
  cases hclock : surroundings.clock state.readings with
  | error error =>
    rw [run_sendCommand, hclock]
    exact ⟨List.prefix_rfl, List.prefix_rfl⟩
  | ok now =>
    by_cases hearly : now.lt surroundings.deadline = true
    · exact (extends_called surroundings state target command).trans
        (.of_untouched (untouched_called_sendCommand hclock hearly line target command))
    · rw [run_sendCommand, hclock]
      simp only [if_neg hearly]
      exact ⟨List.prefix_rfl, List.prefix_rfl⟩

theorem extends_advance (frame : Frame) (state : RunState σ) :
    Extends state ((advance surroundings lines frame).run state).2 := by
  rcases hdirective : frame.directive? lines with _ | ⟨target, command⟩
  · exact .of_untouched (inward_advance hdirective state)
  · cases frame with
    | loop => cases hdirective
    | block start position stop =>
      rw [advance_of_directive hdirective]
      exact Extends.bind (extends_sendCommand position target command)
        (fun _ state => .refl state) state

theorem extends_step (frames : List Frame) (state : RunState σ) :
    Extends state ((step surroundings lines frames).run state).2 := by
  cases frames with
  | nil => exact .refl state
  | cons frame rest =>
    exact Extends.bind extends_checkpoint
      (fun _ => Extends.bind (extends_advance frame) fun _ state => .refl state) state

/-- Steps add to the printed lines and calls, and take none of them back. -/
theorem extends_steps (count : Nat) (frames : List Frame) (state : RunState σ) :
    Extends state ((steps surroundings lines count frames).run state).2 := by
  induction count generalizing frames state with
  | zero => exact .refl state
  | succ count ih => exact Extends.bind (extends_step frames) ih state

theorem extends_steps_add (count more : Nat) (frames : List Frame) (state : RunState σ) :
    Extends ((steps surroundings lines count frames).run state).2
      ((steps surroundings lines (count + more) frames).run state).2 := by
  rw [steps_add, Attempt.run_bind]
  rcases (steps surroundings lines count frames).run state with ⟨error | frames, after⟩
  · exact .refl after
  · exact extends_steps more frames after

/-- A run adds to what any number of its steps have done. -/
theorem extends_ending (script : String) (host : σ) (count : Nat) :
    Extends
      ((steps surroundings (splitLines script) count (opening (splitLines script))).run
        { readings := 1, host }).2
      (ending surroundings script host).2 := by
  obtain ⟨enough, henough⟩ := exists_steps_eq_ending surroundings script host
  have hended := steps_add_of_ended henough count
  rw [Nat.add_comm] at hended
  have hextends : Extends _ ((steps surroundings (splitLines script) (count + enough)
      (opening (splitLines script))).run { readings := 1, host }).2 :=
    extends_steps_add count enough _ _
  rw [hended] at hextends
  exact hextends

end Run

end DeckScript.Script
