import DeckScript.Proofs.Script.TimeBudget
import DeckScript.Proofs.Value.Moderate

/-!
# How runs fail

If the handler answers every command, and with numbers that can be written, there are
three ways for a run to fail: it is stopped, its time is over, or a bound of a loop is
no integer.  Nothing that a line reads, computes, prints or logs can break it off.

## Strategy

What might break a run off is a number that is too long to write.  None ever comes up:
all variables hold moderate values, and the loops that are under way count between
bounds within the limit.  `ensures_advance` says that a step keeps this, kind of line
by kind of line, and `ensures_steps` takes it through the run.
-/

namespace DeckScript

/-- The code can be written and the payload is moderate. -/
structure CommandResult.IsModerate (result : CommandResult) : Prop where
  code_lt : result.code.natAbs < Number.writeLimit
  payload : result.result.IsModerate

namespace Script

variable {σ : Type}

/-- The clock can be read, and the handler answers every command with a moderate result. -/
structure Responsive (surroundings : Surroundings σ) : Prop where
  reads : ∀ reading, ∃ now, surroundings.clock reading = .ok now
  answers : ∀ address command host, ∃ result,
    (surroundings.handler address command host).1.outcome = .answered result ∧ result.IsModerate

/-- The errors that a run of the lines may end with. -/
def Foreseen (timeout : Int) (lines : List String) : RunError → Prop
  | .stopped => True
  | .timeout milliseconds => milliseconds = timeout
  | .invalidBound expression => ∃ position name first last,
    statementAt lines position = .doLoop name first last ∧
      (expression = first ∨ expression = last)
  | _ => False

/-- What is left of a loop counts within the limit. -/
def Frame.IsModerate : Frame → Prop
  | block .. => True
  | loop _ value last _ _ => -(Number.writeLimit : Int) < value ∧ last < Number.writeLimit

/-! ## Results of commands -/

theorem isLoggable_of_isModerate {result : CommandResult} (h : result.IsModerate) :
    isLoggable result = true := by
  simp [isLoggable, h.code_lt]

theorem areModerate_stored {result : CommandResult} (h : result.IsModerate) {vars : Variables}
    (hvars : vars.AreModerate) : (stored result vars).AreModerate := by
  have hcode : (storedCode result).natAbs < Number.writeLimit := by
    unfold storedCode
    split_ifs
    · exact Nat.zero_lt_of_lt Number.one_lt_writeLimit
    · exact Number.one_lt_writeLimit
    · exact h.code_lt
  have hpayload : (storedPayload result).IsModerate := by
    unfold storedPayload
    split_ifs
    · split
      · exact Value.isModerate_text _
      · exact h.payload
    · exact Value.isModerate_text _
  exact (hvars.insert (Value.isModerate_int hcode) _).insert hpayload _

namespace Run

/-! ## Statements -/

section

variable {state : RunState σ} {broken : RunError → RunState σ → Prop}

theorem ensures_evaluate (hvars : state.vars.AreModerate) (expression : String)
    {done : Value → RunState σ → Prop} (hdone : ∀ value, value.IsModerate → done value state) :
    (evaluate expression).Ensures state broken done := by
  obtain ⟨value, hvalue, hmoderate⟩ := Expression.exists_evaluate hvars expression
  simp only [evaluate, Attempt.ensures_bind, Attempt.ensures_get, hvalue,
    Attempt.ensures_ofExcept_ok]
  exact hdone value hmoderate

theorem ensures_say (hvars : state.vars.AreModerate) (expression : String) :
    (say expression).Ensures state broken fun _ after => after.vars.AreModerate := by
  rw [say, Attempt.ensures_bind]
  refine ensures_evaluate hvars expression fun value hvalue => ?_
  simpa only [hvalue.display, Attempt.ensures_bind, Attempt.ensures_ofExcept_ok,
    Attempt.ensures_modify] using hvars

theorem ensures_assign (hvars : state.vars.AreModerate) (name expression : String) :
    (assign name expression).Ensures state broken fun _ after => after.vars.AreModerate := by
  rw [assign, Attempt.ensures_bind]
  refine ensures_evaluate hvars expression fun value hvalue => ?_
  obtain ⟨text, htext⟩ := hvalue.inspect
  simp only [setVariable, note, htext, Attempt.ensures_bind, Attempt.ensures_modify,
    Attempt.ensures_ofExcept_ok]
  exact hvars.insert hvalue name

theorem ensures_announce {first last : Int} (hfirst : first.natAbs < Number.writeLimit)
    (hlast : last.natAbs < Number.writeLimit) (hvars : state.vars.AreModerate) (name : String) :
    (announce name first last).Ensures state broken fun _ after => after.vars.AreModerate := by
  simpa only [announce, note, Number.writeInt_of_lt hfirst, Number.writeInt_of_lt hlast,
    Attempt.ensures_bind, Attempt.ensures_ofExcept_ok, Attempt.ensures_modify] using hvars

theorem ensures_passOver (hvars : state.vars.AreModerate) (line : Nat) (text : String) :
    (passOver line text).Ensures state broken fun _ after => after.vars.AreModerate := by
  unfold passOver
  split
  · exact hvars
  · exact hvars

/-- A moderate value that counts as an integer is within the limit. -/
theorem natAbs_lt_of_boundOf? {value : Value} (hvalue : value.IsModerate) {n : Int}
    (hbound : boundOf? value = some n) : n.natAbs < Number.writeLimit := by
  unfold boundOf? at hbound
  split at hbound
  · cases hbound
    exact of_decide_eq_true hvalue
  · split at hbound
    · cases hbound
      exact Binary64.natAbs_truncate_lt hvalue
    · cases hbound
  · rename_i text
    cases hread : Number.readInteger (Text.trimmed text) with
    | error error => rw [hread] at hbound; cases hbound
    | ok n' =>
      rw [hread] at hbound
      cases hbound
      exact Number.natAbs_lt_of_readInteger hread
  · cases hbound

theorem ensures_bound (hvars : state.vars.AreModerate) (expression : String)
    (hbroken : broken (.invalidBound expression) state) {done : Int → RunState σ → Prop}
    (hdone : ∀ n : Int, n.natAbs < Number.writeLimit → done n state) :
    (bound expression).Ensures state broken done := by
  rw [bound, Attempt.ensures_bind]
  refine ensures_evaluate hvars expression fun value hvalue => ?_
  cases hbound : boundOf? value with
  | none => exact hbroken
  | some n => exact hdone n (natAbs_lt_of_boundOf? hvalue hbound)

end

/-! ## Steps -/

section

variable {surroundings : Surroundings σ} {lines : List String} {state : RunState σ}

theorem ensures_checkpoint (hresponsive : Responsive surroundings)
    (hvars : state.vars.AreModerate) :
    (checkpoint surroundings).Ensures state
      (fun error _ => Foreseen surroundings.timeout lines error)
      fun _ after => after.vars.AreModerate := by
  obtain ⟨now, hnow⟩ := hresponsive.reads state.readings
  rw [Attempt.Ensures, run_checkpoint, hnow]
  by_cases hstopped : state.stopped = true
  · simp only [if_pos hstopped]
    trivial
  · by_cases hlate : surroundings.deadline.lt now = true
    · simp only [if_neg hstopped, if_pos hlate]
      rfl
    · simp only [if_neg hstopped, if_neg hlate]
      exact hvars

theorem ensures_sendCommand (hresponsive : Responsive surroundings)
    (hvars : state.vars.AreModerate) (line : Nat) (target command : String) :
    (sendCommand surroundings line target command).Ensures state
      (fun error _ => Foreseen surroundings.timeout lines error)
      fun _ after => after.vars.AreModerate := by
  obtain ⟨now, hnow⟩ := hresponsive.reads state.readings
  obtain ⟨result, hresult, hmoderate⟩ := hresponsive.answers target command state.host
  rw [Attempt.Ensures, run_sendCommand, hnow, hresult]
  by_cases hearly : now.lt surroundings.deadline = true
  · simp only [if_pos hearly, run_storeResult, isLoggable_of_isModerate hmoderate, if_true]
    exact areModerate_stored hmoderate hvars
  · simp only [if_neg hearly]
    rfl

/-- A line that is carried out leaves moderate variables or fails in a foreseen way. -/
theorem ensures_perform (hresponsive : Responsive surroundings) (hvars : state.vars.AreModerate)
    (position : Nat) (rest : List String) {statement : Statement}
    (hloop : ∀ name first last, statement ≠ .doLoop name first last) :
    (perform surroundings position rest (fun _ => pure ()) statement).Ensures state
      (fun error _ => Foreseen surroundings.timeout lines error)
      fun _ after => after.vars.AreModerate := by
  cases statement with
  | say expression => exact (Attempt.ensures_bind _ _).2 (ensures_say hvars expression)
  | assign name expression =>
    exact (Attempt.ensures_bind _ _).2 (ensures_assign hvars name expression)
  | address target command =>
    exact (Attempt.ensures_bind _ _).2 (ensures_sendCommand hresponsive hvars _ target command)
  | ifThen condition =>
    exact (Attempt.ensures_bind _ _).2 (ensures_evaluate hvars condition fun _ _ => hvars)
  | doLoop name first last => exact absurd rfl (hloop name first last)
  | comment block => exact hvars
  | unknown text => exact (Attempt.ensures_bind _ _).2 (ensures_passOver hvars position text)
  | endBlock => exact hvars

theorem ensures_advance (hresponsive : Responsive surroundings) (hvars : state.vars.AreModerate)
    {frame : Frame} (hframe : frame.IsModerate) (hover : frame.isOver = false) :
    (advance surroundings lines frame).Ensures state
      (fun error _ => Foreseen surroundings.timeout lines error)
      fun begun after => after.vars.AreModerate ∧ ∀ frame ∈ begun, frame.IsModerate := by
  cases frame with
  | loop name value last start stop =>
    obtain ⟨hvalue, hlast⟩ := hframe
    -- a round is begun for values up to the last bound only
    have hle : value ≤ last := by simpa [Frame.isOver] using hover
    have hround : value.natAbs < Number.writeLimit := by omega
    simp only [advance, setVariable, Attempt.ensures_bind, Attempt.ensures_modify,
      Attempt.ensures_pure]
    refine ⟨hvars.insert (Value.isModerate_int hround) name, ?_⟩
    simp only [List.forall_mem_cons, Frame.IsModerate]
    exact ⟨trivial, ⟨by omega, hlast⟩, by simp⟩
  | block start position stop =>
    rw [advance, beginLine]
    split
    · rename_i name first last hstatement
      have hinvalid (expression : String) (h : expression = first ∨ expression = last) :
          Foreseen surroundings.timeout lines (.invalidBound expression) :=
        ⟨position, name, first, last, hstatement, h⟩
      rw [Attempt.ensures_bind]
      refine ensures_bound hvars first (hinvalid first (.inl rfl)) fun n hn => ?_
      rw [Attempt.ensures_bind]
      refine ensures_bound hvars last (hinvalid last (.inr rfl)) fun n' hn' => ?_
      rw [Attempt.ensures_bind]
      refine (ensures_announce hn hn' hvars name).mono (fun _ _ h => h) fun _ after hafter => ?_
      simp only [Attempt.ensures_pure, List.forall_mem_cons, Frame.IsModerate]
      exact ⟨hafter, ⟨by omega, by omega⟩, trivial, by simp⟩
    · rename_i hplain
      -- what is on the line does not matter any more
      generalize statementAt lines position = statement at hplain ⊢
      rw [Attempt.ensures_bind]
      refine (ensures_perform hresponsive hvars position _ hplain).mono (fun _ _ h => h) ?_
      intro skipped after hafter
      simp only [Attempt.ensures_pure, List.forall_mem_cons, Frame.IsModerate]
      exact ⟨hafter, trivial, by simp⟩

/-- The variables and the loops under way are moderate, and the next line or round is due. -/
structure IsSteady (frames : List Frame) (state : RunState σ) : Prop where
  vars : state.vars.AreModerate
  loops : ∀ frame ∈ frames, frame.IsModerate
  due : ∀ frame rest, frames = frame :: rest → frame.isOver = false

theorem ensures_step (hresponsive : Responsive surroundings) {frames : List Frame}
    (hsteady : IsSteady frames state) :
    (step surroundings lines frames).Ensures state
      (fun error _ => Foreseen surroundings.timeout lines error) IsSteady := by
  cases frames with
  | nil => exact hsteady
  | cons frame rest =>
    have hrest : ∀ frame ∈ rest, frame.IsModerate :=
      fun other hother => hsteady.loops other (List.mem_cons_of_mem _ hother)
    rw [step, Attempt.ensures_bind]
    refine (ensures_checkpoint hresponsive hsteady.vars).mono (fun _ _ h => h) ?_
    intro _ looked hlooked
    rw [Attempt.ensures_bind]
    refine (ensures_advance hresponsive hlooked (hsteady.loops frame List.mem_cons_self)
      (hsteady.due frame rest rfl)).mono (fun _ _ h => h) ?_
    intro begun after hafter
    refine ⟨hafter.1, ?_, fun _ _ hframes => isOver_eq_false_of_pending_eq_cons hframes⟩
    intro other hother
    -- a frame was begun by the step or lay below it
    rcases List.mem_append.1 ((List.dropWhile_suffix _).subset hother) with hbegun | hbelow
    · exact hafter.2 other hbegun
    · exact hrest other hbelow

theorem ensures_steps (hresponsive : Responsive surroundings) (count : Nat) {frames : List Frame}
    (hsteady : IsSteady frames state) :
    (steps surroundings lines count frames).Ensures state
      (fun error _ => Foreseen surroundings.timeout lines error) IsSteady := by
  induction count generalizing frames state with
  | zero => exact hsteady
  | succ count ih =>
    rw [steps, Attempt.ensures_bind]
    exact (ensures_step hresponsive hsteady).mono (fun _ _ h => h) fun _ _ hafter => ih hafter

theorem isSteady_opening (lines : List String) (host : σ) :
    IsSteady (opening lines) { readings := 1, host } where
  vars := .empty
  loops frame hframe := by
    have hblock := (List.dropWhile_suffix _).subset hframe
    simp only [List.mem_singleton] at hblock
    rw [hblock]
    trivial
  due _ _ hframes := isOver_eq_false_of_pending_eq_cons hframes

/-- A run that fails does so in a foreseen way. -/
theorem foreseen_of_ending (hresponsive : Responsive surroundings) {script : String} {host : σ}
    {error : RunError} (herror : (ending surroundings script host).1 = .error error) :
    Foreseen surroundings.timeout (splitLines script) error := by
  obtain ⟨count, hcount⟩ := exists_steps_eq_ending surroundings script host
  have hsteps : (steps surroundings (splitLines script) count
      (opening (splitLines script))).Ensures { readings := 1, host }
      (fun error _ => Foreseen surroundings.timeout (splitLines script) error) IsSteady :=
    ensures_steps hresponsive count (isSteady_opening (splitLines script) host)
  rw [Attempt.Ensures, hcount, herror] at hsteps
  exact hsteps

end

end Run

/-! ## Reports -/

/-- The wording of the foreseen errors. -/
theorem message_of_foreseen {timeout : Int} {lines : List String} {error : RunError}
    (hforeseen : Foreseen timeout lines error) :
    error.message = "Script execution timeout after " ++ timeout.repr ++ "ms" ∨
      error.message = "Script execution stopped" ∨
      ∃ position name first last, statementAt lines position = .doLoop name first last ∧
        (error.message = "DO: invalid loop bound " ++ Text.quoted first ∨
          error.message = "DO: invalid loop bound " ++ Text.quoted last) := by
  cases error with
  | stopped => exact .inr (.inl rfl)
  | timeout milliseconds =>
    cases hforeseen
    exact .inl rfl
  | invalidBound expression =>
    obtain ⟨position, name, first, last, hstatement, rfl | rfl⟩ := hforeseen
    · exact .inr (.inr ⟨position, name, _, last, hstatement, .inl rfl⟩)
    · exact .inr (.inr ⟨position, name, first, _, hstatement, .inr rfl⟩)
  | number error => exact hforeseen.elim
  | raised kind message => exact hforeseen.elim

theorem message_ne_empty {timeout : Int} {lines : List String} {error : RunError}
    (hforeseen : Foreseen timeout lines error) : error.message ≠ "" := by
  rcases message_of_foreseen hforeseen with
    hmessage | hmessage | ⟨_, _, _, _, -, hmessage | hmessage⟩ <;>
    rw [hmessage] <;> simp

/-- **What a run reports, and how it can fail.**  Take any script and any readings of the clock, a
number of milliseconds within the range of the clock, and a handler that answers every command, with
codes and payloads whose integers can be written.  There is a report.  It is a success, its code
is 0 and it has no error, all or none of them.  The output of a success are the lines printed; a
failure has the code 99 and an error, which is put at the end of the output.  The error is that the
time is over, that the run was stopped, or that a bound of a loop is no integer. -/
theorem execute_reports {handler : AddressHandler σ} {readings : Nat → Binary64} {timeout : Int}
    {budget : Binary64} (hbudget : seconds timeout = .ok budget)
    (hhandler : ∀ address command host, ∃ result,
      (handler address command host).1.outcome = .answered result ∧ result.IsModerate)
    (script : String) (host : σ) :
    ∃ report, execute handler (fun reading => .ok (readings reading)) timeout script host =
        .ok report ∧
      (report.execution.success = true ↔ report.execution.code = 0) ∧
      (report.execution.code = 0 ↔ report.execution.error = none) ∧
      (report.execution.success = true →
        report.execution.output = joinLines report.said.toList) ∧
      (report.execution.success = false → report.execution.code = 99 ∧
        ∃ message, report.execution.error = some message ∧ message ≠ "" ∧
          report.execution.output = joinLines (report.said.toList ++ ["ERROR: " ++ message]) ∧
          (message = "Script execution timeout after " ++ timeout.repr ++ "ms" ∨
            message = "Script execution stopped" ∨
            ∃ position name first last,
              statementAt (splitLines script) position = .doLoop name first last ∧
              (message = "DO: invalid loop bound " ++ Text.quoted first ∨
                message = "DO: invalid loop bound " ++ Text.quoted last))) := by
  have hlimit : deadline (fun reading => .ok (readings reading)) timeout =
      .ok ((readings 0).add budget) := by
    rw [deadline, hbudget]
    rfl
  let surroundings : Surroundings σ :=
    { handler
      clock := fun reading => .ok (readings reading)
      timeout
      deadline := (readings 0).add budget }
  have hresponsive : Responsive surroundings := ⟨fun reading => ⟨_, rfl⟩, hhandler⟩
  refine ⟨_, execute_eq_ofRun hlimit handler script host, ?_⟩
  rcases hending : Run.ending surroundings script host with ⟨error | ⟨⟩, final⟩
  · have hforeseen : Foreseen timeout (splitLines script) error :=
      Run.foreseen_of_ending hresponsive (by rw [hending])
    refine ⟨by simp [Report.ofRun, ErrorCode.number], by simp [Report.ofRun, ErrorCode.number],
      by simp [Report.ofRun], fun _ => ⟨rfl, error.message, rfl, ?_, rfl, ?_⟩⟩
    · exact message_ne_empty hforeseen
    · exact message_of_foreseen hforeseen
  · exact ⟨by simp [Report.ofRun, ErrorCode.ok], by simp [Report.ofRun, ErrorCode.ok],
      fun _ => rfl, by simp [Report.ofRun]⟩

/-- Without a handler for the slides every command fails with a small code. -/
theorem answers_routed_none (address command : String) (host : Unit) :
    ∃ result, (routed none address command host).1.outcome = .answered result ∧
      result.IsModerate := by
  have hcode (code : ErrorCode) (output : String) (hsmall : code.number.natAbs < Nat.pow 10 1) :
      (CommandResult.failure code output).IsModerate :=
    ⟨Number.lt_writeLimit hsmall (by decide), rfl⟩
  by_cases haddress : Text.uppercase address = slidesAddress
  · rw [routed, route, if_pos haddress]
    exact ⟨_, rfl, hcode .handlerMissing _ (by decide)⟩
  · rw [routed, route, if_neg haddress]
    exact ⟨_, rfl, hcode .unknown _ (by decide)⟩

/-- A loop from a name that no variable has. -/
def unknownBoundScript : String := "SAY 1\nDO i = x TO 3\nEND"

theorem execute_reports_unknownBound :
    seconds 1000 = .ok (.finite false (Nat.pow 2 52) (-52)) ∧
      ∃ report, execute (routed none) (fun _ => .ok .zero) 1000 unknownBoundScript () =
          .ok report ∧
        (report.execution.success = true ↔ report.execution.code = 0) ∧
        report.execution.error = some "DO: invalid loop bound 'x'" := by
  have hbudget : seconds 1000 = .ok (.finite false (Nat.pow 2 52) (-52)) := by decide +kernel
  have herror : (execute (routed none) (fun _ => .ok .zero) 1000 unknownBoundScript ()).map
      (fun report => report.execution.error) = .ok (some "DO: invalid loop bound 'x'") := by
    decide +kernel
  obtain ⟨report, hreport, hcode, -⟩ :=
    execute_reports hbudget answers_routed_none unknownBoundScript ()
  rw [hreport] at herror
  exact ⟨hbudget, report, hreport, hcode, Except.ok.inj herror⟩

/-- There is no report if the number of milliseconds is out of range. -/
theorem not_forall_execute_reports :
    ¬ ∀ (timeout : Int) (script : String), ∃ report,
      execute (routed none) stillSurroundings.clock timeout script () = .ok report := by
  intro hall
  obtain ⟨report, hreport⟩ := hall boundlessBudget threeLines
  rw [execute, deadline, seconds_boundlessBudget] at hreport
  cases hreport

end Script

end DeckScript
