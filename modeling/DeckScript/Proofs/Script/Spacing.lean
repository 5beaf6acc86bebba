import Mathlib.Data.List.Forall2
import DeckScript.Proofs.Script.Effects
import DeckScript.Proofs.Script.Execution
import DeckScript.Proofs.Script.IdleLines

/-!
# The layout of a script

Blank lines, comment lines and the blanks around lines can be changed freely, also inside
loops, in blocks that are skipped and in comments: the run does the same, and only the
numbers of the lines in its warnings change.

An idle line takes time, though, since the run looks at the clock and at the request to
stop before it.  So the statement is about runs that are not cut short (`CutShort`).

## Strategy

* **Different positions.**  `Alike` relates two runs line by line; their positions do not
  occur in it, and what is still to be run is compared by its `core` only.  That a line
  jumps to the same place of the core in both runs is `core_bodyLength` and
  `core_drop_commentLength`.
* **Different readings of the clock.**  The readings are free in `SameState`.  They matter
  only where a run is cut short, and then `Alike` promises nothing.
-/

namespace DeckScript.Script

variable {σ α β γ δ : Type}

/-! ## What may differ -/

/-- Entries of a log that are the same, or that warn with the same words about lines of different
numbers. -/
inductive SameEntry : LogEntry → LogEntry → Prop
  | same (entry : LogEntry) : SameEntry entry entry
  | warning (line line' : Nat) (text : String) :
      SameEntry ⟨.warning, "Line " ++ line.repr ++ ": " ++ text⟩
        ⟨.warning, "Line " ++ line'.repr ++ ": " ++ text⟩

theorem SameEntry.warning_append (line line' : Nat) (rest text : String)
    (hrest : rest = ": " ++ text) :
    SameEntry ⟨.warning, "Line " ++ (line.repr ++ rest)⟩
      ⟨.warning, "Line " ++ (line'.repr ++ rest)⟩ := by
  have hentry := SameEntry.warning line line' text
  simpa only [String.append_assoc, hrest] using hentry

/-- The states differ at most in readings of the clock and in the numbers of lines. -/
structure SameState (state state' : RunState σ) : Prop where
  vars_eq : state'.vars = state.vars
  said_eq : state'.said = state.said
  calls_eq : state'.calls = state.calls
  host_eq : state'.host = state.host
  stopped_eq : state'.stopped = state.stopped
  log_same : List.Forall₂ SameEntry state.log.toList state'.log.toList

theorem SameState.push {state state' : RunState σ} (h : SameState state state')
    {entry entry' : LogEntry} (hentry : SameEntry entry entry') :
    SameState { state with log := state.log.push entry }
      { state' with log := state'.log.push entry' } :=
  { h with
    log_same := by
      simp only [Array.toList_push]
      exact List.rel_append h.log_same (.cons hentry .nil) }

/-- The run ended because it was asked to stop or because its time was over. -/
inductive CutShort : Except RunError α → Prop
  | stopped : CutShort (.error .stopped)
  | timeout (milliseconds : Int) : CutShort (.error (.timeout milliseconds))

/-- Neither run is cut short, and then both fail alike or both succeed with results that are the
same in the given sense; or one of them is. -/
inductive SameEnd (same : α → β → Prop) :
    Except RunError α × RunState σ → Except RunError β × RunState σ → Prop
  | cutFirst {result : Except RunError α} (hcut : CutShort result) (state : RunState σ)
      (second : Except RunError β × RunState σ) : SameEnd same (result, state) second
  | cutSecond {result : Except RunError β} (hcut : CutShort result) (state : RunState σ)
      (first : Except RunError α × RunState σ) : SameEnd same first (result, state)
  | error (error : RunError) {state state' : RunState σ} (hstate : SameState state state') :
      SameEnd same (.error error, state) (.error error, state')
  | ok {a : α} {b : β} (hsame : same a b) {state state' : RunState σ}
      (hstate : SameState state state') : SameEnd same (.ok a, state) (.ok b, state')

/-- From the same states the runs come to the same end. -/
def Alike (same : α → β → Prop) (first : Run σ α) (second : Run σ β) : Prop :=
  ∀ state state', SameState state state' →
    SameEnd same (first.run state) (second.run state')

namespace Alike

theorem bind {same : α → β → Prop} {same' : γ → δ → Prop} {first : Run σ α} {second : Run σ β}
    {next : α → Run σ γ} {next' : β → Run σ δ} (hfirst : Alike same first second)
    (hnext : ∀ a b, same a b → Alike same' (next a) (next' b)) :
    Alike same' (first >>= next) (second >>= next') := by
  intro state state' hstate
  rw [Attempt.run_bind, Attempt.run_bind]
  rcases hrun : first.run state with ⟨result, after⟩
  rcases hrun' : second.run state' with ⟨result', after'⟩
  have hend := hfirst state state' hstate
  rw [hrun, hrun'] at hend
  cases hend with
  | cutFirst hcut =>
    cases hcut with
    | stopped => exact .cutFirst .stopped _ _
    | timeout => exact .cutFirst (.timeout _) _ _
  | cutSecond hcut =>
    cases hcut with
    | stopped => exact .cutSecond .stopped _ _
    | timeout => exact .cutSecond (.timeout _) _ _
  | error error hafter => exact .error error hafter
  | ok hsame hafter => exact hnext _ _ hsame after after' hafter

theorem pure {same : α → β → Prop} {a : α} {b : β} (hsame : same a b) :
    Alike same (Pure.pure a : Run σ α) (Pure.pure b : Run σ β) :=
  fun _ _ hstate => .ok hsame hstate

theorem fail {same : α → β → Prop} (error : RunError) :
    Alike same (.fail error : Run σ α) (.fail error : Run σ β) :=
  fun _ _ hstate => .error error hstate

theorem timeout_first {same : α → β → Prop} (milliseconds : Int) (second : Run σ β) :
    Alike same (.fail (.timeout milliseconds) : Run σ α) second :=
  fun _ _ _ => .cutFirst (.timeout milliseconds) _ _

theorem timeout_second {same : α → β → Prop} (milliseconds : Int) (first : Run σ α) :
    Alike same first (.fail (.timeout milliseconds) : Run σ β) :=
  fun _ _ _ => .cutSecond (.timeout milliseconds) _ _

theorem ofExcept (result : Except NumberError α) :
    Alike Eq (.ofExcept .number result : Run σ α) (.ofExcept .number result) := by
  intro state state' hstate
  cases result with
  | ok a => exact .ok rfl hstate
  | error error => exact .error (.number error) hstate

theorem modify {change change' : RunState σ → RunState σ}
    (h : ∀ state state', SameState state state' → SameState (change state) (change' state')) :
    Alike Eq (.modify change : Run σ Unit) (.modify change') :=
  fun state state' hstate => .ok rfl (h state state' hstate)

theorem note (level : Level) (message : String) :
    Alike Eq (Run.note level message : Run σ Unit) (Run.note level message) :=
  modify fun _ _ hstate => hstate.push (.same _)

theorem setVariable (name : String) (value : Value) :
    Alike Eq (Run.setVariable name value : Run σ Unit) (Run.setVariable name value) :=
  modify fun _ _ hstate => { hstate with vars_eq := by rw [hstate.vars_eq] }

theorem evaluate (expression : String) :
    Alike Eq (Run.evaluate expression : Run σ Value) (Run.evaluate expression) := by
  intro state state' hstate
  have hvalue := ofExcept (σ := σ) (Expression.evaluate state.vars expression) state state' hstate
  simp only [Run.evaluate, Attempt.run_bind, Attempt.run_get, hstate.vars_eq]
  exact hvalue

theorem say (expression : String) :
    Alike Eq (Run.say expression : Run σ Unit) (Run.say expression) := by
  refine (evaluate expression).bind ?_
  rintro value _ rfl
  refine (ofExcept value.display).bind ?_
  rintro text _ rfl
  exact modify fun _ _ hstate => { hstate with said_eq := by rw [hstate.said_eq] }

theorem assign (name expression : String) :
    Alike Eq (Run.assign name expression : Run σ Unit) (Run.assign name expression) := by
  refine (evaluate expression).bind ?_
  rintro value _ rfl
  refine (setVariable name value).bind fun _ _ _ => (ofExcept value.inspect).bind ?_
  rintro text _ rfl
  exact note _ _

theorem bound (expression : String) :
    Alike Eq (Run.bound expression : Run σ Int) (Run.bound expression) := by
  refine (evaluate expression).bind ?_
  rintro value _ rfl
  cases Run.boundOf? value with
  | some n => exact pure rfl
  | none => exact fail _

theorem announce (name : String) (first last : Int) :
    Alike Eq (Run.announce name first last : Run σ Unit) (Run.announce name first last) := by
  refine (ofExcept _).bind ?_
  rintro digits _ rfl
  refine (ofExcept _).bind ?_
  rintro digits' _ rfl
  exact note _ _

theorem passOver (line line' : Nat) (text : String) :
    Alike Eq (Run.passOver line text : Run σ Unit) (Run.passOver line' text) := by
  unfold Run.passOver
  split
  · refine modify fun _ _ hstate => hstate.push ?_
    simp only [String.append_assoc]
    exact .warning_append _ _ _ "ADDRESS form not recognised, ignored" (by decide)
  · exact pure rfl

theorem storeResult (line line' : Nat) (result : CommandResult) :
    Alike Eq (Run.storeResult line result : Run σ Unit) (Run.storeResult line' result) := by
  unfold Run.storeResult
  split
  · exact (setVariable _ _).bind fun _ _ _ => setVariable _ _
  · refine (setVariable _ _).bind fun _ _ _ => (setVariable _ _).bind fun _ _ _ => ?_
    refine (ofExcept _).bind ?_
    rintro digits _ rfl
    refine modify fun _ _ hstate => hstate.push ?_
    simp only [String.append_assoc]
    refine .warning_append _ _ _ ("RC=" ++ (digits ++ (" " ++ result.output))) ?_
    rw [← String.append_assoc]
    rfl

theorem call (surroundings : Surroundings σ) (address command : String) :
    Alike Eq (Run.call surroundings address command) (Run.call surroundings address command) := by
  intro state state' hstate
  simp only [Run.call, hstate.host_eq]
  refine .ok rfl { hstate with calls_eq := ?_, host_eq := rfl, stopped_eq := ?_ }
  · simp [hstate.calls_eq]
  · simp [hstate.stopped_eq]

end Alike

/-! ## Looking at the clock -/

/-- The clock can always be read. -/
def Clock.Readable (clock : Clock) : Prop :=
  ∀ reading, ∃ now, clock reading = .ok now

section

variable {surroundings : Surroundings σ} (hclock : surroundings.clock.Readable)
include hclock

/-- A look before a line cuts the run short or lets it go on. -/
theorem Run.run_checkpoint_bind (next : Run σ α) (state : RunState σ) :
    (∃ result after, CutShort result ∧
        (do checkpoint surroundings; next : Run σ α).run state = (result, after)) ∨
      (do checkpoint surroundings; next : Run σ α).run state =
        next.run { state with readings := state.readings + 1 } := by
  obtain ⟨now, hnow⟩ := hclock state.readings
  rw [Attempt.run_bind, run_checkpoint, hnow]
  cases state.stopped with
  | true => exact .inl ⟨_, _, .stopped, rfl⟩
  | false =>
    cases hlate : surroundings.deadline.lt now with
    | true => exact .inl ⟨_, _, .timeout _, by simp only [hlate]; rfl⟩
    | false => exact .inr (by simp only [hlate]; rfl)

namespace Alike

/-- A look more goes unnoticed in the first run. -/
theorem look_first {same : α → β → Prop} {first : Run σ α} {second : Run σ β}
    (halike : Alike same first second) :
    Alike same (do Run.checkpoint surroundings; first) second := by
  intro state state' hstate
  rcases Run.run_checkpoint_bind hclock first state with ⟨result, after, hcut, hrun⟩ | hrun
  · rw [hrun]
    exact .cutFirst hcut after _
  · rw [hrun]
    exact halike _ _ { hstate with }

/-- A look more goes unnoticed in the second run. -/
theorem look_second {same : α → β → Prop} {first : Run σ α} {second : Run σ β}
    (halike : Alike same first second) :
    Alike same first (do Run.checkpoint surroundings; second) := by
  intro state state' hstate
  rcases Run.run_checkpoint_bind hclock second state' with ⟨result, after, hcut, hrun⟩ | hrun
  · rw [hrun]
    exact .cutSecond hcut after _
  · rw [hrun]
    exact halike _ _ { hstate with }

theorem readClock :
    Alike (fun _ _ => True) (Run.readClock surroundings) (Run.readClock surroundings) := by
  intro state state' hstate
  obtain ⟨now, hnow⟩ := hclock state.readings
  obtain ⟨now', hnow'⟩ := hclock state'.readings
  rw [Run.run_readClock, Run.run_readClock, hnow, hnow']
  exact .ok trivial { hstate with }

theorem sendCommand (line line' : Nat) (target command : String) :
    Alike Eq (Run.sendCommand surroundings line target command)
      (Run.sendCommand surroundings line' target command) := by
  refine (note _ _).bind fun _ _ _ => (readClock hclock).bind fun now now' _ => ?_
  cases now.lt surroundings.deadline with
  | false => exact timeout_first _ _
  | true =>
    cases now'.lt surroundings.deadline with
    | false => exact timeout_second _ _
    | true =>
      refine (call surroundings target command).bind ?_
      rintro outcome _ rfl
      cases outcome with
      | answered result => exact storeResult line line' result
      | raised kind message => exact fail _
      | overdue => exact fail _

theorem rounds {body body' : Run σ Unit} (hbody : Alike Eq body body') (name : String)
    (left : Nat) (value : Int) :
    Alike Eq (Run.rounds surroundings name body left value)
      (Run.rounds surroundings name body' left value) := by
  induction left generalizing value with
  | zero => exact pure rfl
  | succ left ih =>
    exact look_first hclock <| look_second hclock <| (setVariable name _).bind fun _ _ _ =>
      hbody.bind fun _ _ _ => ih (value + 1)

theorem loop {body body' : Run σ Unit} (hbody : Alike Eq body body')
    (name first last : String) :
    Alike Eq (Run.loop surroundings name first last body)
      (Run.loop surroundings name first last body') := by
  refine (bound first).bind ?_
  rintro first _ rfl
  refine (bound last).bind ?_
  rintro last _ rfl
  exact (announce name first last).bind fun _ _ _ => rounds hclock hbody name _ first

/-- A statement does the same in both runs and then jumps to the same place of the core. -/
theorem perform {rest rest' : List String} (hcore : core rest = core rest')
    {body body' : Unit → Run σ Unit} (hbody : Alike Eq (body ()) (body' ()))
    (position position' : Nat) (statement : Statement) :
    Alike (fun skipped skipped' => core (rest.drop skipped) = core (rest'.drop skipped'))
      (Run.perform surroundings position rest body statement)
      (Run.perform surroundings position' rest' body' statement) := by
  have hblock : core (rest.drop (bodyLength 0 rest + 1)) =
      core (rest'.drop (bodyLength 0 rest' + 1)) := by
    rw [(core_bodyLength 0 rest).2, (core_bodyLength 0 rest').2, hcore]
  cases statement with
  | say expression => exact (say expression).bind fun _ _ _ => pure hcore
  | assign name expression => exact (assign name expression).bind fun _ _ _ => pure hcore
  | address target command =>
    exact (sendCommand hclock _ _ target command).bind fun _ _ _ => pure hcore
  | ifThen condition =>
    refine (evaluate condition).bind ?_
    rintro value _ rfl
    refine pure ?_
    split
    · exact hcore
    · exact hblock
  | doLoop name first last =>
    exact (loop hclock hbody name first last).bind fun _ _ _ => pure hblock
  | comment block =>
    refine pure ?_
    split
    · rw [core_drop_commentLength, core_drop_commentLength, hcore]
    · exact hcore
  | unknown text => exact (passOver position position' text).bind fun _ _ _ => pure hcore
  | endBlock => exact pure hcore

end Alike

end

/-! ## Lines with the same core -/

/-- An idle line is no statement that could do anything. -/
theorem Statement.ofLine_of_idle {line : String} (hidle : isIdle line = true) :
    ofLine (Text.trimmed line) = .comment false ∨ ofLine (Text.trimmed line) = .unknown "" := by
  rcases Bool.or_eq_true_iff.1 hidle with hblank | hcomment
  · right
    have hempty : Text.trimmed line = "" := by
      simp [Text.trimmed, List.isEmpty_iff.1 hblank]
    rw [hempty]
    decide
  · left
    have hstart := (Bool.and_eq_true_iff.1 hcomment).1
    rw [ofLine, Text.toList_trimmed, if_pos hstart]

namespace Run

variable {surroundings : Surroundings σ}

/-- An idle line is looked at and passed over. -/
theorem runLines_of_idle {line : String} (hidle : isIdle line = true) (position : Nat)
    (rest : List String) :
    runLines surroundings position (line :: rest) =
      (do checkpoint surroundings; runLines surroundings (position + 1) rest) := by
  rw [runLines_cons, runLine]
  have hword : leadingWord "" ≠ "ADDRESS" := by decide
  rcases Statement.ofLine_of_idle hidle with hline | hline
  · simp [hline, perform]
  · simp [hline, perform, passOver, hword]

theorem runLine_alike (hclock : surroundings.clock.Readable) {line line' : String}
    (htrim : Text.trimmed line = Text.trimmed line') {rest rest' : List String}
    (hcore : core rest = core rest') {body body' : Unit → Run σ Unit}
    (hbody : Alike Eq (body ()) (body' ())) {next next' : Nat → Run σ Unit}
    (hnext : ∀ skipped skipped', core (rest.drop skipped) = core (rest'.drop skipped') →
      Alike Eq (next skipped) (next' skipped')) (position position' : Nat) :
    Alike Eq (runLine surroundings position line rest body next)
      (runLine surroundings position' line' rest' body' next') := by
  rw [runLine, runLine, htrim]
  exact Alike.look_first hclock <| Alike.look_second hclock <|
    (Alike.perform hclock hcore hbody position position' _).bind hnext

/-- Lines with the same core run alike, wherever they stand. -/
theorem runLines_alike (hclock : surroundings.clock.Readable) {lines lines' : List String}
    (hcore : core lines = core lines') (position position' : Nat) :
    Alike Eq (runLines surroundings position lines) (runLines surroundings position' lines') := by
  -- an idle line is taken from one of the scripts only, so their lines are counted together
  induction hsize : lines.length + lines'.length using Nat.strongRecOn
    generalizing lines lines' position position' with
  | ind size ih =>
    subst hsize
    have idleSecond {line' : String} {rest' : List String} (hlines' : lines' = line' :: rest')
        (hidle' : isIdle line' = true) :
        Alike Eq (runLines surroundings position lines)
          (runLines surroundings position' lines') := by
      rw [hlines', core_cons_of_idle hidle'] at hcore
      rw [hlines', runLines_of_idle hidle']
      exact Alike.look_second hclock (ih _ (by simp [hlines']) hcore _ _ rfl)
    cases lines with
    | nil =>
      cases lines' with
      | nil =>
        rw [runLines_nil, runLines_nil]
        exact Alike.pure rfl
      | cons line' rest' =>
        cases hidle' : isIdle line' with
        | true => exact idleSecond rfl hidle'
        | false => simp [core_cons_of_not_idle hidle'] at hcore
    | cons line rest =>
      cases hidle : isIdle line with
      | true =>
        rw [core_cons_of_idle hidle] at hcore
        rw [runLines_of_idle hidle]
        exact Alike.look_first hclock (ih _ (by simp) hcore _ _ rfl)
      | false =>
        cases lines' with
        | nil => simp [core_cons_of_not_idle hidle] at hcore
        | cons line' rest' =>
          cases hidle' : isIdle line' with
          | true => exact idleSecond rfl hidle'
          | false =>
            rw [core_cons_of_not_idle hidle, core_cons_of_not_idle hidle'] at hcore
            obtain ⟨htrim, hrest⟩ := List.cons.inj hcore
            have hbody : core (rest.take (bodyLength 0 rest)) =
                core (rest'.take (bodyLength 0 rest')) := by
              rw [(core_bodyLength 0 rest).1, (core_bodyLength 0 rest').1, hrest]
            rw [runLines_cons, runLines_cons]
            refine runLine_alike hclock htrim hrest (ih _ ?_ hbody _ _ rfl)
              (fun skipped skipped' hdrop => ih _ ?_ hdrop _ _ rfl) position position'
            · simp only [List.length_cons, List.length_take]
              omega
            · simp only [List.length_cons, List.length_drop]
              omega

end Run

/-! ## Whole scripts -/

/-- The reports agree in everything but the numbers of lines in warnings. -/
structure Report.SameButLines (report report' : Report σ) : Prop where
  execution_eq : report'.execution = report.execution
  said_eq : report'.said = report.said
  calls_eq : report'.calls = report.calls
  host_eq : report'.host = report.host
  log_same : List.Forall₂ SameEntry report.log.toList report'.log.toList

theorem SameState.report {state state' : RunState σ} (hstate : SameState state state')
    (result : Except RunError Unit) :
    (Report.ofRun (result, state)).SameButLines (Report.ofRun (result, state')) := by
  have hsaid := hstate.said_eq
  have hvars := hstate.vars_eq
  cases result with
  | ok _ =>
    exact
      { execution_eq := by simp only [Report.ofRun, hsaid, hvars]
        said_eq := hsaid
        calls_eq := hstate.calls_eq
        host_eq := hstate.host_eq
        log_same := hstate.log_same }
  | error error =>
    exact
      { execution_eq := by simp only [Report.ofRun, hsaid, hvars]
        said_eq := hsaid
        calls_eq := hstate.calls_eq
        host_eq := hstate.host_eq
        log_same := (hstate.push (.same _)).log_same }

theorem SameEnd.report {first second : Except RunError Unit × RunState σ}
    (hend : SameEnd Eq first second) (hfirst : ¬CutShort first.1) (hsecond : ¬CutShort second.1) :
    (Report.ofRun first).SameButLines (Report.ofRun second) := by
  cases hend with
  | cutFirst hcut => exact absurd hcut hfirst
  | cutSecond hcut => exact absurd hcut hsecond
  | error error hstate => exact hstate.report (.error error)
  | ok _ hstate => exact hstate.report (.ok ())

/-- Both executions are refused alike, or they report the same but for the numbers of lines. -/
inductive SameExecution :
    Except NumberError (Report σ) → Except NumberError (Report σ) → Prop
  | refused (error : NumberError) : SameExecution (.error error) (.error error)
  | reported {report report' : Report σ} (hsame : report.SameButLines report') :
      SameExecution (.ok report) (.ok report')

/-- The execution of a script is neither asked to stop nor runs out of time. -/
def RunsThrough (handler : AddressHandler σ) (clock : Clock) (timeout : Int) (script : String)
    (host : σ) : Prop :=
  ∀ limit, deadline clock timeout = .ok limit →
    ¬CutShort (Run.ending { handler, clock, timeout, deadline := limit } script host).1

/-- **Layout is inert.**  Changing blank lines, comment lines and the blanks around lines, anywhere
in a script, changes nothing in what its execution reports, the numbers of lines in warnings
apart, as long as neither execution is cut short. -/
theorem execute_sameButSpacing (handler : AddressHandler σ) {clock : Clock}
    (hclock : clock.Readable) (timeout : Int) {script script' : String}
    (hspacing : SameButSpacing script script') (host : σ)
    (hthrough : RunsThrough handler clock timeout script host)
    (hthrough' : RunsThrough handler clock timeout script' host) :
    SameExecution (execute handler clock timeout script host)
      (execute handler clock timeout script' host) := by
  rw [execute, execute]
  cases hlimit : deadline clock timeout with
  | error error => exact .refused error
  | ok limit =>
    have hstart : SameState { readings := 1, host : RunState σ } { readings := 1, host } :=
      ⟨rfl, rfl, rfl, rfl, rfl, .nil⟩
    have hend : SameEnd Eq
        (Run.ending { handler, clock, timeout, deadline := limit } script host)
        (Run.ending { handler, clock, timeout, deadline := limit } script' host) :=
      Run.runLines_alike hclock hspacing.core_eq 0 0 _ _ hstart
    exact .reported (hend.report (hthrough limit hlimit) (hthrough' limit hlimit))

/-- A loop that sends a command in each round. -/
def tidyScript : String := "DO i = 1 TO 2\nADDRESS SLIDES \"list-slides\"\nSAY i\nEND"

/-- The same loop with other ends of lines, an indented body, a blank line and a comment. -/
def looseScript : String :=
  "\r\nDO i = 1 TO 2\r\n-- each slide\r\n\tADDRESS SLIDES \"list-slides\"\r\n \r\n" ++
    "\tSAY i\r\nEND\r\n"

theorem execute_sameButSpacing_loose :
    SameButSpacing tidyScript looseScript ∧
      SameExecution
        (execute stillSurroundings.handler stillSurroundings.clock 1000 tidyScript ())
        (execute stillSurroundings.handler stillSurroundings.clock 1000 looseScript ()) := by
  have hlimit : deadline stillSurroundings.clock 1000 = .ok stillSurroundings.deadline := by
    decide +kernel
  have hspacing : SameButSpacing tidyScript looseScript := by decide +kernel
  have hthrough (script : String) (hrun : (Run.ending stillSurroundings script ()).1 = .ok ()) :
      RunsThrough stillSurroundings.handler stillSurroundings.clock 1000 script () := by
    intro limit hdeadline
    obtain rfl : stillSurroundings.deadline = limit := by
      rw [hlimit] at hdeadline
      exact Except.ok.inj hdeadline
    intro hcut
    have hcut' : CutShort (Run.ending stillSurroundings script ()).1 := hcut
    rw [hrun] at hcut'
    cases hcut'
  exact ⟨hspacing, execute_sameButSpacing _ (fun _ => ⟨_, rfl⟩) 1000 hspacing ()
    (hthrough _ (by decide +kernel)) (hthrough _ (by decide +kernel))⟩

end DeckScript.Script
