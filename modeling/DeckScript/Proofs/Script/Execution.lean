import DeckScript.Proofs.Binary64.Rounding
import DeckScript.Proofs.Script.TreeWalk

/-!
# Executing the text of a program

Executing the printed text of a program gives the report of the walk through its tree,
for every handler, clock, budget and layout.  The walk looks at the clock and at the
request to stop exactly where the run of the text does, so the two agree also on runs
that are cut short.

Where nothing cuts a run short the looks can be left out.  A run and a walk without
them then differ only in the number of readings of the clock, which nothing else
depends on (`Unnoticed`).
-/

namespace DeckScript.Script

variable {σ α β : Type}

/-! ## The reference -/

/-- What a tree walk reports.  A last line without a statement is also a line to begin. -/
def Program.report (surroundings : Surroundings σ) (layout : Layout) (program : Program)
    (host : σ) : Report σ :=
  let run : Run σ Unit := do
    program.walk (Run.checkpoint surroundings) (Run.sendToSlides surroundings) 0
    if layout.endsBlank program then Run.checkpoint surroundings else pure ()
  .ofRun (run.run { readings := 1, host })

/-- Runs a program by walking through its tree. -/
def Program.execute (handler : AddressHandler σ) (clock : Clock) (timeout : Int) (layout : Layout)
    (program : Program) (host : σ) : Except NumberError (Report σ) :=
  (deadline clock timeout).map fun deadline =>
    program.report { handler, clock, timeout, deadline } layout host

/-- Has a command for the slides carried out and stores its result. -/
def Run.deliver (surroundings : Surroundings σ) (line : Nat) (command : String) :
    Run σ Unit := do
  match ← call surroundings slidesAddress command with
  | .answered result => storeResult line result
  | .raised kind message => .fail (.raised kind message)
  | .overdue => .fail (.timeout surroundings.timeout)

/-- Sends a command to the slides whatever the time is. -/
def Run.sendAtOnce (surroundings : Surroundings σ) (line : Nat) (command : String) :
    Run σ Unit := do
  note .info ("ADDRESS " ++ slidesAddress ++ " → " ++ command)
  deliver surroundings line command

/-- What a tree walk reports that looks neither at the clock nor at requests to stop. -/
def Program.undisturbedReport (surroundings : Surroundings σ) (program : Program) (host : σ) :
    Report σ :=
  .ofRun ((program.walk (pure ()) (Run.sendAtOnce surroundings) 0).run { readings := 1, host })

/-- Nothing cuts a run short: the clock stays before the deadline, and no reply comes with a
request to stop. -/
structure Undisturbed (surroundings : Surroundings σ) : Prop where
  inTime : ∀ reading, ∃ now, surroundings.clock reading = .ok now ∧
    now.lt surroundings.deadline = true
  notStopped : ∀ address command host,
    (surroundings.handler address command host).1.stops = false

/-! ## Runs that differ in their readings of the clock -/

/-- The two runs do the same, the readings of the clock aside, as long as no stop was asked for;
and no stop is asked for on the way. -/
def Unnoticed (first second : Run σ α) : Prop :=
  ∀ (state : RunState σ) (readings : Nat), state.stopped = false →
    ∃ result after readings', first.run state = (result, after) ∧ after.stopped = false ∧
      second.run { state with readings } = (result, { after with readings := readings' })

namespace Unnoticed

theorem bind {first second : Run σ α} {next next' : α → Run σ β}
    (hfirst : Unnoticed first second) (hnext : ∀ a, Unnoticed (next a) (next' a)) :
    Unnoticed (first >>= next) (second >>= next') := by
  intro state readings hstate
  obtain ⟨result, after, readings', hrun, hafter, hrun'⟩ := hfirst state readings hstate
  rw [Attempt.run_bind, Attempt.run_bind, hrun, hrun']
  cases result with
  | error error => exact ⟨.error error, after, readings', rfl, hafter, rfl⟩
  | ok a => exact hnext a after readings' hafter

theorem pure (a : α) : Unnoticed (Pure.pure a : Run σ α) (Pure.pure a) :=
  fun state readings hstate => ⟨.ok a, state, readings, rfl, hstate, rfl⟩

theorem fail (error : RunError) : Unnoticed (.fail error : Run σ α) (.fail error) :=
  fun state readings hstate => ⟨.error error, state, readings, rfl, hstate, rfl⟩

theorem ofExcept (result : Except NumberError α) :
    Unnoticed (.ofExcept .number result : Run σ α) (.ofExcept .number result) := by
  intro state readings hstate
  cases result with
  | ok a => exact ⟨.ok a, state, readings, rfl, hstate, rfl⟩
  | error error => exact ⟨.error (.number error), state, readings, rfl, hstate, rfl⟩

theorem note (level : Level) (message : String) :
    Unnoticed (Run.note level message : Run σ Unit) (Run.note level message) :=
  fun _ readings hstate => ⟨_, _, readings, rfl, hstate, rfl⟩

theorem setVariable (name : String) (value : Value) :
    Unnoticed (Run.setVariable name value : Run σ Unit) (Run.setVariable name value) :=
  fun _ readings hstate => ⟨_, _, readings, rfl, hstate, rfl⟩

theorem evaluate (expression : String) :
    Unnoticed (Run.evaluate expression : Run σ Value) (Run.evaluate expression) :=
  fun state readings hstate => ofExcept (Expression.evaluate state.vars expression) state readings
    hstate

theorem say (expression : String) :
    Unnoticed (Run.say expression : Run σ Unit) (Run.say expression) :=
  (evaluate expression).bind fun value => (ofExcept value.display).bind fun _ =>
    fun _ readings hstate => ⟨_, _, readings, rfl, hstate, rfl⟩

theorem assign (name expression : String) :
    Unnoticed (Run.assign name expression : Run σ Unit) (Run.assign name expression) :=
  (evaluate expression).bind fun value => (setVariable name value).bind fun _ =>
    (ofExcept value.inspect).bind fun _ => note _ _

theorem bound (expression : String) :
    Unnoticed (Run.bound expression : Run σ Int) (Run.bound expression) := by
  refine (evaluate expression).bind fun value => ?_
  cases Run.boundOf? value with
  | some n => exact pure n
  | none => exact fail _

theorem announce (name : String) (first last : Int) :
    Unnoticed (Run.announce name first last : Run σ Unit) (Run.announce name first last) :=
  (ofExcept _).bind fun _ => (ofExcept _).bind fun _ => note _ _

theorem storeResult (line : Nat) (result : CommandResult) :
    Unnoticed (Run.storeResult line result : Run σ Unit) (Run.storeResult line result) := by
  unfold Run.storeResult
  split
  · exact (setVariable _ _).bind fun _ => setVariable _ _
  · exact (setVariable _ _).bind fun _ => (setVariable _ _).bind fun _ =>
      (ofExcept _).bind fun _ => note _ _

theorem forM {values : List β} {body body' : β → Run σ Unit}
    (hbody : ∀ value, Unnoticed (body value) (body' value)) :
    Unnoticed (values.forM body) (values.forM body') := by
  induction values with
  | nil => exact pure ()
  | cons value rest ih => exact (hbody value).bind fun _ => ih

end Unnoticed

namespace Undisturbed

variable {surroundings : Surroundings σ} (undisturbed : Undisturbed surroundings)
include undisturbed

/-- A look at the clock finds that there is time. -/
theorem readClock (state : RunState σ) :
    ∃ now, (Run.readClock surroundings).run state =
        (.ok now, { state with readings := state.readings + 1 }) ∧
      now.lt surroundings.deadline = true := by
  obtain ⟨now, hnow, hlt⟩ := undisturbed.inTime state.readings
  exact ⟨now, by simp [Run.readClock, hnow, Except.mapError], hlt⟩

theorem checkpoint : Unnoticed (Run.checkpoint surroundings) (Pure.pure ()) := by
  intro state readings hstate
  obtain ⟨now, hclock, hlt⟩ := undisturbed.readClock state
  have hrun : (Run.checkpoint surroundings).run state =
      (.ok (), { state with readings := state.readings + 1 }) := by
    simp [Run.checkpoint, Attempt.run_bind, hstate, hclock, Binary64.lt_eq_false_of_lt hlt]
  exact ⟨_, _, readings, hrun, hstate, rfl⟩

theorem call (address command : String) :
    Unnoticed (Run.call surroundings address command) (Run.call surroundings address command) := by
  intro state readings hstate
  have hstops := undisturbed.notStopped address command state.host
  refine ⟨_, _, readings, rfl, ?_, rfl⟩
  simp [hstate, hstops]

theorem deliver (line : Nat) (command : String) :
    Unnoticed (Run.deliver surroundings line command)
      (Run.deliver surroundings line command) := by
  refine (undisturbed.call slidesAddress command).bind fun outcome => ?_
  cases outcome with
  | answered result => exact Unnoticed.storeResult line result
  | raised kind message => exact Unnoticed.fail _
  | overdue => exact Unnoticed.fail _

theorem send (line : Nat) (command : String) :
    Unnoticed (Run.sendToSlides surroundings line command)
      (Run.sendAtOnce surroundings line command) := by
  refine (Unnoticed.note _ _).bind fun _ => ?_
  intro state readings hstate
  obtain ⟨now, hclock, hlt⟩ := undisturbed.readClock state
  rw [Attempt.run_bind, hclock]
  simp only [hlt, if_true]
  exact undisturbed.deliver line command { state with readings := state.readings + 1 } readings
    hstate

theorem walk (program : Program) (line : Nat) :
    Unnoticed
      (program.walk (Run.checkpoint surroundings) (Run.sendToSlides surroundings) line)
      (program.walk (Pure.pure ()) (Run.sendAtOnce surroundings) line) := by
  have hpause := undisturbed.checkpoint
  induction program generalizing line with
  | done => exact Unnoticed.pure ()
  | say expression next ih =>
    exact hpause.bind fun _ => (Unnoticed.say _).bind fun _ => ih _
  | assign name expression next ih =>
    exact hpause.bind fun _ => (Unnoticed.assign _ _).bind fun _ => ih _
  | address command next ih =>
    exact hpause.bind fun _ => (undisturbed.send _ _).bind fun _ => ih _
  | ifThen condition body next hbody hnext =>
    refine hpause.bind fun _ => (Unnoticed.evaluate _).bind fun value => ?_
    refine Unnoticed.bind ?_ fun _ => hnext _
    split
    · exact (hbody _).bind fun _ => hpause
    · exact Unnoticed.pure ()
  | doLoop name first last body next hbody hnext =>
    refine hpause.bind fun _ => (Unnoticed.bound _).bind fun _ => ?_
    refine (Unnoticed.bound _).bind fun _ => ?_
    refine (Unnoticed.announce _ _ _).bind fun _ => Unnoticed.bind ?_ fun _ => hnext _
    exact Unnoticed.forM fun value =>
      hpause.bind fun _ => (Unnoticed.setVariable _ _).bind fun _ => hbody _

end Undisturbed

/-! ## Whole scripts -/

/-- A line without a statement only begins. -/
theorem Run.runLines_blank (surroundings : Surroundings σ) (position : Nat) :
    runLines surroundings position [""] = checkpoint surroundings := by
  have hblank : Statement.ofLine (Text.trimmed "") = .unknown "" := by decide
  have hword : leadingWord "" ≠ "ADDRESS" := by decide
  rw [runLines_cons, runLine, hblank]
  simp [perform, passOver, hword, runLines_nil]

theorem Run.runLines_printed (surroundings : Surroundings σ) (layout : Layout)
    (program : Program) :
    runLines surroundings 0 (program.printed layout) = (do
      program.walk (checkpoint surroundings) (sendToSlides surroundings) 0
      if layout.endsBlank program then checkpoint surroundings else pure ()) := by
  rw [Program.printed, runsLikeTree surroundings]
  refine bind_congr fun _ => ?_
  split
  · exact runLines_blank surroundings _
  · exact runLines_nil surroundings _

/-- Executing the text of a program is walking through its tree. -/
theorem execute_text_eq (handler : AddressHandler σ) (clock : Clock) (timeout : Int)
    (layout : Layout) (program : Program) (host : σ) :
    execute handler clock timeout (program.text layout) host =
      program.execute handler clock timeout layout host := by
  unfold execute Program.execute
  cases deadline clock timeout with
  | error error => rfl
  | ok limit =>
    dsimp only [Except.map]
    rw [program.splitLines_text layout, Run.runLines_printed]
    rfl

theorem Report.ofRun_readings (result : Except RunError Unit) (state : RunState σ)
    (readings : Nat) :
    Report.ofRun (result, { state with readings }) = Report.ofRun (result, state) := by
  cases result <;> rfl

/-- Where nothing cuts the run short, the walk need not look at the clock. -/
theorem Undisturbed.report_eq {surroundings : Surroundings σ}
    (undisturbed : Undisturbed surroundings) (layout : Layout) (program : Program) (host : σ) :
    program.report surroundings layout host = program.undisturbedReport surroundings host := by
  have hend : Unnoticed (if layout.endsBlank program then Run.checkpoint surroundings else pure ())
      (pure () : Run σ Unit) := by
    split
    · exact undisturbed.checkpoint
    · exact Unnoticed.pure ()
  -- the look at the blank last line goes unnoticed like all others
  have hwalk := (undisturbed.walk program 0).bind fun _ => hend
  simp only [bind_pure_unit] at hwalk
  obtain ⟨result, after, readings, hrun, -, hrun'⟩ := hwalk { readings := 1, host } 1 rfl
  simp only [Program.report, Program.undisturbedReport]
  rw [hrun, hrun']
  exact (Report.ofRun_readings result after readings).symm

/-- **The text of a program runs like its tree.**  Executing the text of a structured program, in
any layout, reports what the walk through its tree does: the same printed lines, variables,
calls of the handler, log and state of the handler, and the same success, code and error.
Where nothing cuts the run short this is the walk that never looks at the clock. -/
theorem execute_text (handler : AddressHandler σ) (clock : Clock) (timeout : Int)
    (layout : Layout) (program : Program) (host : σ) :
    execute handler clock timeout (program.text layout) host =
        program.execute handler clock timeout layout host ∧
      ∀ limit, deadline clock timeout = .ok limit →
        Undisturbed { handler, clock, timeout, deadline := limit } →
        execute handler clock timeout (program.text layout) host =
          .ok (program.undisturbedReport { handler, clock, timeout, deadline := limit } host) := by
  refine ⟨execute_text_eq handler clock timeout layout program host, ?_⟩
  intro limit hlimit undisturbed
  rw [execute_text_eq, Program.execute, hlimit, ← undisturbed.report_eq layout]
  rfl

/-- A loop from 1 to 2 that prints its variable if that is not zero. -/
def countingProgram : Program :=
  .doLoop ⟨"i", by decide, List.all_eq_true.1 (by decide), by decide⟩
    ⟨⟨"1", by decide, by decide, by decide⟩, by decide⟩ ⟨"2", by decide, by decide, by decide⟩
    (.ifThen ⟨⟨"i", by decide, by decide, by decide⟩, by decide, by decide⟩
      (.say ⟨"i", by decide, by decide, by decide⟩ .done) .done) .done

/-- Keywords in lower case, a space and a tab before each line, and a line feed at the end. -/
def lowerCaseLayout : Layout where
  line _ :=
    { indent := [' ', '\t']
      spell := fun keyword => keyword.letters.map Char.toLower
      indent_isBlank := List.all_eq_true.1 (by decide)
      indent_oneLine := by decide
      spell_capitals := by intro keyword; cases keyword <;> decide }
  finalBreak := true

example : countingProgram.text lowerCaseLayout =
    " \tdo i = 1 to 2\n \tif i then\n \tsay i\n \tend\n \tend\n" := by
  decide +kernel

/-- A run of one second on a clock that stands still, without a handler for the slides. -/
def stillSurroundings : Surroundings Unit where
  handler := routed none
  clock _ := .ok .zero
  timeout := 1000
  deadline := .finite false (Nat.pow 2 52) (-52)

theorem execute_text_counting :
    deadline stillSurroundings.clock 1000 = .ok stillSurroundings.deadline ∧
      Undisturbed stillSurroundings ∧
      execute stillSurroundings.handler stillSurroundings.clock 1000
          (countingProgram.text lowerCaseLayout) () =
        .ok (countingProgram.undisturbedReport stillSurroundings ()) ∧
      (countingProgram.undisturbedReport stillSurroundings ()).said = #["1", "2"] := by
  have hlimit : deadline stillSurroundings.clock 1000 = .ok stillSurroundings.deadline := by
    decide +kernel
  have undisturbed : Undisturbed stillSurroundings :=
    ⟨fun _ => ⟨.zero, rfl, by decide +kernel⟩, fun _ _ _ => rfl⟩
  exact ⟨hlimit, undisturbed,
    (execute_text _ _ _ lowerCaseLayout countingProgram ()).2 _ hlimit undisturbed,
    by decide +kernel⟩

end DeckScript.Script
