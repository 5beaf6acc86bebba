import DeckScript.Proofs.Binary64.Rounding
import DeckScript.Proofs.Script.Effects
import DeckScript.Proofs.Script.Execution

/-!
# The budget of a run

A budget decides where a run is cut off and nothing else.  Two runs of a script with
the same clock and handler go together until the time of the shorter one is over
(`execute_budget_truncates`), and from there on the shorter one does nothing.

That a larger budget ends later takes an argument of its own: the deadline is found by
rounding three times, and rounding keeps order.

## Strategy

`Truncates` relates the ends of two runs from one state: they are the same, or the
first is the timeout and what it did is the beginning of what the second did.  It is
carried through a chain of steps by `Truncates.bind`, where the second run may go on
alone once the first is over, since no step takes anything back.
-/

namespace DeckScript.Script

variable {σ α β : Type}

open Binary64 (NotAfter)

/-! ## Deadlines -/

/-- A number of milliseconds has a finite number of seconds, which grows with it. -/
theorem seconds_spec {milliseconds : Int} {budget : Binary64}
    (hbudget : seconds milliseconds = .ok budget) :
    (Binary64.ofRat milliseconds).IsFinite ∧ budget.IsFinite ∧
      budget.place =
        Binary64.bounded (Binary64.nearest ((Binary64.ofRat milliseconds).value * (1 / 1000))) := by
  have hformat := Binary64.inFormat_ofRat milliseconds
  rw [seconds, Binary64.ofInt?] at hbudget
  cases hcount : Binary64.ofRat milliseconds with
  | nan => rw [hcount] at hbudget; cases hbudget
  | infinite negative => rw [hcount] at hbudget; cases hbudget
  | finite negative m e =>
    rw [hcount] at hformat hbudget
    cases hbudget
    have hnonneg : (0 : Rat) ≤ m * (2 : Rat) ^ e :=
      mul_nonneg (Nat.cast_nonneg m) (Binary64.two_zpow_pos e).le
    -- a thousandth of a number in range cannot be rounded out of range
    have hlt : (m : Rat) * (2 : Rat) ^ e * (1 / 1000) < (2 : Rat) ^ (1023 : Int) :=
      calc (m : Rat) * (2 : Rat) ^ e * (1 / 1000)
          ≤ (m : Rat) * (2 : Rat) ^ e * (2 : Rat) ^ (-1 : Int) :=
            mul_le_mul_of_nonneg_left (by norm_num) hnonneg
        _ < (2 : Rat) ^ (1024 : Int) * (2 : Rat) ^ (-1 : Int) :=
            mul_lt_mul_of_pos_right hformat.magnitude_lt (Binary64.two_zpow_pos _)
        _ = (2 : Rat) ^ (1023 : Int) := by
            rw [← Binary64.two_zpow_add]
            congr 1
    refine ⟨trivial, Binary64.isFinite_ofMagnitude negative hlt, ?_⟩
    rw [Binary64.scale,
      Binary64.place_ofMagnitude_signed negative (mul_nonneg hnonneg (by norm_num))]
    cases negative <;> simp [Binary64.value]

theorem seconds_mono {first second : Int} {budget budget' : Binary64} (hle : first ≤ second)
    (hbudget : seconds first = .ok budget) (hbudget' : seconds second = .ok budget') :
    budget.value ≤ budget'.value := by
  obtain ⟨hcount, hfinite, hplace⟩ := seconds_spec hbudget
  obtain ⟨hcount', hfinite', hplace'⟩ := seconds_spec hbudget'
  have hcounts : (Binary64.ofRat first).value ≤ (Binary64.ofRat second).value := by
    refine Binary64.value_le_of_place_le hcount hcount' ?_
    rw [Binary64.place_ofRat, Binary64.place_ofRat]
    exact Binary64.bounded_mono (Binary64.nearest_mono (by exact_mod_cast hle))
  refine Binary64.value_le_of_place_le hfinite hfinite' ?_
  rw [hplace, hplace']
  exact Binary64.bounded_mono (Binary64.nearest_mono (by linarith))

theorem deadline_eq_ok {clock : Clock} {timeout : Int} {limit : Binary64}
    (hlimit : deadline clock timeout = .ok limit) :
    ∃ start budget, clock 0 = .ok start ∧ seconds timeout = .ok budget ∧
      start.add budget = limit := by
  rw [deadline] at hlimit
  cases hstart : clock 0 with
  | error error => rw [hstart] at hlimit; cases hlimit
  | ok start =>
    cases hbudget : seconds timeout with
    | error error => rw [hstart, hbudget] at hlimit; cases hlimit
    | ok budget =>
      rw [hstart, hbudget] at hlimit
      exact ⟨start, budget, rfl, rfl, Except.ok.inj hlimit⟩

/-- A larger budget does not end earlier. -/
theorem deadline_notAfter {clock : Clock} {budget budget' : Int} {limit limit' : Binary64}
    (hle : budget ≤ budget') (hlimit : deadline clock budget = .ok limit)
    (hlimit' : deadline clock budget' = .ok limit') : NotAfter limit limit' := by
  obtain ⟨start, count, hstart, hcount, rfl⟩ := deadline_eq_ok hlimit
  obtain ⟨start', count', hstart', hcount', rfl⟩ := deadline_eq_ok hlimit'
  obtain rfl : start = start' := Except.ok.inj (hstart.symm.trans hstart')
  exact Binary64.notAfter_add start (seconds_spec hcount).2.1 (seconds_spec hcount').2.1
    (seconds_mono hle hcount hcount')

/-! ## Less time -/

/-- The first surroundings leave less time than the second.  A command that is answered in the
second may be given up in the first. -/
structure Tighter (short long : Surroundings σ) : Prop where
  clock_eq : short.clock = long.clock
  notAfter : NotAfter short.deadline long.deadline
  handler : ∀ address command host,
    short.handler address command host = long.handler address command host ∨
      (short.handler address command host).1.outcome = .overdue

/-- The ends are the same, or the first comes from the timeout, and the second run did all that
the first one did. -/
def Truncates (timeout : Int) (first second : Except RunError α × RunState σ) : Prop :=
  first = second ∨ first.1 = .error (.timeout timeout) ∧ Extends first.2 second.2

theorem Truncates.extends {timeout : Int} {first second : Except RunError α × RunState σ}
    (h : Truncates timeout first second) : Extends first.2 second.2 := by
  rcases h with rfl | ⟨-, hextends⟩
  · exact .refl _
  · exact hextends

theorem Truncates.bind {timeout : Int} {run run' : Run σ α} {next next' : α → Run σ β}
    {state : RunState σ} (hrun : Truncates timeout (run.run state) (run'.run state))
    (hnext : ∀ a after, Truncates timeout ((next a).run after) ((next' a).run after))
    (hextends : ∀ a after, Extends after ((next' a).run after).2) :
    Truncates timeout ((run >>= next).run state) ((run' >>= next').run state) := by
  rw [Attempt.run_bind, Attempt.run_bind]
  rcases hrun with hsame | ⟨hcut, hfurther⟩
  · rw [hsame]
    rcases run'.run state with ⟨error | a, after⟩
    · exact .inl rfl
    · exact hnext a after
  · rcases hresult : run.run state with ⟨error | a, after⟩ <;> rw [hresult] at hcut hfurther
    · -- the second run goes on alone
      refine .inr ⟨?_, ?_⟩
      · cases hcut
        rfl
      · rcases hresult' : run'.run state with ⟨error' | a', after'⟩ <;> rw [hresult'] at hfurther
        · exact hfurther
        · exact hfurther.trans (hextends a' after')
    · cases hcut

/-- What is left to do does not matter for the end of a whole run. -/
theorem Truncates.of_map {timeout : Int} {first second : Except RunError Unit × RunState σ}
    (h : Truncates timeout (first.1.map fun _ => ([] : List Frame), first.2)
      (second.1.map fun _ => ([] : List Frame), second.2)) : Truncates timeout first second := by
  obtain ⟨result, after⟩ := first
  obtain ⟨result', after'⟩ := second
  rcases h with hsame | ⟨hcut, hextends⟩
  · refine .inl ?_
    cases result <;> cases result' <;> simp_all [Except.map]
  · refine .inr ⟨?_, hextends⟩
    cases result <;> simp_all [Except.map]

namespace Run

variable {short long surroundings : Surroundings σ} {lines : List String}

theorem checkpoint_truncates (htighter : Tighter short long) (state : RunState σ) :
    Truncates short.timeout ((checkpoint short).run state) ((checkpoint long).run state) := by
  rw [run_checkpoint, run_checkpoint, htighter.clock_eq]
  split
  · exact .inl rfl
  · cases long.clock state.readings with
    | error error => exact .inl rfl
    | ok now =>
      dsimp only
      by_cases hlate : short.deadline.lt now = true
      · rw [if_pos hlate]
        refine .inr ⟨rfl, ?_⟩
        split <;> exact .refl _
      · have hlate' : ¬ long.deadline.lt now = true := fun h => hlate (htighter.notAfter.past now h)
        rw [if_neg hlate, if_neg hlate']
        exact .inl rfl

theorem sendCommand_truncates (htighter : Tighter short long) (line : Nat)
    (target command : String) (state : RunState σ) :
    Truncates short.timeout ((sendCommand short line target command).run state)
      ((sendCommand long line target command).run state) := by
  have hshort : (sendCommand short line target command).run state = _ :=
    run_sendCommand line target command state
  rw [htighter.clock_eq] at hshort
  cases hclock : long.clock state.readings with
  | error error =>
    rw [hshort, run_sendCommand, hclock]
    exact .inl rfl
  | ok now =>
    rw [hclock] at hshort
    dsimp only at hshort
    by_cases hearly : now.lt short.deadline = true
    · have hearly' := htighter.notAfter.before now hearly
      have hcalled := Extends.of_untouched
        (untouched_called_sendCommand hclock hearly' line target command)
      rw [if_pos hearly] at hshort
      by_cases hoverdue : (short.handler target command state.host).1.outcome = .overdue
      · rw [hoverdue] at hshort
        rw [hshort]
        exact .inr ⟨rfl, hcalled.said_grows, hcalled.calls_grow⟩
      · have hsame := (htighter.handler target command state.host).resolve_right hoverdue
        have hstate : called short state target command = called long state target command := by
          rw [called, called, hsame]
        refine .inl ?_
        rw [hshort, hstate, run_sendCommand, hclock]
        dsimp only
        rw [if_pos hearly', ← hsame]
        cases houtcome : (short.handler target command state.host).1.outcome with
        | overdue => exact absurd houtcome hoverdue
        | answered result => rfl
        | raised kind message => rfl
    · -- the command is not sent in the shorter run
      have hextends : Extends state ((sendCommand long line target command).run state).2 :=
        extends_sendCommand line target command state
      rw [hshort, if_neg hearly]
      exact .inr ⟨rfl, hextends.said_grows, hextends.calls_grow⟩

theorem advance_truncates (htighter : Tighter short long) (frame : Frame) (state : RunState σ) :
    Truncates short.timeout ((advance short lines frame).run state)
      ((advance long lines frame).run state) := by
  rcases hdirective : frame.directive? lines with _ | ⟨target, command⟩
  · rw [advance_congr hdirective long]
    exact .inl rfl
  · cases frame with
    | loop => cases hdirective
    | block start position stop =>
      rw [advance_of_directive hdirective, advance_of_directive hdirective]
      exact (sendCommand_truncates htighter position target command state).bind
        (fun _ _ => .inl rfl) fun _ after => .refl after

theorem step_truncates (htighter : Tighter short long) (frames : List Frame)
    (state : RunState σ) :
    Truncates short.timeout ((step short lines frames).run state)
      ((step long lines frames).run state) := by
  cases frames with
  | nil => exact .inl rfl
  | cons frame rest =>
    refine (checkpoint_truncates htighter state).bind (fun _ after => ?_)
      (fun _ after => Extends.bind (extends_advance frame) (fun _ state => .refl state) after)
    exact (advance_truncates htighter frame after).bind (fun _ _ => .inl rfl)
      fun _ after => .refl after

/-- Steps with less time do the same or the beginning of it. -/
theorem steps_truncates (htighter : Tighter short long) (lines : List String) (count : Nat)
    (frames : List Frame) (state : RunState σ) :
    Truncates short.timeout ((steps short lines count frames).run state)
      ((steps long lines count frames).run state) := by
  induction count generalizing frames state with
  | zero => exact .inl rfl
  | succ count ih => exact (step_truncates htighter frames state).bind ih (extends_steps count)

theorem ending_truncates (htighter : Tighter short long) (script : String) (host : σ) :
    Truncates short.timeout (ending short script host) (ending long script host) := by
  obtain ⟨first, hfirst⟩ := exists_steps_eq_ending short script host
  obtain ⟨second, hsecond⟩ := exists_steps_eq_ending long script host
  -- as many steps as are enough for both
  have hsteps := steps_truncates htighter (splitLines script) (first + second)
    (opening (splitLines script)) { readings := 1, host }
  rw [steps_add_of_ended hfirst, Nat.add_comm, steps_add_of_ended hsecond] at hsteps
  exact hsteps.of_map

end Run

/-! ## When the time is over -/

/-- Nothing that a script does was done. -/
structure Idle (before after : RunState σ) : Prop where
  vars_eq : after.vars = before.vars
  said_eq : after.said = before.said
  calls_eq : after.calls = before.calls
  host_eq : after.host = before.host

/-- The time is over for the line or round that comes next: it has passed at the look in front of
it, or nothing is left of it at the look in front of the command. -/
def TimeIsOver (surroundings : Surroundings σ) (lines : List String) (frame : Frame)
    (state : RunState σ) : Prop :=
  ∃ now, surroundings.clock state.readings = .ok now ∧
    (surroundings.deadline.lt now = true ∨
      (∃ directive, frame.directive? lines = some directive) ∧
        ∃ next, surroundings.clock (state.readings + 1) = .ok next ∧
          next.lt surroundings.deadline = false)

namespace Run

variable {surroundings : Surroundings σ} {lines : List String}

theorem readings_checkpoint {state : RunState σ} (hstopped : state.stopped = false) :
    ((checkpoint surroundings).run state).2.readings = state.readings + 1 := by
  rw [run_checkpoint, hstopped]
  simp only [Bool.false_eq_true, if_false]
  split
  · rfl
  · split <;> rfl

theorem readings_sendCommand (line : Nat) (target command : String) (state : RunState σ) :
    ((sendCommand surroundings line target command).run state).2.readings =
      state.readings + 1 := by
  cases hclock : surroundings.clock state.readings with
  | error error =>
    rw [run_sendCommand, hclock]
    rfl
  | ok now =>
    by_cases hearly : now.lt surroundings.deadline = true
    · exact (untouched_called_sendCommand hclock hearly line target command).readings_eq
    · rw [run_sendCommand, hclock]
      simp only [if_neg hearly]
      rfl

/-- The number of readings that a step makes beyond the look at its beginning. -/
theorem readings_advance (frame : Frame) (state : RunState σ) :
    ((advance surroundings lines frame).run state).2.readings =
      state.readings + if (frame.directive? lines).isSome then 1 else 0 := by
  rcases hdirective : frame.directive? lines with _ | ⟨target, command⟩
  · exact (inward_advance hdirective state).readings_eq
  · cases frame with
    | loop => cases hdirective
    | block start position stop =>
      have hreadings : ((sendCommand surroundings position target command).run state).2.readings =
          state.readings + 1 := readings_sendCommand position target command state
      rw [advance_of_directive hdirective, Attempt.run_bind]
      rcases hresult : (sendCommand surroundings position target command).run state with
        ⟨error | ⟨⟩, after⟩ <;> rw [hresult] at hreadings <;> exact hreadings

/-- A step for which the time is over does nothing and ends the run. -/
theorem step_of_timeIsOver {frame : Frame} {state : RunState σ} (hstopped : state.stopped = false)
    (hover : TimeIsOver surroundings lines frame state) (rest : List Frame) :
    ∃ after, (step surroundings lines (frame :: rest)).run state =
        (.error (.timeout surroundings.timeout), after) ∧ Idle state after := by
  obtain ⟨now, hclock, hcase⟩ := hover
  by_cases hlate : surroundings.deadline.lt now = true
  · have hlook : (checkpoint surroundings).run state =
        (.error (.timeout surroundings.timeout),
          { state with readings := state.readings + 1 }) := by
      rw [run_checkpoint, hstopped, hclock]
      simp [hlate]
    exact ⟨_, run_step_of_error hlook frame rest, rfl, rfl, rfl, rfl⟩
  · obtain ⟨⟨⟨target, command⟩, hdirective⟩, next, hnext, hnone⟩ := hcase.resolve_left hlate
    have hlook : (checkpoint surroundings).run state =
        (.ok (), { state with readings := state.readings + 1 }) :=
      run_checkpoint_eq_ok.2 ⟨hstopped, ⟨now, hclock, by simpa using hlate⟩, rfl⟩
    cases frame with
    | loop => cases hdirective
    | block start position stop =>
      have hsent : (sendCommand surroundings position target command).run
          { state with readings := state.readings + 1 } =
          (.error (.timeout surroundings.timeout),
            noted { state with readings := state.readings + 1 } target command) := by
        rw [run_sendCommand]
        simp [hnext, hnone]
      refine ⟨noted { state with readings := state.readings + 1 } target command, ?_,
        rfl, rfl, rfl, rfl⟩
      rw [run_step_of_directive hlook hdirective, hsent]
      rfl

/-- A step that reads a time past the deadline is one for which the time is over. -/
theorem timeIsOver_of_reading {frame : Frame} {rest : List Frame} {state : RunState σ}
    {reading : Nat} {now : Binary64} (hfrom : state.readings ≤ reading)
    (hto : reading < ((step surroundings lines (frame :: rest)).run state).2.readings)
    (hclock : surroundings.clock reading = .ok now)
    (hlate : surroundings.deadline.lt now = true) :
    state.stopped = false ∧ TimeIsOver surroundings lines frame state ∧
      reading + 1 = ((step surroundings lines (frame :: rest)).run state).2.readings := by
  rcases hlook : (checkpoint surroundings).run state with ⟨error | ⟨⟩, looked⟩
  · rw [run_step_of_error hlook] at hto ⊢
    cases hstopped : state.stopped with
    | true =>
      -- a run that is asked to stop does not look at the clock
      rw [run_checkpoint, hstopped] at hlook
      cases hlook
      dsimp only at hto
      omega
    | false =>
      have hreadings : looked.readings = state.readings + 1 := by
        have hread : ((checkpoint surroundings).run state).2.readings = state.readings + 1 :=
          readings_checkpoint hstopped
        rwa [hlook] at hread
      obtain rfl : reading = state.readings := by
        dsimp only at hto
        omega
      exact ⟨rfl, ⟨now, hclock, .inl hlate⟩, hreadings.symm⟩
  · obtain ⟨hstopped, ⟨first, hfirst, hearly⟩, rfl⟩ := run_checkpoint_eq_ok.1 hlook
    rw [run_step_of_ok hlook] at hto ⊢
    dsimp only at hto ⊢
    rw [readings_advance] at hto ⊢
    -- the look was in time, so it is the reading in front of the command
    have hnot : reading ≠ state.readings := by
      rintro rfl
      rw [hfirst] at hclock
      cases hclock
      rw [hlate] at hearly
      cases hearly
    cases hdirective : frame.directive? lines with
    | none =>
      simp only [hdirective, Option.isSome_none, Bool.false_eq_true, if_false] at hto
      omega
    | some directive =>
      simp only [hdirective, Option.isSome_some, if_true] at hto ⊢
      obtain rfl : reading = state.readings + 1 := by omega
      exact ⟨hstopped, ⟨first, hfirst, .inr ⟨⟨directive, hdirective⟩, now, hclock,
        Binary64.lt_eq_false_of_lt hlate⟩⟩, rfl⟩

/-- A run ends at the moment when its time is over. -/
theorem ending_of_timeIsOver {script : String} {host : σ} {count : Nat} {frame : Frame}
    {rest : List Frame} {state : RunState σ}
    (hsteps : (steps surroundings (splitLines script) count (opening (splitLines script))).run
      { readings := 1, host } = (.ok (frame :: rest), state))
    (hstopped : state.stopped = false)
    (hover : TimeIsOver surroundings (splitLines script) frame state) :
    (ending surroundings script host).1 = .error (.timeout surroundings.timeout) ∧
      Idle state (ending surroundings script host).2 := by
  obtain ⟨after, hended, hidle⟩ := step_of_timeIsOver hstopped hover rest
  rw [ending_of_step_error hsteps hended]
  exact ⟨rfl, hidle⟩

/-- A reading past the deadline is made at a moment when the time is over, and it is the last. -/
theorem exists_timeIsOver_of_reading {script : String} {host : σ} {reading : Nat} {now : Binary64}
    (hclock : surroundings.clock reading = .ok now) (hlate : surroundings.deadline.lt now = true)
    (hfrom : 1 ≤ reading) (hto : reading < (ending surroundings script host).2.readings) :
    reading + 1 = (ending surroundings script host).2.readings ∧
      ∃ count frame rest state,
        (steps surroundings (splitLines script) count (opening (splitLines script))).run
          { readings := 1, host } = (.ok (frame :: rest), state) ∧
        state.readings ≤ reading ∧ state.stopped = false ∧
        TimeIsOver surroundings (splitLines script) frame state := by
  obtain ⟨count, frame, rest, state, hsteps, hbefore, hpast⟩ :=
    exists_step_past_of_ending RunState.readings hfrom hto
  obtain ⟨hstopped, hover, hlast⟩ := timeIsOver_of_reading hbefore hpast hclock hlate
  obtain ⟨after, hended, -⟩ := step_of_timeIsOver hstopped hover rest
  rw [hended] at hlast
  rw [ending_of_step_error hsteps hended]
  exact ⟨hlast, count, frame, rest, state, hsteps, hbefore, hstopped, hover⟩

end Run

/-! ## Whole runs -/

/-- **The budget only cuts a run off.**  Take a script, a clock and two budgets, and a handler, for
which the smaller budget may be too short to wait for an answer.  The lines printed and the commands
sent under the smaller budget are the first ones of those under the larger, and unless its time was
over the two reports are the same.  A run goes on up to the first reading past the deadline, or not
before it in front of a command: that reading is the last, nothing is done from there on, and the
run fails with the timeout. -/
theorem execute_budget_truncates (handler handler' : AddressHandler σ) {clock : Clock}
    {budget budget' : Int} {limit limit' : Binary64} (hle : budget ≤ budget')
    (hlimit : deadline clock budget = .ok limit) (hlimit' : deadline clock budget' = .ok limit')
    (hhandler : ∀ address command host,
      handler address command host = handler' address command host ∨
        (handler address command host).1.outcome = .overdue)
    (script : String) (host : σ) :
    let short : Surroundings σ := { handler, clock, timeout := budget, deadline := limit }
    let long : Surroundings σ :=
      { handler := handler', clock, timeout := budget', deadline := limit' }
    let lines := splitLines script
    let final := Run.ending short script host
    execute handler clock budget script host = .ok (.ofRun final) ∧
    execute handler' clock budget' script host = .ok (.ofRun (Run.ending long script host)) ∧
    final.2.said.toList <+: (Run.ending long script host).2.said.toList ∧
    final.2.calls.toList <+: (Run.ending long script host).2.calls.toList ∧
    (final.1 ≠ .error (.timeout budget) →
      execute handler clock budget script host = execute handler' clock budget' script host) ∧
    (∀ reading now, 1 ≤ reading → reading < final.2.readings →
      clock reading = .ok now → limit.lt now = true →
      reading + 1 = final.2.readings ∧
        ∃ count frame rest state,
          (Run.steps short lines count (Run.opening lines)).run { readings := 1, host } =
            (.ok (frame :: rest), state) ∧
          state.readings ≤ reading ∧ state.stopped = false ∧ TimeIsOver short lines frame state) ∧
    ∀ count frame rest state,
      (Run.steps short lines count (Run.opening lines)).run { readings := 1, host } =
        (.ok (frame :: rest), state) →
      state.stopped = false → TimeIsOver short lines frame state →
      final.1 = .error (.timeout budget) ∧ Idle state final.2 := by
  intro short long lines final
  have htighter : Tighter short long := ⟨rfl, deadline_notAfter hle hlimit hlimit', hhandler⟩
  have htruncates : Truncates budget final (Run.ending long script host) :=
    Run.ending_truncates htighter script host
  have hreport : execute handler clock budget script host = .ok (.ofRun final) :=
    execute_eq_ofRun hlimit handler script host
  have hreport' : execute handler' clock budget' script host =
      .ok (.ofRun (Run.ending long script host)) :=
    execute_eq_ofRun hlimit' handler' script host
  refine ⟨hreport, hreport', htruncates.extends.said_grows, htruncates.extends.calls_grow,
    ?_, ?_, ?_⟩
  · intro hresult
    rcases htruncates with hsame | ⟨hcut, -⟩
    · rw [hreport, hreport', hsame]
    · exact absurd hcut hresult
  · intro reading now hfrom hto hclock hlate
    exact Run.exists_timeIsOver_of_reading hclock hlate hfrom hto
  · intro count frame rest state hsteps hstopped hover
    exact Run.ending_of_timeIsOver hsteps hstopped hover

/-- A script of three lines. -/
def threeLines : String := "SAY 1\nSAY 2\nSAY 3"

/-- One second and two, on a clock that advances by 0.4 seconds at each reading. -/
theorem execute_budget_truncates_threeLines :
    ∃ limit limit', deadline (Clock.ticking 400) 1000 = .ok limit ∧
      deadline (Clock.ticking 400) 2000 = .ok limit' ∧
      let short : Surroundings Unit :=
        { handler := routed none, clock := .ticking 400, timeout := 1000, deadline := limit }
      let long : Surroundings Unit :=
        { handler := routed none, clock := .ticking 400, timeout := 2000, deadline := limit' }
      (Run.ending short threeLines ()).2.said = #["1", "2"] ∧
      (Run.ending long threeLines ()).2.said = #["1", "2", "3"] ∧
      (Run.ending short threeLines ()).2.said.toList <+:
        (Run.ending long threeLines ()).2.said.toList := by
  have hlimit : deadline (.ticking 400) 1000 = .ok (.finite false (Nat.pow 2 52) (-52)) := by
    decide +kernel
  have hlimit' : deadline (.ticking 400) 2000 = .ok (.finite false (Nat.pow 2 52) (-51)) := by
    decide +kernel
  have htruncates := execute_budget_truncates (routed none) (routed none) (by decide)
    hlimit hlimit' (fun _ _ _ => .inl rfl) threeLines ()
  exact ⟨_, _, hlimit, hlimit', by decide +kernel, by decide +kernel, htruncates.2.2.1⟩

/-- A number of milliseconds beyond the range of the clock. -/
def boundlessBudget : Int := 10 ^ 400

theorem seconds_boundlessBudget : seconds boundlessBudget = .error .outOfRange := by
  decide +kernel

/-- A larger budget may be out of range, and then the script is not run at all. -/
theorem not_forall_execute_budget_truncates :
    ¬ ∀ (budget budget' : Int) (script : String) (report : Report Unit), budget ≤ budget' →
      execute (routed none) stillSurroundings.clock budget script () = .ok report →
      report.execution.error ≠ some (RunError.timeout budget).message →
      execute (routed none) stillSurroundings.clock budget' script () = .ok report := by
  intro hall
  have hlimit : deadline stillSurroundings.clock 1000 = .ok stillSurroundings.deadline := by
    decide +kernel
  have hnone : (Report.ofRun (Run.ending stillSurroundings threeLines ())).execution.error =
      none := by
    decide +kernel
  have hsame := hall 1000 boundlessBudget threeLines
    (.ofRun (Run.ending stillSurroundings threeLines ())) (by decide +kernel)
    (execute_eq_ofRun hlimit (routed none) threeLines ()) (by rw [hnone]; simp)
  rw [execute, deadline, seconds_boundlessBudget] at hsame
  cases hsame

end DeckScript.Script
