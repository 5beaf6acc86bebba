import DeckScript.Proofs.Script.Effects
import DeckScript.Proofs.Script.Execution

/-!
# Stopping a run

While a command is carried out, someone may ask the script to stop.  The command is
answered all the same and its result is stored, but then nothing more happens: the
look before the next line or round ends the run, wherever in the nesting of blocks and
loops it is.  If there is no next line or round, the run ends as if nobody had asked.  It
does so as well if the result cannot be shown in the log, which is a failure of its own.

## Strategy

The replies of the handler are told from the commands sent: `replies` gives them
again.  A reply therefore determines the moment of the run at which it came
(`exists_moment_of_reply`).  The step made there is computed in `run_step_of_answered`,
and the run without the request to stop makes the same one (`run_step_unstopped`).
-/

namespace DeckScript.Script

variable {σ : Type}

/-! ## The replies in a run -/

/-- The replies that a handler gives to commands, one after the other. -/
def replies (handler : AddressHandler σ) : List (String × String) → σ → List Reply
  | [], _ => []
  | (address, command) :: rest, host =>
    (handler address command host).1 :: replies handler rest (handler address command host).2

/-- The state of a handler after commands. -/
def hostAfter (handler : AddressHandler σ) (calls : List (String × String)) (host : σ) : σ :=
  calls.foldl (fun host call => (handler call.1 call.2 host).2) host

/-- The handler that gives the same answers and never comes with a request to stop. -/
def unstopped (handler : AddressHandler σ) : AddressHandler σ :=
  fun address command host =>
    ({ (handler address command host).1 with stops := false },
      (handler address command host).2)

theorem replies_append (handler : AddressHandler σ) (calls more : List (String × String))
    (host : σ) :
    replies handler (calls ++ more) host =
      replies handler calls host ++ replies handler more (hostAfter handler calls host) := by
  induction calls generalizing host with
  | nil => rfl
  | cons call calls ih => simp [replies, hostAfter, ih]

theorem length_replies (handler : AddressHandler σ) (calls : List (String × String)) (host : σ) :
    (replies handler calls host).length = calls.length := by
  induction calls generalizing host with
  | nil => rfl
  | cons call calls ih => simp [replies, ih]

/-! ## Moments at which a command is sent -/

/-- The calls, the handler and the request to stop are the same. -/
structure Keeps (state after : RunState σ) : Prop where
  calls_eq : after.calls = state.calls
  host_eq : after.host = state.host
  stopped_eq : after.stopped = state.stopped

theorem Keeps.refl (state : RunState σ) : Keeps state state :=
  ⟨rfl, rfl, rfl⟩

/-- The step sends a command: the run goes on at the look in front of the line, and there is time
left at the one in front of the command. -/
structure Sends (surroundings : Surroundings σ) (lines : List String) (frame : Frame)
    (state : RunState σ) (target command : String) : Prop where
  directive : frame.directive? lines = some (target, command)
  notStopped : state.stopped = false
  goesOn : ∃ now, surroundings.clock state.readings = .ok now ∧
    surroundings.deadline.lt now = false
  inTime : ∃ now, surroundings.clock (state.readings + 1) = .ok now ∧
    now.lt surroundings.deadline = true

namespace Run

variable {surroundings : Surroundings σ} {lines : List String}

theorem keeps_checkpoint (state : RunState σ) :
    Keeps state ((checkpoint surroundings).run state).2 := by
  rw [run_checkpoint]
  split
  · exact .refl state
  · split
    · exact ⟨rfl, rfl, rfl⟩
    · split <;> exact ⟨rfl, rfl, rfl⟩

end Run

namespace Sends

variable {surroundings : Surroundings σ} {lines : List String} {state : RunState σ}
  {target command : String}

theorem run_checkpoint {frame : Frame}
    (hsends : Sends surroundings lines frame state target command) :
    (Run.checkpoint surroundings).run state =
      (.ok (), { state with readings := state.readings + 1 }) :=
  Run.run_checkpoint_eq_ok.2 ⟨hsends.notStopped, hsends.goesOn, rfl⟩

/-- A step that sends a command calls the handler once, whatever comes of it. -/
theorem untouched_called {frame : Frame}
    (hsends : Sends surroundings lines frame state target command) (rest : List Frame) :
    Untouched
      (Run.called surroundings { state with readings := state.readings + 1 } target command)
      ((Run.step surroundings lines (frame :: rest)).run state).2 := by
  obtain ⟨now, hclock, hearly⟩ := hsends.inTime
  have hdirective := hsends.directive
  cases frame with
  | loop => cases hdirective
  | block start position stop =>
    rw [Run.run_step_of_directive hsends.run_checkpoint hdirective]
    exact Run.untouched_called_sendCommand hclock hearly position target command

end Sends

namespace Run

variable {surroundings : Surroundings σ} {lines : List String}

/-- A step sends a command or leaves everything about the handler alone. -/
theorem sends_or_keeps (surroundings : Surroundings σ) (lines : List String) (frame : Frame)
    (rest : List Frame) (state : RunState σ) :
    (∃ target command, Sends surroundings lines frame state target command) ∨
      Keeps state ((step surroundings lines (frame :: rest)).run state).2 := by
  have hkept : Keeps state ((checkpoint surroundings).run state).2 := keeps_checkpoint state
  rcases hlook : (checkpoint surroundings).run state with ⟨error | ⟨⟩, looked⟩
  · rw [hlook] at hkept
    rw [run_step_of_error hlook]
    exact .inr hkept
  · obtain ⟨hstopped, hgoesOn, rfl⟩ := run_checkpoint_eq_ok.1 hlook
    rcases hdirective : frame.directive? lines with _ | ⟨target, command⟩
    · have huntouched : Untouched { state with readings := state.readings + 1 }
          ((advance surroundings lines frame).run
            { state with readings := state.readings + 1 }).2 :=
        inward_advance hdirective _
      rw [run_step_of_ok hlook]
      exact .inr ⟨huntouched.calls_eq, huntouched.host_eq, huntouched.stopped_eq⟩
    · cases frame with
      | loop => cases hdirective
      | block start position stop =>
        rw [run_step_of_directive hlook hdirective, run_sendCommand]
        dsimp only
        cases hclock : surroundings.clock (state.readings + 1) with
        | error error => exact .inr ⟨rfl, rfl, rfl⟩
        | ok now =>
          dsimp only
          cases hearly : now.lt surroundings.deadline with
          | true =>
            exact .inl ⟨target, command, hdirective, hstopped, hgoesOn, now, hclock, hearly⟩
          | false => exact .inr ⟨rfl, rfl, rfl⟩

/-- The state of the handler in a run is the one that its commands have led to. -/
theorem host_eq_step {host : σ} (frames : List Frame) {state : RunState σ}
    (hhost : state.host = hostAfter surroundings.handler state.calls.toList host) :
    ((step surroundings lines frames).run state).2.host =
      hostAfter surroundings.handler
        ((step surroundings lines frames).run state).2.calls.toList host := by
  cases frames with
  | nil => exact hhost
  | cons frame rest =>
    rcases sends_or_keeps surroundings lines frame rest state with
      ⟨target, command, hsends⟩ | hkeeps
    · have hcalled := hsends.untouched_called rest
      rw [hcalled.host_eq, hcalled.calls_eq]
      simp only [called, noted, Array.toList_push, hostAfter, List.foldl_append]
      rw [hhost]
      rfl
    · rw [hkeeps.host_eq, hkeeps.calls_eq, hhost]

theorem host_eq_steps {host : σ} (count : Nat) (frames : List Frame) {state : RunState σ}
    (hhost : state.host = hostAfter surroundings.handler state.calls.toList host) :
    ((steps surroundings lines count frames).run state).2.host =
      hostAfter surroundings.handler
        ((steps surroundings lines count frames).run state).2.calls.toList host := by
  induction count generalizing frames state with
  | zero => exact hhost
  | succ count ih =>
    have hstep : ((step surroundings lines frames).run state).2.host = _ :=
      host_eq_step frames hhost
    rw [steps, Attempt.run_bind]
    rcases hresult : (step surroundings lines frames).run state with ⟨error | frames, after⟩ <;>
      rw [hresult] at hstep
    · exact hstep
    · exact ih frames hstep

end Run

/-! ## The run without the request -/

/-- The same surroundings in which nobody asks to stop. -/
def Surroundings.unstopped (surroundings : Surroundings σ) : Surroundings σ :=
  { surroundings with handler := Script.unstopped surroundings.handler }

/-- The state without the request to stop. -/
def unasked (state : RunState σ) : RunState σ :=
  { state with stopped := false }

theorem unasked_eq {state : RunState σ} (hstopped : state.stopped = false) :
    unasked state = state := by
  rw [unasked, ← hstopped]

namespace Run

variable {surroundings : Surroundings σ} {lines : List String}

theorem called_unstopped {state : RunState σ} (hstopped : state.stopped = false)
    (target command : String) :
    called surroundings.unstopped state target command =
      unasked (called surroundings state target command) := by
  simp [called, unasked, Surroundings.unstopped, unstopped, hstopped]

theorem run_sendCommand_unstopped {state : RunState σ} (hstopped : state.stopped = false)
    (line : Nat) (target command : String) :
    (sendCommand surroundings.unstopped line target command).run state =
      (((sendCommand surroundings line target command).run state).1,
        unasked ((sendCommand surroundings line target command).run state).2) := by
  have hnoted : unasked (noted state target command) = noted state target command :=
    unasked_eq hstopped
  have hanswer : ((unstopped surroundings.handler) target command state.host).1.outcome =
      (surroundings.handler target command state.host).1.outcome := rfl
  rw [run_sendCommand, run_sendCommand, called_unstopped hstopped]
  simp only [Surroundings.unstopped, hanswer]
  cases surroundings.clock state.readings with
  | error error => simp only [hnoted]
  | ok now =>
    dsimp only
    split
    · cases (surroundings.handler target command state.host).1.outcome with
      | answered result =>
        simp only [run_storeResult]
        rfl
      | raised kind message => rfl
      | overdue => rfl
    · simp only [hnoted]

/-- As long as nobody asked to stop, a step does the same without the request that may come with
it. -/
theorem run_step_unstopped {state : RunState σ} (hstopped : state.stopped = false)
    (frames : List Frame) :
    (step surroundings.unstopped lines frames).run state =
      (((step surroundings lines frames).run state).1,
        unasked ((step surroundings lines frames).run state).2) := by
  cases frames with
  | nil =>
    have hsame := unasked_eq hstopped
    simp only [step, Attempt.run_pure, hsame]
  | cons frame rest =>
    have hkept : Keeps state ((checkpoint surroundings).run state).2 := keeps_checkpoint state
    rcases hlook : (checkpoint surroundings).run state with ⟨error | ⟨⟩, looked⟩ <;>
      rw [hlook] at hkept
    · -- the look does not ask the handler
      have hlook' : (checkpoint surroundings.unstopped).run state = (.error error, looked) := hlook
      rw [run_step_of_error hlook, run_step_of_error hlook']
      simp only [unasked_eq (hkept.stopped_eq.trans hstopped)]
    · have hlook' : (checkpoint surroundings.unstopped).run state = (.ok (), looked) := hlook
      have hlooked : looked.stopped = false := hkept.stopped_eq.trans hstopped
      rcases hdirective : frame.directive? lines with _ | ⟨target, command⟩
      · have hafter : ((advance surroundings lines frame).run looked).2.stopped = looked.stopped :=
          (inward_advance hdirective looked).stopped_eq
        rw [run_step_of_ok hlook, run_step_of_ok hlook', advance_congr hdirective surroundings]
        simp only [unasked_eq (hafter.trans hlooked)]
      · cases frame with
        | loop => cases hdirective
        | block start position stop =>
          rw [run_step_of_directive hlook hdirective, run_step_of_directive hlook' hdirective,
            run_sendCommand_unstopped hlooked]

/-- A run to which no stop was asked so far is the run without any request. -/
theorem steps_unstopped {count : Nat} {frames left : List Frame} {state after : RunState σ}
    (hsteps : (steps surroundings lines count frames).run state = (.ok left, after))
    (hstopped : after.stopped = false) :
    (steps surroundings.unstopped lines count frames).run state = (.ok left, after) := by
  induction count generalizing left after with
  | zero => exact hsteps
  | succ count ih =>
    rw [steps_succ] at hsteps ⊢
    obtain ⟨between, middle, hbetween, hstep⟩ := Attempt.run_bind_eq_ok.1 hsteps
    -- a step is made only as long as nobody asked to stop
    have hmiddle : middle.stopped = false := by
      cases between with
      | nil =>
        cases hstep
        exact hstopped
      | cons frame rest =>
        obtain ⟨looked, begun, hlook, -⟩ := step_eq_ok hstep
        exact (run_checkpoint_eq_ok.1 hlook).1
    refine Attempt.run_bind_eq_ok.2 ⟨between, middle, ih hbetween hmiddle, ?_⟩
    rw [run_step_unstopped hmiddle, hstep]
    simp only [unasked_eq hstopped]

/-! ## The step that is asked to stop -/

theorem run_step_of_stopped {frame : Frame} {state : RunState σ} (hstopped : state.stopped = true)
    (rest : List Frame) :
    (step surroundings lines (frame :: rest)).run state = (.error .stopped, state) := by
  refine run_step_of_error ?_ frame rest
  rw [run_checkpoint, hstopped]
  rfl

/-- What a command that is answered changes. -/
theorem run_step_of_answered {frame : Frame} {state : RunState σ} {target command : String}
    {result : CommandResult} (hsends : Sends surroundings lines frame state target command)
    (hanswer : (surroundings.handler target command state.host).1.outcome = .answered result)
    (rest : List Frame) :
    ∃ left after, (step surroundings lines (frame :: rest)).run state =
        (if isLoggable result then .ok left else .error (.number .tooLongToWrite), after) ∧
      after.vars = stored result state.vars ∧ after.said = state.said ∧
      after.calls = state.calls.push (target, command) := by
  obtain ⟨now, hclock, hearly⟩ := hsends.inTime
  have hdirective := hsends.directive
  cases frame with
  | loop => cases hdirective
  | block start position stop =>
    let sent := called surroundings { state with readings := state.readings + 1 } target command
    refine ⟨pending (.block start (min (position + 1) stop) stop :: rest),
      { sent with vars := stored result state.vars, log := warned position result sent.log },
      ?_, rfl, rfl, rfl⟩
    rw [run_step_of_directive hsends.run_checkpoint hdirective, run_sendCommand]
    simp only [hclock, hearly, if_true, hanswer, run_storeResult]
    split <;> rfl

/-- A run that was asked to stop makes no further step. -/
theorem ending_of_stopped {script : String} {host : σ} {count : Nat} {left : List Frame}
    {state : RunState σ}
    (hsteps : (steps surroundings (splitLines script) count (opening (splitLines script))).run
      { readings := 1, host } = (.ok left, state))
    (hstopped : state.stopped = true) :
    ending surroundings script host =
      (if left = [] then .ok () else .error .stopped, state) := by
  cases left with
  | nil => exact ending_of_nothing_left hsteps
  | cons frame rest => exact ending_of_step_error hsteps (run_step_of_stopped hstopped rest)

end Run

/-- A reply in the middle of the replies in a run, with the moment at which it came. -/
theorem exists_moment_of_reply (surroundings : Surroundings σ) (script : String) (host : σ)
    {earlier later : List Reply} {reply : Reply}
    (hreplies : replies surroundings.handler
      (Run.ending surroundings script host).2.calls.toList host = earlier ++ reply :: later) :
    ∃ count frame rest state target command,
      (Run.steps surroundings (splitLines script) count (Run.opening (splitLines script))).run
        { readings := 1, host } = (.ok (frame :: rest), state) ∧
      state.calls.size = earlier.length ∧
      Sends surroundings (splitLines script) frame state target command ∧
      (surroundings.handler target command state.host).1 = reply := by
  have hsize : earlier.length < (Run.ending surroundings script host).2.calls.size := by
    have hlength := congrArg List.length hreplies
    rw [length_replies, List.length_append, List.length_cons, Array.length_toList] at hlength
    omega
  -- the step that sends one command more than there were earlier replies
  obtain ⟨count, frame, rest, state, hsteps, hbefore, hpast⟩ :=
    Run.exists_step_past_of_ending (fun state => state.calls.size) (Nat.zero_le _) hsize
  rcases Run.sends_or_keeps surroundings (splitLines script) frame rest state with
    ⟨target, command, hsends⟩ | hkeeps
  case inr =>
    rw [hkeeps.calls_eq] at hpast
    exact absurd hpast (Nat.not_lt.2 hbefore)
  have hmade : state.calls.size = earlier.length := by
    rw [(hsends.untouched_called rest).calls_eq] at hpast
    simp only [Run.called, Run.noted, Array.size_push] at hpast
    omega
  refine ⟨count, frame, rest, state, target, command, hsteps, hmade, hsends, ?_⟩
  -- the commands sent up to this one are the first ones of the whole run
  have hhost : state.host = hostAfter surroundings.handler state.calls.toList host := by
    have hhosts : ((Run.steps surroundings (splitLines script) count
        (Run.opening (splitLines script))).run { readings := 1, host }).2.host = _ :=
      Run.host_eq_steps count _ rfl
    rw [hsteps] at hhosts
    exact hhosts
  have hprefix : state.calls.toList ++ [(target, command)] <+:
      (Run.ending surroundings script host).2.calls.toList := by
    have hextends : _ <+: (Run.ending surroundings script host).2.calls.toList :=
      (Run.extends_ending script host (count + 1)).calls_grow
    rw [Run.steps_succ, Attempt.run_bind, hsteps] at hextends
    rw [(hsends.untouched_called rest).calls_eq] at hextends
    simpa [Run.called, Run.noted] using hextends
  obtain ⟨more, hmore⟩ := hprefix
  rw [← hmore, List.append_assoc, replies_append, ← hhost] at hreplies
  have hsplit := List.append_inj hreplies (by rw [length_replies, Array.length_toList, hmade])
  exact (List.cons.inj hsplit.2).1

/-- A run that is asked to stop ends with the answer to the command, and the run without the
request is the same up to there. -/
theorem Run.ending_of_asked {surroundings : Surroundings σ} {script : String} {host : σ}
    {count : Nat} {frame : Frame} {rest : List Frame} {state : RunState σ}
    {target command : String} {result : CommandResult}
    (hsteps : (steps surroundings (splitLines script) count (opening (splitLines script))).run
      { readings := 1, host } = (.ok (frame :: rest), state))
    (hsends : Sends surroundings (splitLines script) frame state target command)
    (hreply : (surroundings.handler target command state.host).1 =
      { outcome := .answered result, stops := true }) :
    ∃ left after,
      ending surroundings script host =
        (if isLoggable result then (if left = [] then .ok () else .error .stopped)
          else .error (.number .tooLongToWrite), after) ∧
      (steps surroundings.unstopped (splitLines script) (count + 1)
          (opening (splitLines script))).run { readings := 1, host } =
        (if isLoggable result then .ok left else .error (.number .tooLongToWrite),
          unasked after) ∧
      after.vars = stored result state.vars ∧ after.said = state.said ∧
      after.calls = state.calls.push (target, command) := by
  have hanswer : (surroundings.handler target command state.host).1.outcome =
      .answered result := by
    rw [hreply]
  obtain ⟨left, after, hstep, hafter⟩ := run_step_of_answered hsends hanswer rest
  have hstopped : after.stopped = true := by
    have hcalled := (hsends.untouched_called rest).stopped_eq
    rw [hstep] at hcalled
    simpa [called, hreply] using hcalled
  have hmore : (steps surroundings.unstopped (splitLines script) (count + 1)
      (opening (splitLines script))).run { readings := 1, host } =
      (if isLoggable result then .ok left else .error (.number .tooLongToWrite),
        unasked after) := by
    rw [steps_succ, Attempt.run_bind, steps_unstopped hsteps hsends.notStopped]
    dsimp only
    rw [run_step_unstopped hsends.notStopped, hstep]
  cases hloggable : isLoggable result with
  | true =>
    have hasked : (steps surroundings (splitLines script) (count + 1)
        (opening (splitLines script))).run { readings := 1, host } = (.ok left, after) := by
      rw [steps_succ, Attempt.run_bind, hsteps]
      simpa only [hloggable, if_true] using hstep
    rw [hloggable] at hmore
    exact ⟨left, after, ending_of_stopped hasked hstopped, hmore, hafter⟩
  | false =>
    -- the log cannot show the answer, and that ends the run
    rw [hloggable] at hstep hmore
    exact ⟨left, after, ending_of_step_error hsteps hstep, hmore, hafter⟩

/-- The report on a run that was asked to stop with something left to do or not. -/
theorem Report.ofRun_stopped (left : List Frame) (state : RunState σ) :
    let ended : Except RunError Unit × RunState σ :=
      (if left = [] then .ok () else .error .stopped, state)
    (Report.ofRun ended).execution.success = decide (left = []) ∧
      (Report.ofRun ended).execution.code = (if left = [] then 0 else 99) ∧
      (Report.ofRun ended).execution.error =
        if left = [] then none else some "Script execution stopped" := by
  cases left with
  | nil => exact ⟨rfl, rfl, rfl⟩
  | cons frame rest => exact ⟨rfl, rfl, rfl⟩

/-- **A request to stop is followed at once.**  Suppose the handler answers a command of a run and
a stop is asked for meanwhile.  This is the last command of the run.  After it no line is printed,
and the variables are those before it with its result stored.  If a line or a round would have come
next, the run fails as stopped, and otherwise it succeeds.  The only exception is a failure whose
code has too many digits for the log: the run then fails because of these digits.  What was printed
and sent is the beginning of what the run without the request prints and sends. -/
theorem execute_stops_at_once (handler : AddressHandler σ) {clock : Clock} {timeout : Int}
    {limit : Binary64} (hlimit : deadline clock timeout = .ok limit) (script : String) (host : σ)
    {earlier later : List Reply} {result : CommandResult}
    (hreplies : replies handler
      (Run.ending { handler, clock, timeout, deadline := limit } script host).2.calls.toList host =
        earlier ++ { outcome := .answered result, stops := true } :: later) :
    let surroundings : Surroundings σ := { handler, clock, timeout, deadline := limit }
    let lines := splitLines script
    let start : RunState σ := { readings := 1, host }
    let final := Run.ending surroundings script host
    let whole := Run.ending surroundings.unstopped script host
    execute handler clock timeout script host = .ok (.ofRun final) ∧
    execute (unstopped handler) clock timeout script host = .ok (.ofRun whole) ∧
    final.2.calls.size = earlier.length + 1 ∧
    (∃ count frame rest state target command,
      (Run.steps surroundings lines count (Run.opening lines)).run start =
        (.ok (frame :: rest), state) ∧
      Sends surroundings lines frame state target command ∧
      final.2.calls = state.calls.push (target, command) ∧
      final.2.said = state.said ∧
      final.2.vars = stored result state.vars ∧
      (isLoggable result = true → ∃ left after,
        (Run.steps surroundings.unstopped lines (count + 1) (Run.opening lines)).run start =
          (.ok left, after) ∧
        after.calls = final.2.calls ∧
        (Report.ofRun final).execution.success = decide (left = []) ∧
        (Report.ofRun final).execution.code = (if left = [] then 0 else 99) ∧
        (Report.ofRun final).execution.error =
          if left = [] then none else some "Script execution stopped") ∧
      (isLoggable result = false →
        (Report.ofRun final).execution.success = false ∧
        (Report.ofRun final).execution.code = 99 ∧
        (Report.ofRun final).execution.error = some NumberError.tooLongToWrite.message)) ∧
    final.2.said.toList <+: whole.2.said.toList ∧
    final.2.calls.toList <+: whole.2.calls.toList := by
  intro surroundings lines start final whole
  obtain ⟨count, frame, rest, state, target, command, hsteps, hmade, hsends, hreply⟩ :=
    exists_moment_of_reply surroundings script host hreplies
  obtain ⟨left, after, hending, hmore, hvars, hsaid, hcalls⟩ :=
    Run.ending_of_asked hsteps hsends hreply
  have hfinal : final.2 = after := congrArg Prod.snd hending
  have hextends : Extends after whole.2 := by
    have hwhole : Extends _ whole.2 := Run.extends_ending script host (count + 1)
    rw [hmore] at hwhole
    exact ⟨hwhole.said_grows, hwhole.calls_grow⟩
  refine ⟨execute_eq_ofRun hlimit handler script host,
    execute_eq_ofRun hlimit (unstopped handler) script host, ?_, ?_, ?_, ?_⟩
  · rw [hfinal, hcalls, Array.size_push, hmade]
  · refine ⟨count, frame, rest, state, target, command, hsteps, hsends, ?_, ?_, ?_, ?_, ?_⟩
    · rw [hfinal, hcalls]
    · rw [hfinal, hsaid]
    · rw [hfinal, hvars]
    · intro hloggable
      simp only [hloggable, if_true] at hmore hending
      have hended : final = (if left = [] then .ok () else .error .stopped, after) := hending
      refine ⟨left, unasked after, hmore, ?_, ?_⟩
      · rw [hfinal, unasked]
      · rw [hended]
        exact Report.ofRun_stopped left after
    · intro hloggable
      simp only [hloggable, Bool.false_eq_true, if_false] at hending
      have hended : final = (.error (.number .tooLongToWrite), after) := hending
      rw [hended]
      exact ⟨rfl, rfl, rfl⟩
  · rw [hfinal]
    exact hextends.said_grows
  · rw [hfinal]
    exact hextends.calls_grow

/-- A loop that sends a command and prints in each round. -/
def sendingScript : String := "DO i = 1 TO 3\nADDRESS SLIDES \"list-slides\"\nSAY i\nEND"

/-- An answer, with a request to stop or without. -/
def doneReply (stops : Bool) : Reply :=
  { outcome := .answered (.ok "done"), stops }

/-- A second on a clock that stands still. -/
theorem deadline_standing :
    deadline (Clock.ticking 0) 1000 = .ok (.finite false (Nat.pow 2 52) (-52)) := by
  decide +kernel

/-- A stop that is asked for in the second round of three. -/
theorem execute_stops_at_once_secondRound :
    ∃ limit, deadline (Clock.ticking 0) 1000 = .ok limit ∧
      let host := [doneReply false, doneReply true, doneReply false]
      let final := Run.ending
        { handler := prepared, clock := .ticking 0, timeout := 1000, deadline := limit }
        sendingScript host
      replies prepared final.2.calls.toList host = [doneReply false] ++ doneReply true :: [] ∧
      final.2.calls.size = 2 ∧ final.2.said = #["1"] := by
  have hcalls : (Run.ending
      { handler := prepared, clock := .ticking 0, timeout := 1000,
        deadline := .finite false (Nat.pow 2 52) (-52) }
      sendingScript [doneReply false, doneReply true, doneReply false]).2.calls.toList =
      [("SLIDES", "list-slides"), ("SLIDES", "list-slides")] := by
    decide +kernel
  have hreplies : replies prepared [("SLIDES", "list-slides"), ("SLIDES", "list-slides")]
      [doneReply false, doneReply true, doneReply false] =
      [doneReply false] ++ doneReply true :: [] := rfl
  rw [← hcalls] at hreplies
  exact ⟨_, deadline_standing, hreplies,
    (execute_stops_at_once prepared deadline_standing sendingScript _ hreplies).2.2.1,
    by decide +kernel⟩

/-- A failure whose code has one digit more than can be written. -/
def oversized : CommandResult :=
  ⟨false, Number.writeLimit, "refused", .none⟩

/-- A run that is asked to stop need not end as stopped or as done: here the log has to show a code
that cannot be written. -/
theorem not_forall_execute_stopped_or_done :
    ¬∀ (script : String) (host : List Reply) (limit : Binary64) (earlier later : List Reply)
        (result : CommandResult),
      let final := Run.ending
        { handler := prepared, clock := .ticking 0, timeout := 1000, deadline := limit } script host
      deadline (Clock.ticking 0) 1000 = .ok limit →
      (∀ reply ∈ earlier, ∃ answer, reply = { outcome := .answered answer, stops := false }) →
      replies prepared final.2.calls.toList host =
        earlier ++ { outcome := .answered result, stops := true } :: later →
      (Report.ofRun final).execution.success = true ∨
        (Report.ofRun final).execution.error = some "Script execution stopped" := by
  intro h
  have hcalls : (Run.ending
      { handler := prepared, clock := .ticking 0, timeout := 1000,
        deadline := .finite false (Nat.pow 2 52) (-52) }
      sendingScript [{ outcome := .answered oversized, stops := true }]).2.calls.toList =
      [("SLIDES", "list-slides")] := by
    decide +kernel
  have hreplies : replies prepared [("SLIDES", "list-slides")]
      [{ outcome := .answered oversized, stops := true }] =
      [] ++ { outcome := .answered oversized, stops := true } :: [] := rfl
  rw [← hcalls] at hreplies
  have hended := h sendingScript _ _ [] [] oversized deadline_standing (List.forall_mem_nil _)
    hreplies
  revert hended
  decide +kernel

end DeckScript.Script
