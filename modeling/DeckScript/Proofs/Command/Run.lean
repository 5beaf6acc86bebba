import DeckScript.Proofs.Command.Effect
import DeckScript.Proofs.Deck.History

/-!
# One command line

What a command line can do to the history, whatever fails in the store: nothing,
record the deck as the store then has it, or move the cursor (`HistoryStep`).  In a
store without failures the deck is known as well (`Course`).

Both are read off the same four ways in which a line is run: the command is unknown,
it fails, it succeeds without being recorded, or it succeeds and is recorded.
-/

namespace DeckScript.Session

/-- The command that a line stands for, if it is one. -/
def commandOf (session : Session) (line : String) : Option Command :=
  Command.ofName? (session.expandAlias (CommandLine.ofText line).name)

section

variable {session after : Session} {line : String} {command : Command} {result : CommandResult}

theorem run_of_unknown (h : session.commandOf line = none) :
    ∃ failure message, failure.success = false ∧
      run line session = (failure, session.logged .warning message) := by
  unfold commandOf at h
  simp only [run, h]
  exact ⟨_, _, rfl, rfl⟩

theorem run_of_failed (h : session.commandOf line = some command)
    (hperform : perform (CommandLine.ofText line).params command session = (result, after))
    (hfailed : result.success = false) :
    ∃ message, run line session = (result, after.logged .warning message) := by
  unfold commandOf at h
  simp only [run, h, hperform, hfailed]
  exact ⟨_, rfl⟩

theorem run_of_unrecorded (h : session.commandOf line = some command)
    (hperform : perform (CommandLine.ofText line).params command session = (result, after))
    (hdone : result.success = true) (hkeeps : command.changesDeck = false) :
    run line session = (result, after) := by
  unfold commandOf at h
  simp only [run, h, hperform, hdone, hkeeps]
  rfl

theorem run_of_recorded (h : session.commandOf line = some command)
    (hperform : perform (CommandLine.ofText line).params command session = (result, after))
    (hdone : result.success = true) (hchanges : command.changesDeck = true) :
    run line session =
      recordChange line (session.expandAlias (CommandLine.ofText line).name)
        (CommandLine.ofText line).params result after := by
  unfold commandOf at h
  simp only [run, h, hperform, hdone, hchanges]
  rfl

end

/-! ## Steps that keep the history -/

/-- The step leaves the history alone, whether it succeeds or not. -/
def KeepsHistory {α : Type} (step : Step α) : Prop :=
  ∀ session, (step.run session).2.history = session.history

section

variable {α β : Type}

theorem keepsHistory_of_inert {step : Step α} (h : step.Inert) : KeepsHistory step := by
  intro session
  rw [h session]

theorem KeepsHistory.bind {step : Step α} {next : α → Step β} (h : KeepsHistory step)
    (hnext : ∀ session a, (step.run session).1 = .ok a → KeepsHistory (next a)) :
    KeepsHistory (step >>= next) := by
  intro session
  have hfirst := h session
  have hrest := hnext session
  rw [Attempt.run_bind]
  rcases hrun : step.run session with ⟨error | a, between⟩ <;> rw [hrun] at hfirst hrest
  · exact hfirst
  · exact (hrest a rfl between).trans hfirst

theorem keepsHistory_readDeck : KeepsHistory readDeck := by
  intro session
  simp only [readDeck, Attempt.on]
  rcases Store.read.run session.store with ⟨_ | _, _⟩ <;> rfl

theorem keepsHistory_dispatch (action : Action) : KeepsHistory (dispatch action) := by
  intro session
  simp only [dispatch, Attempt.on]
  rcases (Store.dispatch action).run session.store with ⟨_ | _, _⟩ <;> rfl

theorem keepsHistory_act (actions : List Action) (result : CommandResult) :
    KeepsHistory (act actions result) := by
  induction actions with
  | nil => exact keepsHistory_of_inert (.pure result)
  | cons action rest ih => exact (keepsHistory_dispatch action).bind fun _ _ _ => ih

theorem Decides.keepsHistory {plan : List Action → Prop} {step : Step CommandResult}
    (h : Decides plan step) : KeepsHistory step := by
  induction h with
  | reject code output => exact keepsHistory_of_inert (.pure _)
  | breakOff error => exact keepsHistory_of_inert fun _ => rfl
  | think inert _ ih => exact (keepsHistory_of_inert inert).bind ih
  | act planned output result => exact keepsHistory_act _ _

theorem Follows.keepsHistory {plan : Deck → List Action → Prop} {step : Step CommandResult}
    (h : Follows plan step) : KeepsHistory step := by
  induction h with
  | reject code output => exact keepsHistory_of_inert (.pure _)
  | think inert _ ih => exact (keepsHistory_of_inert inert).bind ih
  | read hnext => exact keepsHistory_readDeck.bind fun _ deck _ => (hnext deck).keepsHistory

end

theorem KeepsHistory.guarded {step : Step CommandResult} (h : KeepsHistory step)
    (code : ErrorCode) (what : String) (session : Session) :
    (guarded code what step session).2.history = session.history := by
  have hstep := h session
  unfold Session.guarded
  rcases hrun : step.run session with ⟨_ | _, after⟩ <;> rw [hrun] at hstep <;> exact hstep

/-- Only undo and redo move the cursor. -/
theorem history_perform (params : Params) {command : Command} (session : Session)
    (hundo : command ≠ .undo) (hredo : command ≠ .redo) :
    (perform params command session).2.history = session.history := by
  obtain ⟨code, what, step, hperform, hfollows⟩ := perform_follows params hundo hredo
  rw [hperform]
  exact hfollows.keepsHistory.guarded code what session

/-! ## Undo and redo -/

/-- The store failed when the deck was to be replaced: on entry, with the deck as it was, or at a
listener, with the deck replaced. -/
def ReplaceFailed (store : Store) (slides after : Deck) : Prop :=
  store.faults.dispatching.failsWithin 1 = true ∧ after = store.slides ∨
    store.faults.listening.failsWithin store.listeners.length = true ∧ after = slides

theorem ReplaceFailed.not_quiet {store : Store} {slides after : Deck}
    (h : ReplaceFailed store slides after) : ¬store.Quiet := by
  intro quiet
  unfold ReplaceFailed at h
  rw [quiet] at h
  rcases h with ⟨hfails, -⟩ | ⟨hfails, -⟩ <;> cases hfails

/-- How undo or redo ends, `move` being what the history says to it. -/
inductive Jumps (session : Session) (move : Except HistoryError (Deck × History))
    (result : CommandResult) (after : Session) : Prop
  | refused (error : HistoryError) (hmove : move = .error error)
      (hfailed : result.success = false) (hafter : after = session)
  | moved (slides : Deck) (hmove : move = .ok (slides, after.history))
      (hslides : result.success = true → after.store.slides = slides)
      (hfailed : result.success = false →
        ReplaceFailed session.store slides after.store.slides)
      (hquiet : session.store.Quiet → result.success = true ∧ after.store.Quiet)

/-- The second half of undo and redo. -/
def jump (slides : Deck) (history : History) (output : String) : Step CommandResult := do
  .modify fun session => { session with history }
  dispatch (.replaceAll slides)
  let session ← .get
  return .ok output (historyPayload session)

/-- Undo and redo are one command that differs in the move and in the texts. -/
def travel (move : History → Except HistoryError (Deck × History)) (code : ErrorCode)
    (refusal output : String) : Step CommandResult := do
  let session ← .get
  match move session.history with
  | .error _ => return .failure code refusal
  | .ok (slides, history) => jump slides history output

theorem undo_eq_travel :
    undo = travel History.undo .nothingToUndo "Nothing to undo" "Undo executed" := rfl

theorem redo_eq_travel :
    redo = travel History.redo .nothingToRedo "Nothing to redo" "Redo executed" := rfl

/-- A dispatch that replaces the whole deck is never refused. -/
theorem ensures_replaceAll (slides : Deck) (session : Session) :
    (dispatch (.replaceAll slides)).Ensures session
      (fun _ after => after.history = session.history ∧
        ReplaceFailed session.store slides after.store.slides)
      fun _ after => after.history = session.history ∧ after.store.slides = slides ∧
        (session.store.Quiet → after.store.Quiet) := by
  by_cases quiet : session.store.Quiet
  · rw [Attempt.Ensures, run_dispatch_of_quiet quiet rfl]
    exact ⟨rfl, rfl, fun _ => quiet⟩
  · rw [dispatch, Attempt.ensures_on]
    refine (Store.dispatch_callsPassed (.replaceAll slides) session.store).mono ?_ ?_
    · rintro _ after (⟨hslides, hentry | ⟨refusal, hrefused⟩⟩ | ⟨hdone, hlistener⟩)
      · exact ⟨rfl, Or.inl ⟨hentry, hslides⟩⟩
      · cases hrefused
      · exact ⟨rfl, Or.inr ⟨hlistener, (Except.ok.inj hdone).symm⟩⟩
    · rintro _ after ⟨hdone, -⟩
      exact ⟨rfl, (Except.ok.inj hdone).symm, fun hquiet => absurd hquiet quiet⟩

theorem ensures_jump (slides : Deck) (history : History) (output : String) (session : Session) :
    (jump slides history output).Ensures session
      (fun _ after => after.history = history ∧
        ReplaceFailed session.store slides after.store.slides)
      fun result after => result.success = true ∧ after.history = history ∧
        after.store.slides = slides ∧ (session.store.Quiet → after.store.Quiet) := by
  rw [jump, Attempt.ensures_bind, Attempt.ensures_modify, Attempt.ensures_bind]
  refine (ensures_replaceAll slides { session with history }).mono (fun _ _ h => h) ?_
  intro _ after hafter
  exact ⟨rfl, hafter⟩

theorem guarded_travel (move : History → Except HistoryError (Deck × History))
    (code failure : ErrorCode) (refusal output what : String) (session : Session) :
    Jumps session (move session.history)
      (guarded failure what (travel move code refusal output) session).1
      (guarded failure what (travel move code refusal output) session).2 := by
  unfold guarded travel
  rw [Attempt.run_bind, Attempt.run_get]
  dsimp only
  cases hmove : move session.history with
  | error error => exact .refused error rfl rfl rfl
  | ok place =>
    obtain ⟨slides, history⟩ := place
    have hjump := ensures_jump slides history output session
    unfold Attempt.Ensures at hjump
    dsimp only
    rcases hrun : (jump slides history output).run session with ⟨error | result, after⟩ <;>
      rw [hrun] at hjump
    · -- the cursor has moved although the store has failed
      obtain ⟨rfl, hfailed⟩ := hjump
      exact .moved slides rfl (fun hdone => nomatch hdone) (fun _ => hfailed)
        fun quiet => absurd quiet hfailed.not_quiet
    · obtain ⟨hdone, rfl, hslides, hquiet⟩ := hjump
      refine .moved slides rfl (fun _ => hslides) ?_ fun quiet => ⟨hdone, hquiet quiet⟩
      intro hfailed
      exact absurd (hdone.symm.trans hfailed) (by decide)

theorem perform_undo (params : Params) (session : Session) :
    Jumps session session.history.undo (perform params .undo session).1
      (perform params .undo session).2 := by
  rw [perform, undo_eq_travel]
  exact guarded_travel _ _ _ _ _ _ session

theorem perform_redo (params : Params) (session : Session) :
    Jumps session session.history.redo (perform params .redo session).1
      (perform params .redo session).2 := by
  rw [perform, redo_eq_travel]
  exact guarded_travel _ _ _ _ _ _ session

/-! ## What a line does to the history -/

/-- The snapshot that is recorded is the deck as the store has it then. -/
theorem recordChange_history (line name : String) (params : Params) (result : CommandResult)
    (session : Session) :
    (recordChange line name params result session).1.success = false ∧
        (recordChange line name params result session).2.history = session.history ∨
      (recordChange line name params result session).2.history = session.history.record
        ⟨some name, params, (recordChange line name params result session).2.store.slides⟩ := by
  have hread := Store.ensures_read session.store
  unfold Attempt.Ensures at hread
  unfold recordChange
  rcases hrun : Store.read.run session.store with ⟨error | deck, store⟩ <;> rw [hrun] at hread
  · exact Or.inl ⟨rfl, rfl⟩
  · obtain ⟨rfl, hstore⟩ := hread
    exact Or.inr (by simp [logged, hstore])

/-- What a line does to the history, whatever fails in the store. -/
inductive HistoryStep (session : Session) (line : String) (result : CommandResult)
    (after : Session) : Prop
  | kept (hhistory : after.history = session.history)
      (hidle : result.success = true → ∀ command, session.commandOf line = some command →
        command.changesDeck = false ∧ command ≠ .undo ∧ command ≠ .redo)
  | recorded (entry : HistoryEntry) (hhistory : after.history = session.history.record entry)
      (hslides : entry.slides = after.store.slides)
  | moved (slides : Deck) (hhistory : session.history.Moves slides after.history)
      (hslides : result.success = true → after.store.slides = slides)

section

variable {session : Session} {line : String} {command : Command}

theorem historyStep_of_jumps {move : Except HistoryError (Deck × History)}
    (hcommand : session.commandOf line = some command) (hkeeps : command.changesDeck = false)
    (hmoves : ∀ slides history, move = .ok (slides, history) →
      session.history.Moves slides history)
    (hjumps : Jumps session move (perform (CommandLine.ofText line).params command session).1
      (perform (CommandLine.ofText line).params command session).2) :
    HistoryStep session line (run line session).1 (run line session).2 := by
  rcases hperform : perform (CommandLine.ofText line).params command session with ⟨result, after⟩
  rw [hperform] at hjumps
  cases hdone : result.success with
  | false =>
    obtain ⟨message, hrun⟩ := run_of_failed hcommand hperform hdone
    rw [hrun]
    -- refused by the history, or broken off after the cursor had moved
    have hfailed : ¬result.success = true := by simp [hdone]
    cases hjumps with
    | refused error hmove _ hafter =>
      have hhistory : after.history = session.history := congrArg Session.history hafter
      exact .kept hhistory fun h => absurd h hfailed
    | moved slides hmove hslides hbroken hquiet =>
      exact .moved slides (hmoves _ _ hmove) fun h => absurd h hfailed
  | true =>
    rw [run_of_unrecorded hcommand hperform hdone hkeeps]
    cases hjumps with
    | refused error hmove hfailed hafter =>
      exact absurd (hdone.symm.trans hfailed) (by decide)
    | moved slides hmove hslides hbroken hquiet => exact .moved slides (hmoves _ _ hmove) hslides

theorem historyStep_of_command (hcommand : session.commandOf line = some command)
    (hundo : command ≠ .undo) (hredo : command ≠ .redo) :
    HistoryStep session line (run line session).1 (run line session).2 := by
  have hhistory := history_perform (CommandLine.ofText line).params session hundo hredo
  rcases hperform : perform (CommandLine.ofText line).params command session with ⟨result, after⟩
  rw [hperform] at hhistory
  cases hdone : result.success with
  | false =>
    obtain ⟨message, hrun⟩ := run_of_failed hcommand hperform hdone
    rw [hrun]
    exact .kept hhistory fun h => absurd (hdone.symm.trans h) (by decide)
  | true =>
    cases hchanges : command.changesDeck with
    | false =>
      rw [run_of_unrecorded hcommand hperform hdone hchanges]
      refine .kept hhistory ?_
      intro _ other hother
      cases hcommand.symm.trans hother
      exact ⟨hchanges, hundo, hredo⟩
    | true =>
      rw [run_of_recorded hcommand hperform hdone hchanges]
      rcases recordChange_history line (session.expandAlias (CommandLine.ofText line).name)
        (CommandLine.ofText line).params result after with ⟨hfailed, hkept⟩ | hrecorded
      · -- the change was made, but could not be read for the snapshot
        exact .kept (hkept.trans hhistory) fun h => absurd (hfailed.symm.trans h) (by decide)
      · exact .recorded ⟨_, _, _⟩ (hrecorded.trans (congrArg (History.record · _) hhistory)) rfl

/-- A line keeps the history, records the deck, or moves the cursor. -/
theorem run_historyStep (line : String) (session : Session) :
    HistoryStep session line (run line session).1 (run line session).2 := by
  cases hcommand : session.commandOf line with
  | none =>
    obtain ⟨failure, message, hfailed, hrun⟩ := run_of_unknown hcommand
    rw [hrun]
    exact .kept rfl fun h => absurd (hfailed.symm.trans h) (by decide)
  | some command =>
    by_cases hundo : command = .undo
    · subst hundo
      exact historyStep_of_jumps hcommand rfl (fun _ _ => Or.inl) (perform_undo _ session)
    · by_cases hredo : command = .redo
      · subst hredo
        exact historyStep_of_jumps hcommand rfl (fun _ _ => Or.inr) (perform_redo _ session)
      · exact historyStep_of_command hcommand hundo hredo

end

/-! ## What a line does without failures of the store -/

/-- How a line ends in a store without failures. -/
inductive Course (session : Session) (line : String) (result : CommandResult)
    (after : Session) : Prop
  | failed (hfailed : result.success = false) (hslides : after.store.slides = session.store.slides)
      (hhistory : after.history = session.history)
      (hundo : session.commandOf line = some .undo → session.history.canUndo = false)
      (hredo : session.commandOf line = some .redo → session.history.canRedo = false)
  | unrecorded (command : Command) (hcommand : session.commandOf line = some command)
      (hdone : result.success = true) (hkeeps : command.changesDeck = false)
      (heffect : Effect (CommandLine.ofText line).params session.store.slides command
        after.store.slides)
      (hhistory : after.history = session.history)
  | recorded (command : Command) (hcommand : session.commandOf line = some command)
      (hdone : result.success = true) (hchanges : command.changesDeck = true)
      (heffect : Effect (CommandLine.ofText line).params session.store.slides command
        after.store.slides)
      (hhistory : after.history = session.history.record
        ⟨some (session.expandAlias (CommandLine.ofText line).name),
          (CommandLine.ofText line).params, after.store.slides⟩)
  | undone (hcommand : session.commandOf line = some .undo) (hdone : result.success = true)
      (hmove : session.history.undo = .ok (after.store.slides, after.history))
  | redone (hcommand : session.commandOf line = some .redo) (hdone : result.success = true)
      (hmove : session.history.redo = .ok (after.store.slides, after.history))

namespace Course

variable {session after : Session} {line : String} {result : CommandResult}

theorem success_iff_canUndo (course : Course session line result after)
    (h : session.commandOf line = some .undo) :
    result.success = true ↔ session.history.canUndo = true := by
  cases course with
  | failed hfailed hslides hhistory hundo hredo => simp [hfailed, hundo h]
  | unrecorded command hcommand hdone hkeeps heffect hhistory =>
    cases hcommand.symm.trans h
    exact absurd rfl heffect.command_ne.1
  | recorded command hcommand hdone hchanges heffect hhistory =>
    cases hcommand.symm.trans h
    exact absurd rfl heffect.command_ne.1
  | undone hcommand hdone hmove => simp [hdone, History.canUndo, (History.undo_eq_ok hmove).1]
  | redone hcommand hdone hmove => cases hcommand.symm.trans h

theorem success_iff_canRedo (course : Course session line result after)
    (h : session.commandOf line = some .redo) :
    result.success = true ↔ session.history.canRedo = true := by
  cases course with
  | failed hfailed hslides hhistory hundo hredo => simp [hfailed, hredo h]
  | unrecorded command hcommand hdone hkeeps heffect hhistory =>
    cases hcommand.symm.trans h
    exact absurd rfl heffect.command_ne.2
  | recorded command hcommand hdone hchanges heffect hhistory =>
    cases hcommand.symm.trans h
    exact absurd rfl heffect.command_ne.2
  | undone hcommand hdone hmove => cases hcommand.symm.trans h
  | redone hcommand hdone hmove => simp [hdone, History.canRedo, (History.redo_eq_ok hmove).1]

end Course

theorem recordChange_of_quiet {session : Session} (quiet : session.store.Quiet)
    (line name : String) (params : Params) (result : CommandResult) :
    ∃ message, recordChange line name params result session =
      (result,
        { session with
          history := session.history.record ⟨some name, params, session.store.slides⟩ }.logged
            .info message) := by
  simp only [recordChange, quiet.run_read]
  exact ⟨_, rfl⟩

section

variable {session : Session} {line : String} {command : Command}

theorem course_of_command (quiet : session.store.Quiet)
    (hcommand : session.commandOf line = some command)
    (hundo : command ≠ .undo) (hredo : command ≠ .redo) :
    (run line session).2.store.Quiet ∧
      Course session line (run line session).1 (run line session).2 := by
  have hanswers : Answers (CommandLine.ofText line).params command session _ _ :=
    perform_answers quiet hundo hredo
  rcases hperform : perform (CommandLine.ofText line).params command session with ⟨result, after⟩
  rw [hperform] at hanswers
  rcases hanswers with ⟨hfailed, rfl⟩ | ⟨hdone, deck, notices, heffect, rfl⟩
  · obtain ⟨message, hrun⟩ := run_of_failed hcommand hperform hfailed
    rw [hrun]
    refine ⟨quiet, .failed hfailed rfl rfl ?_ ?_⟩
    · intro h
      exact absurd (Option.some.inj (hcommand.symm.trans h)) hundo
    · intro h
      exact absurd (Option.some.inj (hcommand.symm.trans h)) hredo
  · cases hchanges : command.changesDeck with
    | false =>
      rw [run_of_unrecorded hcommand hperform hdone hchanges]
      exact ⟨quiet, .unrecorded command hcommand hdone hchanges heffect rfl⟩
    | true =>
      have hshowing : (session.showing deck notices).store.Quiet := quiet
      obtain ⟨message, hrecord⟩ := recordChange_of_quiet hshowing line
        (session.expandAlias (CommandLine.ofText line).name) (CommandLine.ofText line).params result
      rw [run_of_recorded hcommand hperform hdone hchanges, hrecord]
      exact ⟨quiet, .recorded command hcommand hdone hchanges heffect rfl⟩

/-- Undo and redo in a store without failures: refused by the history, or carried out. -/
theorem run_of_jumps {move : Except HistoryError (Deck × History)} (quiet : session.store.Quiet)
    (hcommand : session.commandOf line = some command) (hkeeps : command.changesDeck = false)
    (hjumps : Jumps session move (perform (CommandLine.ofText line).params command session).1
      (perform (CommandLine.ofText line).params command session).2) :
    (run line session).2.store.Quiet ∧
      ((∃ error, move = .error error) ∧ (run line session).1.success = false ∧
          (run line session).2.store.slides = session.store.slides ∧
          (run line session).2.history = session.history ∨
        (run line session).1.success = true ∧
          move = .ok ((run line session).2.store.slides, (run line session).2.history)) := by
  rcases hperform : perform (CommandLine.ofText line).params command session with ⟨result, after⟩
  rw [hperform] at hjumps
  cases hjumps with
  | refused error hmove hfailed hafter =>
    obtain rfl : after = session := hafter
    obtain ⟨message, hrun⟩ := run_of_failed hcommand hperform hfailed
    rw [hrun]
    exact ⟨quiet, Or.inl ⟨⟨error, hmove⟩, hfailed, rfl, rfl⟩⟩
  | moved slides hmove hslides hbroken hquiet =>
    obtain ⟨hdone, hafter⟩ := hquiet quiet
    obtain rfl := hslides hdone
    rw [run_of_unrecorded hcommand hperform hdone hkeeps]
    exact ⟨hafter, Or.inr ⟨hdone, hmove⟩⟩

theorem course_of_undo (quiet : session.store.Quiet)
    (hcommand : session.commandOf line = some .undo) :
    (run line session).2.store.Quiet ∧
      Course session line (run line session).1 (run line session).2 := by
  obtain ⟨hquiet, ⟨⟨error, hmove⟩, hfailed, hslides, hhistory⟩ | ⟨hdone, hmove⟩⟩ :=
    run_of_jumps quiet hcommand rfl (perform_undo _ session)
  · have hcan := (History.undo_eq_error_iff.1 hmove).2
    refine ⟨hquiet, .failed hfailed hslides hhistory (fun _ => hcan) ?_⟩
    intro h
    cases hcommand.symm.trans h
  · exact ⟨hquiet, .undone hcommand hdone hmove⟩

theorem course_of_redo (quiet : session.store.Quiet)
    (hcommand : session.commandOf line = some .redo) :
    (run line session).2.store.Quiet ∧
      Course session line (run line session).1 (run line session).2 := by
  obtain ⟨hquiet, ⟨⟨error, hmove⟩, hfailed, hslides, hhistory⟩ | ⟨hdone, hmove⟩⟩ :=
    run_of_jumps quiet hcommand rfl (perform_redo _ session)
  · have hcan := (History.redo_eq_error_iff.1 hmove).2
    refine ⟨hquiet, .failed hfailed hslides hhistory ?_ fun _ => hcan⟩
    intro h
    cases hcommand.symm.trans h
  · exact ⟨hquiet, .redone hcommand hdone hmove⟩

/-- In a store without failures a line takes one of five courses, and no failures are to come
after it. -/
theorem run_course (quiet : session.store.Quiet) (line : String) :
    (run line session).2.store.Quiet ∧
      Course session line (run line session).1 (run line session).2 := by
  cases hcommand : session.commandOf line with
  | none =>
    obtain ⟨failure, message, hfailed, hrun⟩ := run_of_unknown hcommand
    rw [hrun]
    refine ⟨quiet, .failed hfailed rfl rfl ?_ ?_⟩ <;>
    · intro h
      cases hcommand.symm.trans h
  | some command =>
    by_cases hundo : command = .undo
    · subst hundo
      exact course_of_undo quiet hcommand
    · by_cases hredo : command = .redo
      · subst hredo
        exact course_of_redo quiet hcommand
      · exact course_of_command quiet hcommand hundo hredo

end

end DeckScript.Session
