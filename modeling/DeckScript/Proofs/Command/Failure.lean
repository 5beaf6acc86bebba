import DeckScript.Proofs.Command.Run

/-!
# What a failure leaves behind

The store may fail at any call, and nothing is rolled back.  What a command line leaves
behind when it reports failure depends on the call that failed, and that call can be
read off the schedules of the store as they were before the line:

* A command that changes the deck never touches the history when it fails.  The deck is
  as it was, unless some of the actions of its plan had been carried out before a later
  call failed; then just these are in effect (`run_change_failed`).
* Undo and redo move the cursor before the store has taken the snapshot.  Refused by the
  history they move nothing; but if the store fails, the cursor has moved although
  failure is reported, with the deck or without it (`run_travel_failed`).
-/

namespace DeckScript.Session

/-! ## Plans that are interrupted -/

/-- The first `carried` actions took effect before a call failed: the dispatch of the next one, or
a listener that was told of one of them. -/
structure Interrupted (store : Store) (actions : List Action) (carried : Nat) (after : Deck) :
    Prop where
  carried_le : carried ≤ actions.length
  slides : store.slides.applyAll (actions.take carried) = .ok after
  cause :
    carried < actions.length ∧ store.faults.dispatching.failsWithin (carried + 1) = true ∨
      store.faults.listening.failsWithin (carried * store.listeners.length) = true

namespace Interrupted

variable {store between : Store} {actions : List Action} {carried : Nat} {after : Deck}

/-- Readings in between make no difference to the actions. -/
theorem of_callsPassed {readings : Nat} (h : Interrupted between actions carried after)
    (hslides : between.slides = store.slides) (hpassed : store.CallsPassed between readings 0 0) :
    Interrupted store actions carried after := by
  have hcause := h.cause
  rw [hpassed.dispatching, hpassed.listening, hpassed.listeners, Nat.zero_add, Nat.zero_add]
    at hcause
  exact ⟨h.carried_le, hslides ▸ h.slides, hcause⟩

/-- Where the rest is interrupted after the first action, the whole is one action later. -/
theorem cons {action : Action} (h : Interrupted between actions carried after)
    (haction : store.slides.apply action = .ok between.slides)
    (hpassed : store.CallsPassed between 0 1 store.listeners.length) :
    Interrupted store (action :: actions) (carried + 1) after where
  carried_le := by simpa using h.carried_le
  slides := by
    rw [List.take_succ_cons, Deck.applyAll_cons haction]
    exact h.slides
  cause := by
    have hcalls : store.listeners.length + carried * store.listeners.length =
        (carried + 1) * store.listeners.length := by
      rw [Nat.add_mul, Nat.one_mul, Nat.add_comm]
    have hcause := h.cause
    rw [hpassed.dispatching, hpassed.listening, hpassed.listeners, hcalls, Nat.add_comm 1]
      at hcause
    simpa using hcause

theorem of_zero (h : Interrupted store actions 0 after) : after = store.slides := by
  have hslides := h.slides
  rw [List.take_zero, Deck.applyAll_nil] at hslides
  exact (Except.ok.inj hslides).symm

end Interrupted

/-- Actions that the deck does not refuse, one after the other. -/
theorem ensures_act {session : Session} {actions : List Action} {deck : Deck}
    (h : session.store.slides.applyAll actions = .ok deck) (result : CommandResult) :
    (act actions result).Ensures session
      (fun _ after => ∃ carried, Interrupted session.store actions carried after.store.slides)
      fun answer after => answer = result ∧ after.store.slides = deck ∧
        session.store.CallsPassed after.store 0 actions.length
          (actions.length * session.store.listeners.length) := by
  induction actions generalizing session with
  | nil =>
    have hdeck : session.store.slides = deck := Except.ok.inj h
    refine ⟨rfl, hdeck, ?_⟩
    simpa using Store.CallsPassed.refl session.store
  | cons action rest ih =>
    obtain ⟨first, haction, hrest⟩ := Deck.exists_of_applyAll_cons h
    rw [act, Attempt.ensures_bind, dispatch, Attempt.ensures_on]
    refine (Store.dispatch_callsPassed action session.store).mono ?_ ?_
    · rintro error after (⟨hslides, hentry | ⟨refusal, hrefused⟩⟩ | ⟨hdone, hlistener⟩)
      · have hnone : session.store.slides.applyAll [] = .ok after.slides :=
          congrArg Except.ok hslides.symm
        exact ⟨0, Nat.zero_le _, hnone, Or.inl ⟨by simp, hentry⟩⟩
      · cases haction.symm.trans hrefused
      · have hone : session.store.slides.applyAll [action] = .ok after.slides :=
          Deck.applyAll_cons hdone []
        exact ⟨1, by simp, by simpa using hone, Or.inr (by simpa using hlistener)⟩
    · rintro _ between ⟨hdone, hpassed⟩
      obtain rfl : between.slides = first := Except.ok.inj (hdone.symm.trans haction)
      refine (@ih { session with store := between } hrest).mono ?_ ?_
      · rintro error after ⟨carried, hinterrupted⟩
        exact ⟨carried + 1, hinterrupted.cons hdone hpassed⟩
      · rintro answer after ⟨hanswer, hslides, hlater⟩
        refine ⟨hanswer, hslides, ?_⟩
        have hcalls : session.store.listeners.length +
            rest.length * session.store.listeners.length =
              (action :: rest).length * session.store.listeners.length := by
          rw [List.length_cons, Nat.add_mul, Nat.one_mul, Nat.add_comm]
        have hboth := hpassed.trans hlater
        rw [hpassed.listeners, hcalls, Nat.add_comm 1, Nat.zero_add] at hboth
        exact hboth

/-! ## Commands that follow a plan -/

/-- The ways for a command to end that reads the deck once and follows a plan. -/
inductive Ending (plan : List Action → Prop) (session : Session) (result : CommandResult)
    (after : Session) : Prop
  | untouched (hfailed : result.success = false)
      (hslides : after.store.slides = session.store.slides)
  | interrupted (hfailed : result.success = false) (actions : List Action) (carried : Nat)
      (hplan : plan actions)
      (hinterrupted : Interrupted session.store actions carried after.store.slides)
  | carriedOut (hdone : result.success = true) (actions : List Action) (notices : Nat)
      (hplan : plan actions)
      (hslides : session.store.slides.applyAll actions = .ok after.store.slides)
      (hpassed : session.store.CallsPassed after.store 1 actions.length notices)

/-- Actions as planned, after the deck was read. -/
theorem ensures_ending_act {plan : List Action → Prop} {session between : Session}
    (hslides : between.store.slides = session.store.slides)
    (hpassed : session.store.CallsPassed between.store 1 0 0) {actions : List Action}
    (planned : plan actions) {deck : Deck}
    (hdeck : session.store.slides.applyAll actions = .ok deck) (code : ErrorCode)
    (output : String) (result : Value) :
    (act actions (.ok output result)).Ensures between
      (fun _ after => ∀ output, Ending plan session (.failure code output) after)
      (Ending plan session) := by
  have hact : between.store.slides.applyAll actions = .ok deck := hslides ▸ hdeck
  refine (ensures_act hact (.ok output result)).mono ?_ ?_
  · rintro error after ⟨carried, hinterrupted⟩ output
    exact .interrupted rfl actions carried planned (hinterrupted.of_callsPassed hslides hpassed)
  · rintro answer after ⟨rfl, hafter, hlater⟩
    have hboth := hpassed.trans hlater
    rw [Nat.add_zero, Nat.zero_add, Nat.zero_add] at hboth
    exact .carriedOut rfl actions _ planned (hafter ▸ hdeck) hboth

theorem Follows.ensures_ending {plan : Deck → List Action → Prop} {step : Step CommandResult}
    (h : Follows plan step) (code : ErrorCode) (session : Session)
    (hplan : ∀ actions, plan session.store.slides actions →
      ∃ deck, session.store.slides.applyAll actions = .ok deck) :
    step.Ensures session
      (fun _ after => ∀ output,
        Ending (plan session.store.slides) session (.failure code output) after)
      (Ending (plan session.store.slides) session) := by
  refine h.ensures (fun _ _ => .untouched rfl rfl) (fun _ _ => .untouched rfl rfl) ?_
  rw [readDeck, Attempt.ensures_on]
  refine (Store.read_callsPassed session.store).mono ?_ ?_
  · rintro error after ⟨hslides, -⟩ output
    exact .untouched rfl hslides
  · rintro deck between ⟨rfl, hslides, hpassed⟩ next hnext
    refine hnext.ensures (fun _ _ => .untouched rfl hslides) (fun _ _ => .untouched rfl hslides) ?_
    intro actions planned output result
    obtain ⟨deck, hdeck⟩ := hplan actions planned
    exact ensures_ending_act hslides hpassed planned hdeck code output result

theorem perform_ending (params : Params) {command : Command} (hundo : command ≠ .undo)
    (hredo : command ≠ .redo) (session : Session) :
    Ending (Plan params session.store.slides command) session
      (perform params command session).1 (perform params command session).2 := by
  obtain ⟨code, what, step, hperform, hfollows⟩ := perform_follows params hundo hredo
  have hstep := hfollows.ensures_ending code session fun _ hplan => hplan.exists_applyAll
  rw [hperform]
  exact guarded_of_ensures hstep what

/-! ## Lines that change the deck -/

/-- A success that turns into a failure: the deck could not be read for the snapshot. -/
theorem recordChange_of_failed {line name : String} {params : Params} {result : CommandResult}
    {session : Session} (hdone : result.success = true)
    (hfailed : (recordChange line name params result session).1.success = false) :
    (recordChange line name params result session).2.history = session.history ∧
      (recordChange line name params result session).2.store.slides = session.store.slides ∧
      session.store.faults.reading.failsWithin 1 = true := by
  have hread := Store.read_callsPassed session.store
  unfold Attempt.Ensures at hread
  unfold recordChange at hfailed ⊢
  rcases hrun : Store.read.run session.store with ⟨error | deck, store⟩ <;>
    rw [hrun] at hread hfailed
  · exact ⟨rfl, hread⟩
  · exact absurd (hdone.symm.trans hfailed) (by decide)

/-- A command that changes the deck and reports failure leaves the history as it was.  It leaves the
deck as it was as well, unless a call of the store failed after an action had been carried out: in
the midst of the plan, or at the end of it when the deck was read once more.  What was carried out
stays. -/
theorem run_change_failed {session : Session} {line : String} {command : Command}
    (hcommand : session.commandOf line = some command) (hchanges : command.changesDeck = true)
    (hfailed : (run line session).1.success = false) :
    let after := (run line session).2
    after.history = session.history ∧
      (after.store.slides = session.store.slides ∨
        ∃ actions, Plan (CommandLine.ofText line).params session.store.slides command actions ∧
          ((∃ carried > 0, Interrupted session.store actions carried after.store.slides) ∨
            session.store.slides.applyAll actions = .ok after.store.slides ∧
              session.store.faults.reading.failsWithin 2 = true)) := by
  have hundo : command ≠ .undo := by
    rintro rfl
    cases hchanges
  have hredo : command ≠ .redo := by
    rintro rfl
    cases hchanges
  have hhistory := history_perform (CommandLine.ofText line).params session hundo hredo
  have hending := perform_ending (CommandLine.ofText line).params hundo hredo session
  rcases hperform : perform (CommandLine.ofText line).params command session with ⟨result, after⟩
  rw [hperform] at hhistory hending
  cases hending with
  | untouched hresult hslides =>
    obtain ⟨message, hrun⟩ := run_of_failed hcommand hperform hresult
    rw [hrun]
    exact ⟨hhistory, Or.inl hslides⟩
  | interrupted hresult actions carried hplan hinterrupted =>
    obtain ⟨message, hrun⟩ := run_of_failed hcommand hperform hresult
    rw [hrun]
    refine ⟨hhistory, ?_⟩
    rcases Nat.eq_zero_or_pos carried with rfl | hpos
    · exact Or.inl hinterrupted.of_zero
    · exact Or.inr ⟨actions, hplan, Or.inl ⟨carried, hpos, hinterrupted⟩⟩
  | carriedOut hresult actions notices hplan hslides hpassed =>
    -- the command itself succeeded, so it was the snapshot that failed
    rw [run_of_recorded hcommand hperform hresult hchanges] at hfailed ⊢
    obtain ⟨hkept, hsame, hreading⟩ := recordChange_of_failed hresult hfailed
    rw [hpassed.reading] at hreading
    exact ⟨hkept.trans hhistory, Or.inr ⟨actions, hplan, Or.inr ⟨hsame ▸ hslides, hreading⟩⟩⟩

/-- A session on two slides with a listener; the store fails as told. -/
def unreliable (faults : Faults) : Session where
  store :=
    { slides := [{ id := "overview", active := true }, { id := "agenda" }]
      listeners := [⟨0, "view"⟩], nextKey := 1, faults }
  history := .start (some [{ id := "overview", active := true }, { id := "agenda" }])
  now := .int 1

/-- The second dispatch fails: the slide is not deleted, but it has become the active one. -/
theorem run_change_failed_halfDeleted :
    let session := unreliable { dispatching := .after 1 ⟨"store offline"⟩ }
    let after := (run "delete-slide number=1" session).2
    (run "delete-slide number=1" session).1.success = false ∧
      after.history = session.history ∧
      after.store.slides = [{ id := "overview" }, { id := "agenda", active := true }] ∧
      ∃ actions, Plan (CommandLine.ofText "delete-slide number=1").params session.store.slides
          .deleteSlide actions ∧
        ∃ carried > 0, Interrupted session.store actions carried after.store.slides := by
  intro session after
  have hcommand : session.commandOf "delete-slide number=1" = some .deleteSlide := by decide
  have hfailed : (run "delete-slide number=1" session).1.success = false := by decide
  have hslides : after.store.slides =
      [{ id := "overview" }, { id := "agenda", active := true }] := by decide
  obtain ⟨hhistory, hsame | ⟨actions, hplan, hinterrupted | ⟨-, hreading⟩⟩⟩ :=
    run_change_failed hcommand rfl hfailed
  · exact absurd (hslides.symm.trans hsame) (by decide)
  · exact ⟨hfailed, hhistory, hslides, actions, hplan, hinterrupted⟩
  · cases hreading

/-- A change that is reported as a failure may have been made: a listener fails, and the title is
the new one all the same. -/
theorem not_forall_run_change_failed_untouched :
    ¬∀ (session : Session) (line : String) (command : Command),
      session.commandOf line = some command → command.changesDeck = true →
      (run line session).1.success = false →
      (run line session).2.store.slides = session.store.slides ∧
        (run line session).2.history = session.history := by
  intro h
  let session := unreliable { listening := .after 0 ⟨"view closed"⟩ }
  have hcommand : session.commandOf "set-slide-title text=Start" = some .setSlideTitle := by
    decide
  have hfailed : (run "set-slide-title text=Start" session).1.success = false := by decide
  have hslides : (run "set-slide-title text=Start" session).2.store.slides =
      [{ id := "overview", title := "Start", active := true }, { id := "agenda" }] := by decide
  obtain ⟨hsame, -⟩ := h session _ _ hcommand rfl hfailed
  exact absurd (hslides.symm.trans hsame) (by decide)

/-! ## Undo and redo -/

/-- The move that undo or redo makes in the history. -/
def moveOf? : Command → Option (History → Except HistoryError (Deck × History))
  | .undo => some History.undo
  | .redo => some History.redo
  | _ => none

section

variable {session : Session} {command : Command}
  {move : History → Except HistoryError (Deck × History)}

theorem perform_jumps (params : Params) (h : moveOf? command = some move) :
    Jumps session (move session.history) (perform params command session).1
      (perform params command session).2 := by
  cases command with
  | undo =>
    cases h
    exact perform_undo params session
  | redo =>
    cases h
    exact perform_redo params session
  | _ => cases h

theorem moves_of_moveOf? (h : moveOf? command = some move) {history moved : History}
    {slides : Deck} (hmove : move history = .ok (slides, moved)) :
    history.Moves slides moved := by
  cases command with
  | undo =>
    cases h
    exact Or.inl hmove
  | redo =>
    cases h
    exact Or.inr hmove
  | _ => cases h

/-- Undo and redo that report failure keep the snapshots.  Refused by the history, they leave the
cursor and the deck alone; if the store fails, the cursor has moved all the same, and the deck has
only if it was a listener that failed. -/
theorem run_travel_failed {line : String} (hcommand : session.commandOf line = some command)
    (hmoves : moveOf? command = some move) (hfailed : (run line session).1.success = false) :
    let after := (run line session).2
    after.history.entries = session.history.entries ∧
      ((∃ error, move session.history = .error error) ∧ after.history = session.history ∧
          after.store.slides = session.store.slides ∨
        ∃ slides, move session.history = .ok (slides, after.history) ∧
          after.history.index ≠ session.history.index ∧
          ReplaceFailed session.store slides after.store.slides) := by
  have hjumps := @perform_jumps session command move (CommandLine.ofText line).params hmoves
  have hkeeps : command.changesDeck = false := by
    cases command <;> first | rfl | cases hmoves
  rcases hperform : perform (CommandLine.ofText line).params command session with ⟨result, after⟩
  rw [hperform] at hjumps
  have hresult : result.success = false := by
    cases hdone : result.success with
    | false => rfl
    | true =>
      rw [run_of_unrecorded hcommand hperform hdone hkeeps] at hfailed
      exact hdone.symm.trans hfailed
  obtain ⟨message, hrun⟩ := run_of_failed hcommand hperform hresult
  rw [hrun]
  cases hjumps with
  | refused error hmove _ hafter =>
    obtain rfl : after = session := hafter
    exact ⟨rfl, Or.inl ⟨⟨error, hmove⟩, rfl, rfl⟩⟩
  | moved slides hmove hslides hbroken hquiet =>
    have hmoved := moves_of_moveOf? hmoves hmove
    exact ⟨hmoved.entries_eq, Or.inr ⟨slides, hmove, hmoved.index_ne, hbroken hresult⟩⟩

end

/-- A session in which a title was changed, and whose store fails at the next dispatch. -/
def offlineAfterChange : Session :=
  let after := (run "set-slide-title text=Start" (unreliable {})).2
  { after with store.faults.dispatching := .after 0 ⟨"store offline"⟩ }

/-- The store fails on entry: the cursor is at the baseline, but the title is still the new one. -/
theorem run_travel_failed_offline :
    let after := (run "undo" offlineAfterChange).2
    (run "undo" offlineAfterChange).1.success = false ∧
      offlineAfterChange.history.cursor = 2 ∧ after.history.cursor = 1 ∧
      after.store.slides = offlineAfterChange.store.slides ∧
      ∃ slides, offlineAfterChange.history.undo = .ok (slides, after.history) ∧
        after.store.slides ≠ slides := by
  intro after
  have hcommand : offlineAfterChange.commandOf "undo" = some .undo := by decide
  have hfailed : (run "undo" offlineAfterChange).1.success = false := by decide
  have hbefore : offlineAfterChange.history.cursor = 2 := by decide
  have hafter : after.history.cursor = 1 := by decide
  obtain ⟨-, ⟨-, hhistory, -⟩ | ⟨slides, hmove, -, ⟨-, hslides⟩ | ⟨hlistener, -⟩⟩⟩ :=
    run_travel_failed hcommand rfl hfailed
  · rw [show after.history = _ from hhistory, hbefore] at hafter
    cases hafter
  · refine ⟨hfailed, hbefore, hafter, hslides, slides, hmove, ?_⟩
    rw [(History.undo_eq_ok hmove).2.2]
    decide
  · exact absurd hlistener (by decide)

/-- The cursor need not be where it was after an undo that reports failure. -/
theorem not_forall_run_travel_failed_untouched :
    ¬∀ (session : Session) (line : String),
      session.commandOf line = some .undo ∨ session.commandOf line = some .redo →
      (run line session).1.success = false →
      (run line session).2.history.index = session.history.index ∧
        (run line session).2.history.entries = session.history.entries ∧
        (run line session).2.store.slides = session.store.slides := by
  intro h
  have hcommand : offlineAfterChange.commandOf "undo" = some .undo := by decide
  have hfailed : (run "undo" offlineAfterChange).1.success = false := by decide
  have hindex : (run "undo" offlineAfterChange).2.history.index ≠
      offlineAfterChange.history.index := by decide
  exact hindex (h offlineAfterChange "undo" (Or.inl hcommand) hfailed).1

end DeckScript.Session
