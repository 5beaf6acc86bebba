import DeckScript.Proofs.Command.Requests

/-!
# Store and history under failures

The store may fail at any call, and others may change the deck behind the session's
back, so the deck and the current snapshot can come apart.  They come together again
with the next success: a command that changes the deck records the deck as the store
then has it, and undo and redo set the store to the snapshot that they move to.

All this rests on `HistoryStep`, which holds whatever fails, so nothing has to be known
about where in a command a failure strikes.
-/

namespace DeckScript

/-- What a session may meet. -/
inductive Event where
  /-- A command line. -/
  | request (request : Request)
  /-- An action that others carry out on the store. -/
  | outside (action : Action)
  /-- Another schedule of failures. -/
  | faults (faults : Faults)
deriving Repr

namespace Session

/-- The session after an event. -/
def meet (session : Session) : Event → Session
  | .request request => (session.serve request).2
  | .outside action =>
    { session with store := ((Store.dispatch action).run session.store).2 }
  | .faults faults => { session with store := { session.store with faults } }

/-- The session after events. -/
def meetAll (session : Session) : List Event → Session
  | [] => session
  | event :: rest => (session.meet event).meetAll rest

/-! ## One line -/

namespace HistoryStep

variable {deck : Deck} {session after : Session} {line : String} {result : CommandResult}

theorem rooted (step : HistoryStep session line result after)
    (rooted : session.history.Rooted deck) : after.history.Rooted deck := by
  cases step with
  | kept hhistory hidle =>
    rw [hhistory]
    exact rooted
  | recorded entry hhistory hslides =>
    rw [hhistory]
    exact rooted.record entry
  | moved slides hhistory hslides => exact rooted.moves hhistory

/-- The snapshots stay, or those after the cursor give way to a new one. -/
theorem entries_eq (step : HistoryStep session line result after) :
    after.history.entries = session.history.entries ∨
      ∃ entry, after.history.entries =
        session.history.entries.take session.history.cursor ++ [entry] := by
  cases step with
  | kept hhistory hidle => exact Or.inl (by rw [hhistory])
  | recorded entry hhistory hslides => exact Or.inr ⟨entry, by rw [hhistory, History.record]⟩
  | moved slides hhistory hslides => exact Or.inl hhistory.entries_eq

/-- After a success that sets the deck, the current snapshot is the deck in the store. -/
theorem current?_eq (step : HistoryStep session line result after)
    (rooted : session.history.Rooted deck) {command : Command}
    (hcommand : session.commandOf line = some command)
    (hsets : command.changesDeck = true ∨ command = .undo ∨ command = .redo)
    (hdone : result.success = true) :
    after.history.current?.map HistoryEntry.slides = some after.store.slides := by
  cases step with
  | kept hhistory hidle =>
    -- a line that keeps the history and succeeds was none of these commands
    obtain ⟨hkeeps, hundo, hredo⟩ := hidle hdone command hcommand
    rcases hsets with hchanges | rfl | rfl
    · exact absurd (hkeeps.symm.trans hchanges) (by decide)
    · exact absurd rfl hundo
    · exact absurd rfl hredo
  | recorded entry hhistory hslides =>
    rw [hhistory, History.current?_record, ← hslides]
    rfl
  | moved slides hhistory hslides =>
    rw [hslides hdone]
    exact rooted.current?_of_moves hhistory

end HistoryStep

/-! ## Runs -/

theorem meet_rooted {deck : Deck} {session : Session} (rooted : session.history.Rooted deck)
    (event : Event) : (session.meet event).history.Rooted deck := by
  cases event with
  | request request => exact (session.serve_historyStep request).rooted rooted
  | outside action => exact rooted
  | faults faults => exact rooted

theorem meetAll_rooted {deck : Deck} {session : Session} (rooted : session.history.Rooted deck)
    (events : List Event) : (session.meetAll events).history.Rooted deck := by
  induction events generalizing session with
  | nil => exact rooted
  | cons event rest ih => exact ih (meet_rooted rooted event)

theorem meet_entries_eq (session : Session) (event : Event) :
    (session.meet event).history.entries = session.history.entries ∨
      ∃ entry, (session.meet event).history.entries =
        session.history.entries.take session.history.cursor ++ [entry] := by
  cases event with
  | request request => exact (session.serve_historyStep request).entries_eq
  | outside action => exact Or.inl rfl
  | faults faults => exact Or.inl rfl

/-- Whatever fails and whatever others do, the cursor stays at a snapshot, the first snapshot stays
the baseline, and an event adds at most one snapshot, behind the cursor.  A success of a command
that sets the deck leaves the store with the current snapshot. -/
theorem meet_resynchronises (store : Store) (aliases : Table String) (idStem : String)
    (spacing : Int) (now : Number) (events : List Event) (event : Event) :
    let before := (opened store aliases idStem spacing now).meetAll events
    let after := before.meet event
    0 ≤ after.history.index ∧ after.history.index < after.history.size ∧
      after.history.entries[0]? = some ⟨none, .empty, store.slides⟩ ∧
      (after.history.entries = before.history.entries ∨
        ∃ entry, after.history.entries =
          before.history.entries.take (before.history.index.toNat + 1) ++ [entry]) ∧
      ∀ request command, event = .request request →
        before.commandOf request.line = some command →
        command.changesDeck = true ∨ command = .undo ∨ command = .redo →
        (before.serve request).1.success = true →
        after.history.entries[after.history.index.toNat]?.map HistoryEntry.slides =
          some after.store.slides := by
  intro before after
  have hstart : (opened store aliases idStem spacing now).history.Rooted store.slides :=
    History.rooted_start store.slides
  have hbefore : before.history.Rooted store.slides := meetAll_rooted hstart events
  have hafter : after.history.Rooted store.slides := meet_rooted hbefore event
  have hcursor : before.history.index.toNat + 1 = before.history.cursor := by
    have hpos := hbefore.cursor_pos
    unfold History.index
    omega
  refine ⟨hafter.index_nonneg, hafter.index_lt, hafter.baseline, ?_, ?_⟩
  · rw [hcursor]
    exact meet_entries_eq before event
  · rintro request command rfl hcommand hsets hdone
    rw [hafter.getElem?_index]
    exact (before.serve_historyStep request).current?_eq hbefore hcommand hsets hdone

/-- A title is changed, someone else makes another slide active, and undo fails because the store is
out of reach. -/
def partingEvents : List Event :=
  [.request ⟨"set-slide-title text=Start", .int 2⟩, .outside (.activate "agenda"),
    .faults { dispatching := .after 0 ⟨"store offline"⟩ }, .request ⟨"undo", .int 3⟩]

/-- The cursor has moved back to the baseline, which is not the deck any more.  The next change
takes the place of the first one and records the deck as it is then. -/
theorem meet_resynchronises_partingEvents :
    let store : Store := { slides := [{ id := "overview", active := true }, { id := "agenda" }] }
    let request : Request := ⟨"set-slide-title text=End slideIndex=1", .int 4⟩
    let before := (opened store .empty defaultStem defaultSpacing (.int 1)).meetAll partingEvents
    let after := before.meet (.request request)
    after.history.entries[after.history.index.toNat]?.map HistoryEntry.slides =
        some after.store.slides ∧
      before.history.index = 0 ∧
      before.history.current?.map HistoryEntry.slides ≠ some before.store.slides ∧
      after.history.index = 1 ∧ after.history.size = 2 ∧
      after.store.slides =
        [{ id := "overview", title := "Start" },
          { id := "agenda", title := "End", active := true }] := by
  dsimp only
  obtain ⟨-, -, -, -, hset⟩ := meet_resynchronises
    { slides := [{ id := "overview", active := true }, { id := "agenda" }] } .empty defaultStem
    defaultSpacing (.int 1) partingEvents
    (.request ⟨"set-slide-title text=End slideIndex=1", .int 4⟩)
  have hsame := hset _ .setSlideTitle rfl (by decide +kernel) (.inl rfl) (by decide +kernel)
  refine ⟨hsame, ?_⟩
  decide +kernel

end Session

end DeckScript
