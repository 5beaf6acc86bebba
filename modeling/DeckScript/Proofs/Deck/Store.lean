import DeckScript.Deck.Store
import DeckScript.Proofs.Attempt

/-!
# What the store does to the deck

Reading and calling listeners never change the deck, whether they fail or not.  A
dispatch that succeeds carries out its action; one that fails has either done nothing
or, if a listener failed, carried out the action as well.

Which call it is that fails can be read off the schedules: `Schedule.failsWithin` looks
some calls ahead, and `CallsPassed` says how many calls were made between two states of
the store, so that a failure later on is one that was scheduled from the start.

Without failures to come, `Store.Quiet`, a dispatch is the action followed by one call
of each listener.
-/

namespace DeckScript

/-! ## Schedules -/

namespace Schedule

/-- Whether one of the next `calls` calls fails. -/
def failsWithin (schedule : Schedule) (calls : Nat) : Bool :=
  match schedule with
  | [] => false
  | (count, _) :: _ => decide (count < calls)

theorem failsWithin_of_next_eq_some {schedule rest : Schedule} {error : Offline}
    (h : schedule.next = (some error, rest)) : schedule.failsWithin 1 = true := by
  rcases schedule with _ | ⟨⟨_ | count, other⟩, later⟩
  · cases h
  · rfl
  · cases h

theorem failsWithin_of_next_eq_none {schedule rest : Schedule}
    (h : schedule.next = (none, rest)) (calls : Nat) :
    rest.failsWithin calls = schedule.failsWithin (1 + calls) := by
  rcases schedule with _ | ⟨⟨_ | count, other⟩, later⟩
  · cases h
    rfl
  · cases h
  · cases h
    simp only [failsWithin, decide_eq_decide]
    omega

theorem failsWithin_mono {schedule : Schedule} {calls more : Nat} (hle : calls ≤ more)
    (h : schedule.failsWithin calls = true) : schedule.failsWithin more = true := by
  rcases schedule with _ | ⟨⟨count, other⟩, later⟩
  · cases h
  · simp only [failsWithin, decide_eq_true_eq] at h ⊢
    omega

end Schedule

namespace Store

/-- So many readings, dispatches and calls of listeners have succeeded between two states of the
store: the failures to come are nearer by as much. -/
structure CallsPassed (store after : Store) (readings dispatches notices : Nat) : Prop where
  listeners : after.listeners = store.listeners
  reading : ∀ calls,
    after.faults.reading.failsWithin calls = store.faults.reading.failsWithin (readings + calls)
  dispatching : ∀ calls,
    after.faults.dispatching.failsWithin calls =
      store.faults.dispatching.failsWithin (dispatches + calls)
  listening : ∀ calls,
    after.faults.listening.failsWithin calls =
      store.faults.listening.failsWithin (notices + calls)

namespace CallsPassed

theorem refl (store : Store) : store.CallsPassed store 0 0 0 where
  listeners := rfl
  reading := by simp
  dispatching := by simp
  listening := by simp

theorem trans {store between after : Store} {r d n r' d' n' : Nat}
    (first : store.CallsPassed between r d n) (second : between.CallsPassed after r' d' n') :
    store.CallsPassed after (r + r') (d + d') (n + n') where
  listeners := second.listeners.trans first.listeners
  reading := by
    intro calls
    rw [second.reading, first.reading, Nat.add_assoc]
  dispatching := by
    intro calls
    rw [second.dispatching, first.dispatching, Nat.add_assoc]
  listening := by
    intro calls
    rw [second.listening, first.listening, Nat.add_assoc]

end CallsPassed

/-! ## Whatever fails -/

theorem read_callsPassed (store : Store) :
    read.Ensures store
      (fun _ after => after.slides = store.slides ∧ store.faults.reading.failsWithin 1 = true)
      fun deck after => deck = store.slides ∧ after.slides = store.slides ∧
        store.CallsPassed after 1 0 0 := by
  simp only [Attempt.Ensures, read]
  rcases hnext : store.faults.reading.next with ⟨_ | error, reading⟩
  · have hcalls : ∀ calls, reading.failsWithin calls =
        store.faults.reading.failsWithin (1 + calls) :=
      Schedule.failsWithin_of_next_eq_none hnext
    exact ⟨rfl, rfl, rfl, hcalls, by simp, by simp⟩
  · exact ⟨rfl, Schedule.failsWithin_of_next_eq_some hnext⟩

theorem notify_callsPassed (listener : Listener) (store : Store) :
    (notify listener).Ensures store
      (fun _ after => after.slides = store.slides ∧ store.faults.listening.failsWithin 1 = true)
      fun _ after => after.slides = store.slides ∧ store.CallsPassed after 0 0 1 := by
  simp only [Attempt.Ensures, notify]
  rcases hnext : store.faults.listening.next with ⟨_ | error, listening⟩
  · have hcalls : ∀ calls, listening.failsWithin calls =
        store.faults.listening.failsWithin (1 + calls) :=
      Schedule.failsWithin_of_next_eq_none hnext
    exact ⟨rfl, rfl, by simp, by simp, hcalls⟩
  · exact ⟨rfl, Schedule.failsWithin_of_next_eq_some hnext⟩

theorem notifyAll_callsPassed (listeners : List Listener) (store : Store) :
    (notifyAll listeners).Ensures store
      (fun _ after => after.slides = store.slides ∧
        store.faults.listening.failsWithin listeners.length = true)
      fun _ after => after.slides = store.slides ∧
        store.CallsPassed after 0 0 listeners.length := by
  induction listeners generalizing store with
  | nil => exact ⟨rfl, .refl store⟩
  | cons listener rest ih =>
    rw [notifyAll, Attempt.ensures_bind]
    refine (notify_callsPassed listener store).mono ?_ ?_
    · rintro _ after ⟨hslides, hfails⟩
      exact ⟨hslides, Schedule.failsWithin_mono (by simp) hfails⟩
    · rintro _ between ⟨hbetween, hpassed⟩
      have hlength : (listener :: rest).length = 1 + rest.length := by
        rw [List.length_cons, Nat.add_comm]
      refine (ih between).mono ?_ ?_
      · rintro _ after ⟨hslides, hfails⟩
        rw [hpassed.listening, ← hlength] at hfails
        exact ⟨hslides.trans hbetween, hfails⟩
      · rintro _ after ⟨hslides, hrest⟩
        rw [hlength]
        exact ⟨hslides.trans hbetween, hpassed.trans hrest⟩

/-- A dispatch that fails has done nothing if it failed on entry or its action was refused, and has
carried out its action if a listener failed. -/
theorem dispatch_callsPassed (action : Action) (store : Store) :
    (dispatch action).Ensures store
      (fun _ after =>
        after.slides = store.slides ∧
            (store.faults.dispatching.failsWithin 1 = true ∨
              ∃ refusal, store.slides.apply action = .error refusal) ∨
          store.slides.apply action = .ok after.slides ∧
            store.faults.listening.failsWithin store.listeners.length = true)
      fun _ after => store.slides.apply action = .ok after.slides ∧
        store.CallsPassed after 0 1 store.listeners.length := by
  simp only [Attempt.Ensures, dispatch]
  rcases hnext : store.faults.dispatching.next with ⟨_ | error, dispatching⟩
  · dsimp only
    cases happly : store.slides.apply action with
    | error refusal => exact Or.inl ⟨rfl, Or.inr ⟨refusal, rfl⟩⟩
    | ok slides =>
      -- from here on only listeners can fail, and they do not touch the deck
      let entered : Store := { store with slides, faults := { store.faults with dispatching } }
      have hentered : store.CallsPassed entered 0 1 0 :=
        ⟨rfl, by simp [entered], Schedule.failsWithin_of_next_eq_none hnext, by simp [entered]⟩
      have hnotify := notifyAll_callsPassed store.listeners entered
      unfold Attempt.Ensures at hnotify
      dsimp only
      rcases hrun : (notifyAll store.listeners).run entered with ⟨_ | _, after⟩ <;>
        rw [hrun] at hnotify
      · obtain ⟨hslides, hfails⟩ := hnotify
        exact Or.inr ⟨congrArg Except.ok hslides.symm, hfails⟩
      · obtain ⟨hslides, hpassed⟩ := hnotify
        have hboth := hentered.trans hpassed
        simp only [Nat.zero_add, Nat.add_zero] at hboth
        exact ⟨congrArg Except.ok hslides.symm, hboth⟩
  · exact Or.inl ⟨rfl, Or.inl (Schedule.failsWithin_of_next_eq_some hnext)⟩

theorem ensures_read (store : Store) :
    read.Ensures store (fun _ after => after.slides = store.slides)
      fun deck after => deck = store.slides ∧ after.slides = store.slides :=
  (read_callsPassed store).mono (fun _ _ h => h.1) fun _ _ h => ⟨h.1, h.2.1⟩

/-! ## Without failures -/

/-- No failures are to come. -/
def Quiet (store : Store) : Prop :=
  store.faults = {}

/-- The calls of listeners made so far once each has been told of the deck `slides`. -/
def noticesAfter (store : Store) (slides : Deck) : Array Notice :=
  store.listeners.foldl (fun notices listener => notices.push ⟨listener, slides⟩) store.notices

theorem Quiet.run_read {store : Store} (quiet : store.Quiet) :
    read.run store = (.ok store.slides, store) := by
  obtain ⟨slides, listeners, nextKey, faults, notices⟩ := store
  obtain rfl : faults = {} := quiet
  rfl

theorem Quiet.run_notifyAll {store : Store} (quiet : store.Quiet) (listeners : List Listener) :
    (notifyAll listeners).run store =
      (.ok (), { store with
        notices := listeners.foldl
          (fun notices listener => notices.push ⟨listener, store.slides⟩) store.notices }) := by
  induction listeners generalizing store with
  | nil => rfl
  | cons listener rest ih =>
    obtain ⟨slides, all, nextKey, faults, notices⟩ := store
    obtain rfl : faults = {} := quiet
    rw [notifyAll, Attempt.run_bind]
    exact ih rfl

theorem Quiet.run_dispatch {store : Store} (quiet : store.Quiet) (action : Action) :
    (dispatch action).run store =
      match store.slides.apply action with
      | .error error => (.error (.refused error), store)
      | .ok slides => (.ok (), { store with slides, notices := store.noticesAfter slides }) := by
  obtain ⟨slides, listeners, nextKey, faults, notices⟩ := store
  obtain rfl : faults = {} := quiet
  simp only [dispatch, Schedule.next]
  cases slides.apply action with
  | error error => rfl
  | ok slides =>
    have hquiet : Quiet { slides, listeners, nextKey, notices } := rfl
    dsimp only
    rw [hquiet.run_notifyAll]
    rfl

end Store

end DeckScript
