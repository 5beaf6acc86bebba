import DeckScript.Proofs.Deck.History
import Mathlib.Data.List.Induction

/-!
# The cursor of a history

A history is used by three kinds of calls: a snapshot is recorded, undone or redone.  It
may have been created without a baseline, and then there is no snapshot at first and undo
and redo are refused.  This file is about runs of such calls, those that are refused
included.

## Strategy

Apart from the empty history, calls only lead to histories whose cursor stands at some
snapshot: `focused earlier current later`.  On these the three calls are equations
between lists.  Recording puts `current` at the end of what is earlier and forgets what
is later; undo and redo carry one snapshot across.  `Placed` holds of the two kinds of
histories and of no others; each call keeps it, so it holds after every run, and the laws
in `ran_cursorLaws` are read off the equations.
-/

namespace DeckScript

/-- A call of a history. -/
inductive HistoryCall where
  | record (entry : HistoryEntry)
  | undo
  | redo
deriving Repr

namespace History

/-- What is left after the cursor was to be moved: if it cannot be, everything stays. -/
def settled (history : History) : Except HistoryError (Deck × History) → History
  | .ok (_, moved) => moved
  | .error _ => history

/-- The history after a call. -/
def after (history : History) : HistoryCall → History
  | .record entry => history.record entry
  | .undo => history.settled history.undo
  | .redo => history.settled history.redo

/-- A new history, with a baseline or without, after calls. -/
def ran (baseline : Option Deck) (calls : List HistoryCall) : History :=
  calls.foldl after (start baseline)

/-- Undo several times in a row: the snapshots in the order in which they are handed out, and the
history after the last one.  It fails as soon as one of them does. -/
def undoTimes (history : History) : Nat → Except HistoryError (List Deck × History)
  | 0 => .ok ([], history)
  | count + 1 => do
    let (slides, moved) ← history.undo
    let (others, last) ← moved.undoTimes count
    return (slides :: others, last)

/-! ## Histories with a snapshot at the cursor -/

/-- The cursor stands at `current`. -/
def focused (earlier : List HistoryEntry) (current : HistoryEntry) (later : List HistoryEntry) :
    History :=
  ⟨earlier ++ current :: later, earlier.length + 1⟩

section

variable (earlier later : List HistoryEntry) (before current next entry : HistoryEntry)

@[simp] theorem index_focused : (focused earlier current later).index = earlier.length := by
  simp [index, focused]

@[simp] theorem size_focused :
    (focused earlier current later).size = earlier.length + 1 + later.length := by
  simp [size, focused, Nat.add_assoc, Nat.add_comm 1]

@[simp] theorem entries_focused :
    (focused earlier current later).entries = earlier ++ current :: later := rfl

theorem current?_focused : (focused earlier current later).current? = some current := by
  simp [current?, focused]

theorem getElem?_index_focused :
    (focused earlier current later).entries[(focused earlier current later).index.toNat]? =
      some current := by
  simp

theorem moveTo_focused (history : History)
    (h : { history with cursor := earlier.length + 1 } = focused earlier current later) :
    history.moveTo (earlier.length + 1) = (current.slides, focused earlier current later) := by
  rw [moveTo, h, current?_focused]
  rfl

theorem record_focused :
    (focused earlier current later).record entry = focused (earlier ++ [current]) entry [] := by
  have hkept : (earlier ++ current :: later).take (earlier.length + 1) = earlier ++ [current] := by
    rw [List.append_cons]
    exact List.take_left' (by simp)
  simp only [record, focused, hkept]

theorem undo_focused_nil : (focused [] current later).undo = .error .nothingToUndo := rfl

theorem undo_focused_concat :
    (focused (earlier ++ [before]) current later).undo =
      .ok (before.slides, focused earlier before (current :: later)) := by
  have hcan : (focused (earlier ++ [before]) current later).canUndo = true := by
    simp [canUndo, focused]
  have hcursor : (focused (earlier ++ [before]) current later).cursor - 1 = earlier.length + 1 := by
    simp [focused]
  rw [undo, if_pos hcan, hcursor, moveTo_focused earlier (current :: later) before]
  simp [focused]

theorem redo_focused_nil : (focused earlier current []).redo = .error .nothingToRedo := by
  rw [redo_eq_error_iff]
  simp [canRedo, size, focused]

theorem redo_focused_cons :
    (focused earlier current (next :: later)).redo =
      .ok (next.slides, focused (earlier ++ [current]) next later) := by
  have hcan : (focused earlier current (next :: later)).canRedo = true := by
    simp [canRedo, size, focused]
  have hcursor : (focused earlier current (next :: later)).cursor + 1 =
      (earlier ++ [current]).length + 1 := by
    simp [focused]
  rw [redo, if_pos hcan, hcursor, moveTo_focused (earlier ++ [current]) later next]
  simp [focused]

end

/-! ## Runs -/

/-- The histories that calls can lead to: the empty one, and those with the cursor at a snapshot. -/
inductive Placed : History → Prop
  | empty : Placed {}
  | focused (earlier : List HistoryEntry) (current : HistoryEntry) (later : List HistoryEntry) :
      Placed (focused earlier current later)

namespace Placed

variable {history moved : History} {slides : Deck}

theorem record (placed : history.Placed) (entry : HistoryEntry) :
    (history.record entry).Placed := by
  cases placed with
  | empty => exact .focused [] entry []
  | focused earlier current later =>
    rw [record_focused]
    exact .focused _ entry []

theorem undo (placed : history.Placed) : (history.settled history.undo).Placed := by
  cases placed with
  | empty => exact .empty
  | focused earlier current later =>
    rcases List.eq_nil_or_concat' earlier with rfl | ⟨before, previous, rfl⟩
    · rw [undo_focused_nil]
      exact .focused [] current later
    · rw [undo_focused_concat]
      exact .focused before previous (current :: later)

theorem redo (placed : history.Placed) : (history.settled history.redo).Placed := by
  cases placed with
  | empty => exact .empty
  | focused earlier current later =>
    cases later with
    | nil =>
      rw [redo_focused_nil]
      exact .focused earlier current []
    | cons next rest =>
      rw [redo_focused_cons]
      exact .focused (earlier ++ [current]) next rest

theorem after (placed : history.Placed) (call : HistoryCall) : (history.after call).Placed := by
  cases call with
  | record entry => exact placed.record entry
  | undo => exact placed.undo
  | redo => exact placed.redo

theorem start (baseline : Option Deck) : (start baseline).Placed := by
  cases baseline with
  | none => exact .empty
  | some slides => exact .record .empty _

theorem foldl_after (placed : history.Placed) (calls : List HistoryCall) :
    (calls.foldl History.after history).Placed := by
  induction calls generalizing history with
  | nil => exact placed
  | cons call rest ih => exact ih (placed.after call)

theorem ran (baseline : Option Deck) (calls : List HistoryCall) :
    (ran baseline calls).Placed :=
  (start baseline).foldl_after calls

/-! ## What holds of the cursor -/

theorem index_bounds (placed : history.Placed) :
    -1 ≤ history.index ∧ history.index ≤ (history.size : Int) - 1 := by
  cases placed with
  | empty => decide
  | focused earlier current later =>
    rw [index_focused, size_focused]
    omega

theorem index_eq_neg_one_iff (placed : history.Placed) :
    history.index = -1 ↔ history.entries = [] := by
  cases placed with
  | empty => decide
  | focused earlier current later =>
    rw [index_focused, entries_focused]
    simp

theorem canRedo_eq_false_iff (placed : history.Placed) :
    history.canRedo = false ↔ history.index = (history.size : Int) - 1 := by
  have hle := placed.index_bounds.2
  rw [canRedo, decide_eq_false_iff_not]
  unfold index at hle ⊢
  omega

/-- Redo takes undo back. -/
theorem redo_of_undo (placed : history.Placed) (hundo : history.undo = .ok (slides, moved)) :
    ∃ current, history.entries[history.index.toNat]? = some current ∧
      moved.redo = .ok (current.slides, history) := by
  cases placed with
  | empty => cases hundo
  | focused earlier current later =>
    rcases List.eq_nil_or_concat' earlier with rfl | ⟨before, previous, rfl⟩
    · rw [undo_focused_nil] at hundo
      cases hundo
    · rw [undo_focused_concat] at hundo
      cases hundo
      exact ⟨current, getElem?_index_focused _ later current, redo_focused_cons before later _ _⟩

/-- Undo takes redo back. -/
theorem undo_of_redo (placed : history.Placed) (hredo : history.redo = .ok (slides, moved)) :
    ∃ current, history.entries[history.index.toNat]? = some current ∧
      moved.undo = .ok (current.slides, history) := by
  cases placed with
  | empty => cases hredo
  | focused earlier current later =>
    cases later with
    | nil =>
      rw [redo_focused_nil] at hredo
      cases hredo
    | cons next rest =>
      rw [redo_focused_cons] at hredo
      cases hredo
      exact ⟨current, getElem?_index_focused earlier _ current, undo_focused_concat earlier rest _ _⟩

end Placed

/-! ## Recording -/

theorem canRedo_record (history : History) (entry : HistoryEntry) :
    (history.record entry).canRedo = false := by
  simp [canRedo, record, size]

/-- Several snapshots recorded one after the other stand between the old cursor and the new one. -/
theorem foldl_record_focused (earlier later recorded : List HistoryEntry)
    (current last : HistoryEntry) :
    (recorded ++ [last]).foldl record (focused earlier current later) =
      focused (earlier ++ current :: recorded) last [] := by
  induction recorded generalizing earlier current later with
  | nil => exact record_focused earlier later current last
  | cons entry rest ih =>
    rw [List.cons_append, List.foldl_cons, record_focused, ih, List.append_assoc]
    rfl

/-- Undo goes through the snapshots before the cursor, the latest first. -/
theorem undoTimes_focused (earlier later passed : List HistoryEntry)
    (current last : HistoryEntry) :
    (focused (earlier ++ current :: passed) last later).undoTimes (passed.length + 1) =
      .ok ((passed.reverse ++ [current]).map HistoryEntry.slides,
        focused earlier current (passed ++ last :: later)) := by
  -- the last snapshot is undone first, and stands later than the cursor for the others
  induction passed using List.reverseRecOn generalizing last later with
  | nil =>
    rw [undoTimes, undo_focused_concat]
    rfl
  | append_singleton passed entry ih =>
    have hsplit : earlier ++ current :: (passed ++ [entry]) =
        (earlier ++ current :: passed) ++ [entry] := by
      simp
    rw [List.length_append, List.length_singleton, undoTimes, hsplit, undo_focused_concat]
    simp [ih, bind, Except.bind, pure, Except.pure]

/-- As many undos as there were records give back the snapshots in between, and the old cursor. -/
theorem Placed.undoTimes_foldl_record {history : History} (placed : history.Placed)
    (hentries : history.entries ≠ []) {recorded : List HistoryEntry} (hrecorded : recorded ≠ []) :
    ∃ current, history.entries[history.index.toNat]? = some current ∧
      (recorded.foldl History.record history).undoTimes recorded.length =
        .ok ((recorded.dropLast.reverse ++ [current]).map HistoryEntry.slides,
          ⟨(recorded.foldl History.record history).entries, history.cursor⟩) := by
  cases placed with
  | empty => exact absurd rfl hentries
  | focused earlier current later =>
    refine ⟨current, getElem?_index_focused earlier later current, ?_⟩
    rcases List.eq_nil_or_concat' recorded with rfl | ⟨passed, last, rfl⟩
    · exact absurd rfl hrecorded
    · rw [foldl_record_focused, List.dropLast_concat, List.length_append, List.length_singleton,
        undoTimes_focused]
      simp [History.focused]

/-- **The laws of the cursor.**  After any calls of a history, created with a baseline or without:

* the index is that of a snapshot, or `-1` exactly if there is none;
* undo fails exactly if the index is not positive, redo exactly if it is the last one, and then
  nothing changes;
* undo and redo take each other back, and hand out the snapshot that the cursor came from;
* snapshots recorded one after the other are undone the latest first, down to the one that the
  cursor was at before them;
* after recording there is nothing to redo, and the snapshots up to the cursor are still there. -/
theorem ran_cursorLaws (baseline : Option Deck) (calls : List HistoryCall) :
    let history := ran baseline calls
    (-1 ≤ history.index ∧ history.index ≤ (history.size : Int) - 1 ∧
      (history.index = -1 ↔ history.entries = [])) ∧
    ((∀ error, history.undo = .error error ↔ error = .nothingToUndo ∧ history.index ≤ 0) ∧
      (history.index ≤ 0 → history.after .undo = history)) ∧
    ((∀ error, history.redo = .error error ↔
        error = .nothingToRedo ∧ history.index = (history.size : Int) - 1) ∧
      (history.index = (history.size : Int) - 1 → history.after .redo = history)) ∧
    (∀ slides moved, history.undo = .ok (slides, moved) →
      ∃ current, history.entries[history.index.toNat]? = some current ∧
        moved.redo = .ok (current.slides, history)) ∧
    (∀ slides moved, history.redo = .ok (slides, moved) →
      ∃ current, history.entries[history.index.toNat]? = some current ∧
        moved.undo = .ok (current.slides, history)) ∧
    (∀ recorded : List HistoryEntry, history.entries ≠ [] → recorded ≠ [] →
      ∃ current, history.entries[history.index.toNat]? = some current ∧
        (recorded.foldl record history).undoTimes recorded.length =
          .ok ((recorded.dropLast.reverse ++ [current]).map HistoryEntry.slides,
            ⟨(recorded.foldl record history).entries, history.cursor⟩)) ∧
    ∀ entry, (history.record entry).redo = .error .nothingToRedo ∧
      ∀ position : Nat, (position : Int) ≤ history.index →
        (history.record entry).entries[position]? = history.entries[position]? := by
  intro history
  have placed : history.Placed := .ran baseline calls
  have hundo (error : HistoryError) : history.undo = .error error ↔
      error = .nothingToUndo ∧ history.index ≤ 0 := by
    rw [undo_eq_error_iff, canUndo_eq_false_iff]
  have hredo (error : HistoryError) : history.redo = .error error ↔
      error = .nothingToRedo ∧ history.index = (history.size : Int) - 1 := by
    rw [redo_eq_error_iff, placed.canRedo_eq_false_iff]
  refine ⟨⟨placed.index_bounds.1, placed.index_bounds.2, placed.index_eq_neg_one_iff⟩,
    ⟨hundo, ?_⟩, ⟨hredo, ?_⟩, fun _ _ => placed.redo_of_undo, fun _ _ => placed.undo_of_redo,
    fun _ hentries => placed.undoTimes_foldl_record hentries, ?_⟩
  · intro hindex
    rw [after, (hundo _).2 ⟨rfl, hindex⟩]
    rfl
  · intro hindex
    rw [after, (hredo _).2 ⟨rfl, hindex⟩]
    rfl
  · intro entry
    refine ⟨redo_eq_error_iff.2 ⟨rfl, canRedo_record history entry⟩, ?_⟩
    intro position hposition
    have hle := placed.index_bounds.2
    unfold index at hposition hle
    apply getElem?_record entry
    · omega
    · omega

/-- A snapshot of a deck of one slide. -/
def snapshotOf (id : String) : HistoryEntry :=
  ⟨some "new-slide", .empty, [{ id }]⟩

/-- Undo is refused at first, then `c` takes the place of `b`, which cannot be redone. -/
def recordedAnew : List HistoryCall :=
  [.undo, .record (snapshotOf "a"), .record (snapshotOf "b"), .undo, .record (snapshotOf "c"), .redo]

/-- Without a baseline: two more snapshots are undone down to `c`, and from there undo and redo go to
`a` and back. -/
theorem ran_cursorLaws_recordedAnew :
    let history := ran none recordedAnew
    history.index = 1 ∧ history.size = 2 ∧
      (∃ undone, ([snapshotOf "d", snapshotOf "e"].foldl record history).undoTimes 2 =
        .ok ([[{ id := "d" }], [{ id := "c" }]], undone) ∧ undone.index = 1) ∧
      ∃ moved, history.undo = .ok ([{ id := "a" }], moved) ∧
        moved.redo = .ok ([{ id := "c" }], history) := by
  intro history
  obtain ⟨-, -, -, hredo, -, hundone, -⟩ := ran_cursorLaws none recordedAnew
  refine ⟨by decide, by decide, ?_, ?_⟩
  · obtain ⟨current, hcurrent, hundone⟩ :=
      hundone [snapshotOf "d", snapshotOf "e"] (by decide) (by decide)
    obtain rfl : snapshotOf "c" = current := Option.some.inj hcurrent
    exact ⟨_, hundone, by decide⟩
  · obtain ⟨current, hcurrent, hredo⟩ := hredo _ _ rfl
    obtain rfl : snapshotOf "c" = current := Option.some.inj hcurrent
    exact ⟨_, rfl, hredo⟩

end History

end DeckScript
