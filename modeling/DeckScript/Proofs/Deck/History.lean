import DeckScript.Deck.History
import Mathlib.Data.List.Basic

/-!
# Moving through the history

A history that was started with a deck keeps it as its first snapshot for ever, and
its cursor always stands at one of the snapshots: `Rooted`.  Recording, undo and redo
preserve this.
-/

namespace DeckScript.History

theorem undo_eq_ok {history moved : History} {slides : Deck} (h : history.undo = .ok (slides, moved)) :
    1 < history.cursor ∧ moved = { history with cursor := history.cursor - 1 } ∧
      slides = (moved.current?.map HistoryEntry.slides).getD [] := by
  unfold undo at h
  split at h
  · rename_i hcan
    cases h
    exact ⟨by simpa [canUndo] using hcan, rfl, rfl⟩
  · cases h

theorem redo_eq_ok {history moved : History} {slides : Deck} (h : history.redo = .ok (slides, moved)) :
    history.cursor < history.size ∧ moved = { history with cursor := history.cursor + 1 } ∧
      slides = (moved.current?.map HistoryEntry.slides).getD [] := by
  unfold redo at h
  split at h
  · rename_i hcan
    cases h
    exact ⟨by simpa [canRedo] using hcan, rfl, rfl⟩
  · cases h

theorem undo_eq_error_iff {history : History} {error : HistoryError} :
    history.undo = .error error ↔ error = .nothingToUndo ∧ history.canUndo = false := by
  cases hcan : history.canUndo with
  | true => simp [undo, hcan]
  | false => simp [undo, hcan, eq_comm]

theorem canUndo_eq_false_iff {history : History} :
    history.canUndo = false ↔ history.index ≤ 0 := by
  rw [canUndo, decide_eq_false_iff_not]
  unfold index
  omega

theorem redo_eq_error_iff {history : History} {error : HistoryError} :
    history.redo = .error error ↔ error = .nothingToRedo ∧ history.canRedo = false := by
  cases hcan : history.canRedo with
  | true => simp [redo, hcan]
  | false => simp [redo, hcan, eq_comm]

/-- Undo or redo moves the cursor, to the snapshot `slides`. -/
def Moves (history : History) (slides : Deck) (moved : History) : Prop :=
  history.undo = .ok (slides, moved) ∨ history.redo = .ok (slides, moved)

theorem Moves.entries_eq {history moved : History} {slides : Deck}
    (h : history.Moves slides moved) : moved.entries = history.entries := by
  rcases h with hundo | hredo
  · rw [(undo_eq_ok hundo).2.1]
  · rw [(redo_eq_ok hredo).2.1]

theorem Moves.index_ne {history moved : History} {slides : Deck}
    (h : history.Moves slides moved) : moved.index ≠ history.index := by
  rcases h with hundo | hredo
  · obtain ⟨hcan, rfl, -⟩ := undo_eq_ok hundo
    unfold index
    dsimp only
    omega
  · obtain ⟨-, rfl, -⟩ := redo_eq_ok hredo
    unfold index
    dsimp only
    omega

theorem Moves.slides_eq {history moved : History} {slides : Deck}
    (h : history.Moves slides moved) :
    slides = (moved.current?.map HistoryEntry.slides).getD [] := by
  rcases h with hundo | hredo
  · exact (undo_eq_ok hundo).2.2
  · exact (redo_eq_ok hredo).2.2

theorem current?_record (history : History) (entry : HistoryEntry) :
    (history.record entry).current? = some entry := by
  simp [record, current?]

/-- Recording keeps the snapshots up to the cursor. -/
theorem getElem?_record {history : History} (entry : HistoryEntry)
    (hle : history.cursor ≤ history.size) {position : Nat} (hposition : position < history.cursor) :
    (history.record entry).entries[position]? = history.entries[position]? := by
  have hlt : position < (history.entries.take history.cursor).length := by
    rw [List.length_take]
    exact Nat.lt_min.2 ⟨hposition, Nat.lt_of_lt_of_le hposition hle⟩
  rw [record, List.getElem?_append_left hlt, List.getElem?_take_of_lt hposition]

/-! ## Histories with a baseline -/

/-- The first snapshot is the baseline `deck`, and the cursor stands at a snapshot. -/
structure Rooted (deck : Deck) (history : History) : Prop where
  baseline : history.entries[0]? = some ⟨none, .empty, deck⟩
  cursor_pos : 0 < history.cursor
  cursor_le : history.cursor ≤ history.size

theorem rooted_start (deck : Deck) : (start (some deck)).Rooted deck where
  baseline := rfl
  cursor_pos := Nat.one_pos
  cursor_le := Nat.le_refl 1

namespace Rooted

variable {deck slides : Deck} {history moved : History}

theorem record (rooted : history.Rooted deck) (entry : HistoryEntry) :
    (history.record entry).Rooted deck where
  baseline :=
    (getElem?_record entry rooted.cursor_le rooted.cursor_pos).trans rooted.baseline
  cursor_pos := Nat.succ_pos _
  cursor_le := by simp [History.record, size]

theorem moves (rooted : history.Rooted deck) (h : history.Moves slides moved) :
    moved.Rooted deck := by
  have hle := rooted.cursor_le
  rcases h with hundo | hredo
  · obtain ⟨hcan, rfl, -⟩ := undo_eq_ok hundo
    refine ⟨rooted.baseline, ?_, ?_⟩
    · show 0 < history.cursor - 1
      omega
    · show history.cursor - 1 ≤ history.size
      omega
  · obtain ⟨hcan, rfl, -⟩ := redo_eq_ok hredo
    exact ⟨rooted.baseline, Nat.succ_pos _, hcan⟩

theorem index_nonneg (rooted : history.Rooted deck) : 0 ≤ history.index := by
  have hpos := rooted.cursor_pos
  unfold index
  omega

theorem index_lt (rooted : history.Rooted deck) : history.index < history.size := by
  have hle := rooted.cursor_le
  unfold index
  omega

/-- The snapshot at the index is the current one. -/
theorem getElem?_index (rooted : history.Rooted deck) :
    history.entries[history.index.toNat]? = history.current? := by
  have hpos := rooted.cursor_pos
  have hindex : history.index.toNat = history.cursor - 1 := by
    unfold index
    omega
  rw [current?, if_neg (by omega), hindex]

theorem exists_current? (rooted : history.Rooted deck) :
    ∃ entry, history.current? = some entry := by
  have hpos := rooted.cursor_pos
  have hle := rooted.cursor_le
  have hlt : history.cursor - 1 < history.entries.length := by
    unfold size at hle
    omega
  rw [current?, if_neg (by omega)]
  exact ⟨_, List.getElem?_eq_getElem hlt⟩

/-- Undo and redo hand out the snapshot that they move to. -/
theorem current?_of_moves (rooted : history.Rooted deck) (h : history.Moves slides moved) :
    moved.current?.map HistoryEntry.slides = some slides := by
  obtain ⟨entry, hentry⟩ := (rooted.moves h).exists_current?
  rw [h.slides_eq, hentry]
  rfl

end Rooted

end DeckScript.History
