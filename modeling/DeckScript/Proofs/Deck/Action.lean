import DeckScript.Deck.Action
import Mathlib.Data.List.InsertIdx
import Mathlib.Data.List.Perm.Basic

/-!
# Actions on a deck

When actions are refused, and what they do to the ids and to the active flags.
-/

namespace DeckScript.Deck

/-- The ids of the slides in order. -/
def ids (deck : Deck) : List String :=
  deck.map Slide.id

/-- The slides with their flags taken down. -/
def unflagged (deck : Deck) : Deck :=
  deck.map fun slide => { slide with active := false }

/-- The number of active slides. -/
def activeCount (deck : Deck) : Nat :=
  deck.countP Slide.active

theorem hasId_eq_true {deck : Deck} {id : String} : deck.hasId id = true ↔ id ∈ deck.ids := by
  simp [hasId, ids]

theorem id_mem_ids {deck : Deck} {slide : Slide} (h : slide ∈ deck) : slide.id ∈ deck.ids :=
  List.mem_map_of_mem h

/-! ## Actions that are not refused -/

section

variable {deck : Deck} {id : String}

theorem apply_editTitle (h : id ∈ deck.ids) (value : String) :
    deck.apply (.edit id "title" value) =
      .ok (deck.updateFirst id fun slide => { slide with title := value }) := by
  simp [apply, hasId_eq_true.2 h]

theorem apply_editContent (h : id ∈ deck.ids) (value : String) :
    deck.apply (.edit id "content" value) =
      .ok (deck.updateFirst id fun slide => { slide with content := value }) := by
  simp [apply, hasId_eq_true.2 h]

theorem apply_activate (h : id ∈ deck.ids) :
    deck.apply (.activate id) = .ok (deck.activate id) := by
  simp [apply, hasId_eq_true.2 h]

theorem apply_deleteActive {index : Nat} (h : deck.activeIndex? = some index) :
    deck.apply .deleteActive = .ok (deck.deleteAt index) := by
  simp [apply, h]

/-- Of a deck with a slide just made active, a slide can be deleted. -/
theorem exists_activeIndex?_activate (h : id ∈ deck.ids) :
    ∃ index, (deck.activate id).activeIndex? = some index := by
  obtain ⟨slide, hslide, rfl⟩ := List.mem_map.1 h
  rw [← Option.isSome_iff_exists]
  simpa [activeIndex?, activate] using ⟨slide, hslide, rfl⟩

end

/-! ## Actions one after the other -/

/-- The deck after several actions, if none of them is refused. -/
def applyAll (deck : Deck) : List Action → Except ActionError Deck
  | [] => .ok deck
  | action :: rest =>
    match deck.apply action with
    | .error error => .error error
    | .ok after => applyAll after rest

@[simp] theorem applyAll_nil (deck : Deck) : deck.applyAll [] = .ok deck := rfl

theorem applyAll_cons {deck between : Deck} {action : Action} (h : deck.apply action = .ok between)
    (rest : List Action) : deck.applyAll (action :: rest) = between.applyAll rest := by
  simp [applyAll, h]

theorem exists_of_applyAll_cons {deck after : Deck} {action : Action} {rest : List Action}
    (h : deck.applyAll (action :: rest) = .ok after) :
    ∃ between, deck.apply action = .ok between ∧ between.applyAll rest = .ok after := by
  cases haction : deck.apply action with
  | error error => simp [applyAll, haction] at h
  | ok between =>
    rw [applyAll_cons haction] at h
    exact ⟨between, rfl, h⟩

/-! ## Flags and ids -/

theorem unflagged_activate (deck : Deck) (id : String) :
    (deck.activate id).unflagged = deck.unflagged := by
  simp [unflagged, activate]

theorem ids_append (deck : Deck) (slide : Slide) : (deck ++ [slide]).ids = deck.ids ++ [slide.id] :=
  by simp [ids]

theorem activeCount_append {slide : Slide} (deck : Deck) (h : slide.active = false) :
    (deck ++ [slide]).activeCount = deck.activeCount := by
  simp [activeCount, h]

section

variable {change : Slide → Slide}

theorem ids_updateFirst (deck : Deck) (id : String) (h : ∀ slide, (change slide).id = slide.id) :
    (deck.updateFirst id change).ids = deck.ids := by
  induction deck with
  | nil => rfl
  | cons slide rest ih =>
    simp only [ids] at ih
    by_cases hid : slide.id = id <;> simp [updateFirst, ids, hid, h, ih]

theorem activeCount_updateFirst (deck : Deck) (id : String)
    (h : ∀ slide, (change slide).active = slide.active) :
    (deck.updateFirst id change).activeCount = deck.activeCount := by
  induction deck with
  | nil => rfl
  | cons slide rest ih =>
    simp only [activeCount] at ih
    by_cases hid : slide.id = id <;>
      simp [updateFirst, activeCount, hid, h, ih, List.countP_cons]

end

theorem ids_activate (deck : Deck) (id : String) : (deck.activate id).ids = deck.ids := by
  simp [ids, activate]

/-- An id makes as many slides active as have it. -/
theorem activeCount_activate (deck : Deck) (id : String) :
    (deck.activate id).activeCount = deck.ids.count id := by
  simp only [activeCount, activate, ids, List.countP_map, List.count_eq_countP]
  rfl

/-! ## Deletion -/

/-- Makes the slide at a position active. -/
def flagAt (deck : Deck) (index : Nat) : Deck :=
  deck.modify index fun slide => { slide with active := true }

theorem deleteAt_eq (deck : Deck) (index : Nat) :
    deck.deleteAt index = flagAt (deck.eraseIdx index) (index - 1) := rfl

theorem ids_flagAt (deck : Deck) (index : Nat) : (deck.flagAt index).ids = deck.ids := by
  induction deck generalizing index with
  | nil => simp [flagAt]
  | cons slide rest ih =>
    cases index with
    | zero => simp [flagAt, ids]
    | succ index => simpa [flagAt, ids] using ih index

theorem activeCount_flagAt_le (deck : Deck) (index : Nat) :
    (deck.flagAt index).activeCount ≤ deck.activeCount + 1 := by
  induction deck generalizing index with
  | nil => simp [flagAt, activeCount]
  | cons slide rest ih =>
    cases index with
    | zero =>
      simp only [flagAt, List.modify_zero_cons, activeCount, List.countP_cons, if_true]
      omega
    | succ index =>
      have hrest := ih index
      simp only [flagAt, activeCount, List.modify_succ_cons, List.countP_cons] at hrest ⊢
      omega

theorem ids_deleteAt (deck : Deck) (index : Nat) :
    (deck.deleteAt index).ids = deck.ids.eraseIdx index := by
  rw [deleteAt_eq, ids_flagAt]
  exact (List.eraseIdx_map _ _ _).symm

/-- Of at most one active slide, one is taken away and one comes anew. -/
theorem activeCount_deleteAt_le {deck : Deck} {index : Nat} (hone : deck.activeCount ≤ 1)
    (hindex : deck.activeIndex? = some index) : (deck.deleteAt index).activeCount ≤ 1 := by
  obtain ⟨hlt, hactive, -⟩ := List.findIdx?_eq_some_iff_getElem.1 hindex
  have hperm : (deck[index] :: deck.eraseIdx index).Perm deck := List.getElem_cons_eraseIdx_perm hlt
  have hcount : deck.activeCount = activeCount (deck.eraseIdx index) + 1 := by
    rw [activeCount, ← hperm.countP_eq, List.countP_cons, if_pos hactive]
    rfl
  have hflag := activeCount_flagAt_le (deck.eraseIdx index) (index - 1)
  rw [deleteAt_eq]
  omega

/-- With distinct ids, the slide that was made active is the one that is deleted. -/
theorem activeIndex?_activate {deck : Deck} (hnodup : deck.ids.Nodup) {index : Nat} {slide : Slide}
    (hslide : deck[index]? = some slide) :
    (deck.activate slide.id).activeIndex? = some index := by
  obtain ⟨other, hother⟩ :=
    exists_activeIndex?_activate (id_mem_ids (List.mem_of_getElem? hslide))
  obtain ⟨hlt, hactive, -⟩ := List.findIdx?_eq_some_iff_getElem.1 hother
  -- the first active slide has the id that was given, and only one slide has it
  have hlength : other < deck.length := by simpa [activate] using hlt
  have hid : deck[other].id = slide.id := by simpa [activate] using hactive
  have hsame : deck.ids[other]? = deck.ids[index]? := by
    simp [ids, hslide, List.getElem?_eq_getElem hlength, hid]
  have hindex : other = index :=
    (List.getElem?_inj (by simpa [ids] using hlength) hnodup).1 hsame
  rw [hother, hindex]

end DeckScript.Deck
