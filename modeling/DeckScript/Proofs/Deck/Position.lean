import DeckScript.Proofs.Deck.Action
import Mathlib.Data.List.Nodup

/-!
# Slides by position

A command is given a position, but the actions that it dispatches name a slide by its
id or by its flag, and the deck is searched for it again.  Where ids are distinct the
search comes back to the position, so each action has a description by position alone:

* `updateFirst_eq_modify`: an edit changes the slide at the position;
* `activate_eq_onlyActive`: exactly the slide at the position becomes active;
* `apply_deleteActive_activate`: activation and deletion together take out the slide
  at the position and leave exactly the one before it active.
-/

namespace DeckScript.Deck

/-- The deck with the slide at a position active, and no other. -/
def onlyActive (deck : Deck) (index : Nat) : Deck :=
  deck.mapIdx fun place slide => { slide with active := place == index }

@[simp] theorem onlyActive_nil (index : Nat) : onlyActive [] index = [] := rfl

@[simp] theorem onlyActive_cons_zero (slide : Slide) (rest : Deck) :
    onlyActive (slide :: rest) 0 = { slide with active := true } :: rest.unflagged := by
  have hrest : rest.mapIdx (fun _ other => { other with active := false }) = rest.unflagged := by
    apply List.ext_getElem?
    intro place
    simp [unflagged]
  simpa [onlyActive] using hrest

@[simp] theorem onlyActive_cons_succ (slide : Slide) (rest : Deck) (index : Nat) :
    onlyActive (slide :: rest) (index + 1) =
      { slide with active := false } :: onlyActive rest index := by
  simp [onlyActive]

/-! ## An id that was read off a position -/

section

variable {deck : Deck} {index : Nat} {slide : Slide}

theorem id_ne_of_getElem?_succ {first : Slide} (hids : (ids (first :: deck)).Nodup)
    (hslide : deck[index]? = some slide) : first.id ≠ slide.id := by
  intro hsame
  have hmem : first.id ∈ deck.ids := hsame ▸ id_mem_ids (List.mem_of_getElem? hslide)
  exact (List.nodup_cons.1 hids).1 hmem

theorem updateFirst_eq_modify (hids : deck.ids.Nodup) (hslide : deck[index]? = some slide)
    (change : Slide → Slide) :
    deck.updateFirst slide.id change = deck.modify index change := by
  induction deck generalizing index with
  | nil => simp at hslide
  | cons first rest ih =>
    have hrest : (ids rest).Nodup := (List.nodup_cons.1 hids).2
    cases index with
    | zero =>
      obtain rfl : first = slide := by simpa using hslide
      simp [updateFirst]
    | succ index =>
      have hslide' : rest[index]? = some slide := by simpa using hslide
      -- the search passes over the first slide, whose id is another one
      have hne : first.id ≠ slide.id := id_ne_of_getElem?_succ hids hslide'
      simp [updateFirst, hne, ih hrest hslide']

theorem activate_eq_unflagged {id : String} (h : id ∉ deck.ids) :
    deck.activate id = deck.unflagged := by
  unfold activate unflagged
  apply List.map_congr_left
  intro other hother
  have hne : other.id ≠ id := by
    intro hsame
    exact h (hsame ▸ id_mem_ids hother)
  simp [hne]

theorem activate_eq_onlyActive (hids : deck.ids.Nodup) (hslide : deck[index]? = some slide) :
    deck.activate slide.id = deck.onlyActive index := by
  induction deck generalizing index with
  | nil => rfl
  | cons first rest ih =>
    obtain ⟨hfirst, hrest⟩ := List.nodup_cons.1 hids
    cases index with
    | zero =>
      obtain rfl : first = slide := by simpa using hslide
      rw [onlyActive_cons_zero, ← activate_eq_unflagged hfirst]
      simp [activate]
    | succ index =>
      have hslide' : rest[index]? = some slide := by simpa using hslide
      have hne : first.id ≠ slide.id := id_ne_of_getElem?_succ hids hslide'
      rw [onlyActive_cons_succ, ← ih hrest hslide']
      simp [activate, hne]

end

/-! ## Deletion -/

/-- Without the active slide no slide is active. -/
theorem eraseIdx_onlyActive (deck : Deck) (index : Nat) :
    (deck.onlyActive index).eraseIdx index = unflagged (deck.eraseIdx index) := by
  induction deck generalizing index with
  | nil => simp [unflagged]
  | cons slide rest ih =>
    cases index with
    | zero => simp
    | succ index =>
      have hrest := ih index
      simp only [unflagged] at hrest
      simp [unflagged, hrest]

theorem flagAt_unflagged (deck : Deck) (index : Nat) :
    flagAt deck.unflagged index = deck.onlyActive index := by
  induction deck generalizing index with
  | nil => simp [flagAt, unflagged]
  | cons slide rest ih =>
    cases index with
    | zero => simp [flagAt, unflagged]
    | succ index =>
      have hrest := ih index
      simp only [flagAt, unflagged] at hrest
      simp [flagAt, unflagged, hrest]

theorem apply_deleteActive_activate {deck : Deck} {index : Nat} {slide : Slide}
    (hids : deck.ids.Nodup) (hslide : deck[index]? = some slide) :
    (deck.activate slide.id).apply .deleteActive =
      .ok (onlyActive (deck.eraseIdx index) (index - 1)) := by
  rw [apply_deleteActive (activeIndex?_activate hids hslide), deleteAt_eq,
    activate_eq_onlyActive hids hslide, eraseIdx_onlyActive, flagAt_unflagged]

end DeckScript.Deck
