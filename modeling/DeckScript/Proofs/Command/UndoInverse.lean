import DeckScript.Proofs.Command.UndoZipper

/-!
# Undo right after a change

The deck before a change is never recorded: undo goes back to the snapshot that was the
present one when the change was made.  The two are the same deck as long as nothing
has strayed from the present, and going to a slide is the one thing that does.  So undo
takes a change back exactly, except that the active slide is the one of the snapshot if
a slide was gone to in between.
-/

namespace DeckScript

theorem Zipper.follow_undo (zipper : Zipper) (slides : Deck) :
    zipper.follow ⟨some .undo, true, slides⟩ = zipper.back := rfl

theorem Zipper.back_push (zipper : Zipper) (deck : Deck) :
    (zipper.push deck).back = ⟨zipper.past, zipper.present, [deck]⟩ := by
  simp [push, back]

namespace Session

/-- Undo right after a change brings back the present from before it. -/
theorem Mirrors.serve_undo_change {deck : Deck} {session : Session} {zipper : Zipper}
    {strayed : Bool} (mirrors : Mirrors deck session zipper strayed) {change undo : Request}
    {command : Command} (hcommand : session.commandOf change.line = some command)
    (hchanges : command.changesDeck = true) (hdone : (session.serve change).1.success = true)
    (hundo : (session.serve change).2.commandOf undo.line = some .undo) :
    ((session.serve change).2.serve undo).1.success = true ∧
      ((session.serve change).2.serve undo).2.store.slides = zipper.present := by
  have hchanged := mirrors.serve change
  dsimp only at hchanged
  rw [hcommand, hdone, Zipper.follow_change hchanges] at hchanged
  -- there is a past now, so undo is not refused
  have hpast : (zipper.push (session.serve change).2.store.slides).past ≠ [] := by
    simp [Zipper.push]
  have hundone := ((hchanged.serve_success undo).1 hundo).2 hpast
  have hmirrors := hchanged.serve undo
  dsimp only at hmirrors
  rw [hundo, hundone, Zipper.follow_undo, Zipper.back_push] at hmirrors
  exact ⟨hundone, hmirrors.exact rfl⟩

/-- Undo right after a change succeeds and takes it back, with the flags unless a slide was gone to
after the deck was last set.  In any case the deck is that of the snapshot at the cursor before
the change. -/
theorem serve_undo_inverts_change (deck : Deck) (listeners : List Listener)
    (aliases : Table String) (idStem : String) (spacing : Int) (now : Number)
    (requests : List Request) (change undo : Request) (command : Command) :
    let session := opened { slides := deck, listeners } aliases idStem spacing now
    let before := session.serveAll requests
    let after := (before.serve change).2
    let restored := (after.serve undo).2
    before.commandOf change.line = some command → command.changesDeck = true →
    (before.serve change).1.success = true → after.commandOf undo.line = some .undo →
      (after.serve undo).1.success = true ∧
        restored.store.slides.unflagged = before.store.slides.unflagged ∧
        ((session.outcomes requests).foldl Outcome.strays false = false →
          restored.store.slides = before.store.slides) ∧
        before.history.current?.map HistoryEntry.slides = some restored.store.slides := by
  dsimp only
  intro hcommand hchanges hdone hundo
  have mirrors := (Mirrors.opened deck listeners aliases idStem spacing now).serveAll requests
  obtain ⟨hundone, hslides⟩ := mirrors.serve_undo_change hcommand hchanges hdone hundo
  rw [hslides]
  refine ⟨hundone, mirrors.unflagged.symm, ?_, mirrors.represents.current?⟩
  intro hexact
  exact (mirrors.exact hexact).symm

/-- A slide was gone to, but undo has set the deck again before the slide is deleted. -/
theorem serve_undo_inverts_change_twoSlides :
    let session := opened { slides := twoSlides, listeners := [] } .empty defaultStem
      defaultSpacing (.int 1)
    let before := session.serveAll
      [⟨"set-slide-title text=Start", .int 2⟩, ⟨"goto-slide number=1", .int 3⟩, ⟨"undo", .int 4⟩]
    let after := (before.serve ⟨"delete-slide number=1", .int 5⟩).2
    after.store.slides = [{ id := "overview", active := true }] ∧
      (after.serve ⟨"undo", .int 6⟩).1.success = true ∧
      (after.serve ⟨"undo", .int 6⟩).2.store.slides = before.store.slides := by
  dsimp only
  obtain ⟨hundone, -, hexact, -⟩ := serve_undo_inverts_change twoSlides [] .empty defaultStem
    defaultSpacing (.int 1)
    [⟨"set-slide-title text=Start", .int 2⟩, ⟨"goto-slide number=1", .int 3⟩, ⟨"undo", .int 4⟩]
    ⟨"delete-slide number=1", .int 5⟩ ⟨"undo", .int 6⟩ .deleteSlide (by decide) rfl (by decide)
    (by decide)
  exact ⟨by decide, hundone, hexact (by decide)⟩

/-- The slide that is active before a change need not be active again after undo: it is not, if it
was gone to. -/
theorem not_forall_serve_undo_restores_flags :
    ¬∀ (deck : Deck) (requests : List Request) (change undo : Request) (command : Command),
      let before := (opened { slides := deck } .empty defaultStem defaultSpacing
        (.int 1)).serveAll requests
      let after := (before.serve change).2
      before.commandOf change.line = some command → command.changesDeck = true →
      (before.serve change).1.success = true → after.commandOf undo.line = some .undo →
        (after.serve undo).1.success = true ∧
          (after.serve undo).2.store.slides = before.store.slides := by
  intro h
  obtain ⟨-, hsame⟩ := h twoSlides [⟨"goto-slide number=1", .int 2⟩]
    ⟨"set-slide-title text=Start", .int 3⟩ ⟨"undo", .int 4⟩ .setSlideTitle (by decide) rfl
    (by decide) (by decide)
  exact absurd hsame (by decide)

end Session

end DeckScript
