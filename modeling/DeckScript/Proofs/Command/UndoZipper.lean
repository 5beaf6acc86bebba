import DeckScript.Proofs.Command.Requests

/-!
# The undo zipper

Seen from outside, a session is a zipper: the decks before the present one, the
present one, and those that were undone.  A command that changes the deck makes its
outcome the present and forgets what was undone; undo and redo move one deck across.

The zipper needs to know of each line only its `Outcome`: the command, whether it
succeeded, and the deck after it.  The history is the zipper written out in one list.
The deck in the store is the present one, except that moving to a slide changes which
slide is active and is not recorded: after it the two agree up to the flags, until the
deck is set again.

## Strategy

`Zipper.Represents` relates a history to a zipper, `Mirrors` adds the store.  Each of
the five courses of a line is one operation of the zipper, and a run is an induction
over its requests.
-/

namespace DeckScript

/-! ## Zippers -/

/-- Decks in order of time, one of them the present one. -/
structure Zipper where
  past : List Deck
  present : Deck
  future : List Deck
deriving Repr

/-- What is seen from outside of a command line: the command that it stood for, if any, whether it
succeeded, and the deck after it. -/
structure Outcome where
  command : Option Command
  success : Bool
  slides : Deck
deriving Repr

namespace Zipper

def start (deck : Deck) : Zipper :=
  ⟨[], deck, []⟩

/-- All decks in order of time. -/
def decks (zipper : Zipper) : List Deck :=
  zipper.past ++ [zipper.present] ++ zipper.future

/-- A new present; what was undone is forgotten. -/
def push (zipper : Zipper) (deck : Deck) : Zipper :=
  ⟨zipper.past ++ [zipper.present], deck, []⟩

/-- Moves the present to the future. -/
def back (zipper : Zipper) : Zipper :=
  match zipper.past.getLast? with
  | none => zipper
  | some deck => ⟨zipper.past.dropLast, deck, zipper.present :: zipper.future⟩

/-- Moves the present to the past. -/
def forward (zipper : Zipper) : Zipper :=
  match zipper.future with
  | [] => zipper
  | deck :: rest => ⟨zipper.past ++ [zipper.present], deck, rest⟩

/-- The zipper after a command line. -/
def follow (zipper : Zipper) (outcome : Outcome) : Zipper :=
  match outcome.success, outcome.command with
  | true, some .undo => zipper.back
  | true, some .redo => zipper.forward
  | true, some command => if command.changesDeck then zipper.push outcome.slides else zipper
  | _, _ => zipper

end Zipper

/-- Whether a slide was gone to after the deck was last set. -/
def Outcome.strays (strayed : Bool) (outcome : Outcome) : Bool :=
  match outcome.success, outcome.command with
  | true, some .gotoSlide => true
  | true, some .undo => false
  | true, some .redo => false
  | true, some command => if command.changesDeck then false else strayed
  | _, _ => strayed

/-- The outcomes of requests one after the other. -/
def Session.outcomes (session : Session) : List Request → List Outcome
  | [] => []
  | request :: rest =>
    let after := session.serve request
    ⟨session.commandOf request.line, after.1.success, after.2.store.slides⟩ ::
      after.2.outcomes rest

section

variable {command : Command} {slides : Deck} {strayed : Bool}

theorem Zipper.follow_failed (zipper : Zipper) (command : Option Command) (slides : Deck) :
    zipper.follow ⟨command, false, slides⟩ = zipper := rfl

theorem Zipper.follow_change {zipper : Zipper} (h : command.changesDeck = true) :
    zipper.follow ⟨some command, true, slides⟩ = zipper.push slides := by
  cases command <;> first | rfl | cases h

theorem Zipper.follow_question {zipper : Zipper} (h : command.isQuestion = true) :
    zipper.follow ⟨some command, true, slides⟩ = zipper := by
  cases command <;> first | rfl | cases h

theorem Outcome.strays_failed (command : Option Command) (strayed : Bool) (slides : Deck) :
    strays strayed ⟨command, false, slides⟩ = strayed := rfl

theorem Outcome.strays_question (h : command.isQuestion = true) :
    strays strayed ⟨some command, true, slides⟩ = strayed := by
  cases command <;> first | rfl | cases h

end

/-! ## Histories as zippers -/

namespace Zipper

/-- The history is the zipper written out, with the cursor at the present. -/
structure Represents (zipper : Zipper) (history : History) : Prop where
  snapshots : history.entries.map HistoryEntry.slides = zipper.decks
  cursor : history.cursor = zipper.past.length + 1

namespace Represents

variable {zipper : Zipper} {history moved : History} {slides : Deck}

theorem size_eq (h : zipper.Represents history) :
    history.size = zipper.past.length + 1 + zipper.future.length := by
  have hlength := congrArg List.length h.snapshots
  simp only [decks, List.length_map, List.length_append, List.length_singleton] at hlength
  exact hlength

theorem canUndo_eq (h : zipper.Represents history) :
    history.canUndo = true ↔ zipper.past ≠ [] := by
  rw [← List.length_pos_iff, History.canUndo, h.cursor]
  simp

theorem canRedo_eq (h : zipper.Represents history) :
    history.canRedo = true ↔ zipper.future ≠ [] := by
  rw [← List.length_pos_iff, History.canRedo, h.cursor, h.size_eq]
  simp

theorem record (h : zipper.Represents history) (entry : HistoryEntry) :
    (zipper.push entry.slides).Represents (history.record entry) := by
  -- up to the cursor there are the past and the present
  have hkept : (history.entries.take history.cursor).map HistoryEntry.slides =
      zipper.past ++ [zipper.present] := by
    rw [List.map_take, h.snapshots, decks, h.cursor]
    exact List.take_left' (by simp)
  constructor
  · simp only [History.record, List.map_append, hkept]
    simp [push, decks]
  · have hlength := congrArg List.length hkept
    rw [List.length_map] at hlength
    simp [History.record, push, hlength]

/-- The snapshot at a place that a zipper has as its present. -/
theorem current? (h : zipper.Represents history) :
    history.current?.map HistoryEntry.slides = some zipper.present := by
  rw [History.current?, if_neg (by rw [h.cursor]; omega), ← List.getElem?_map, h.snapshots, h.cursor]
  simp [decks]

theorem undo (h : zipper.Represents history) (hmove : history.undo = .ok (slides, moved)) :
    zipper.back.Represents moved ∧ zipper.back.present = slides := by
  obtain ⟨hcan, hmoved, hslides⟩ := History.undo_eq_ok hmove
  obtain ⟨past, present, future⟩ := zipper
  rcases List.eq_nil_or_concat' past with rfl | ⟨earlier, last, rfl⟩
  · -- without a past the cursor is at the first snapshot
    have hcursor := h.cursor
    simp only [List.length_nil] at hcursor
    omega
  · have hback : back ⟨earlier ++ [last], present, future⟩ = ⟨earlier, last, present :: future⟩ := by
      simp [back]
    have hrepresents : Represents ⟨earlier, last, present :: future⟩ moved := by
      rw [hmoved]
      constructor
      · simpa [decks] using h.snapshots
      · simp [h.cursor]
    rw [hback]
    refine ⟨hrepresents, ?_⟩
    rw [hslides, hrepresents.current?]
    rfl

theorem redo (h : zipper.Represents history) (hmove : history.redo = .ok (slides, moved)) :
    zipper.forward.Represents moved ∧ zipper.forward.present = slides := by
  obtain ⟨hcan, hmoved, hslides⟩ := History.redo_eq_ok hmove
  obtain ⟨past, present, future⟩ := zipper
  cases future with
  | nil =>
    have hsize := h.size_eq
    have hcursor := h.cursor
    simp only [List.length_nil] at hsize hcursor
    omega
  | cons next rest =>
    have hrepresents : Represents ⟨past ++ [present], next, rest⟩ moved := by
      rw [hmoved]
      constructor
      · simpa [decks] using h.snapshots
      · simp [h.cursor]
    refine ⟨hrepresents, ?_⟩
    rw [hslides, hrepresents.current?]
    rfl

end Represents

end Zipper

/-! ## Sessions as zippers -/

namespace Session

/-- The zipper shows the history, and the deck in the store up to a slide gone to. -/
structure Mirrors (deck : Deck) (session : Session) (zipper : Zipper) (strayed : Bool) :
    Prop where
  quiet : session.store.Quiet
  rooted : session.history.Rooted deck
  represents : zipper.Represents session.history
  unflagged : session.store.slides.unflagged = zipper.present.unflagged
  exact : strayed = false → session.store.slides = zipper.present

namespace Mirrors

variable {deck : Deck} {session : Session} {zipper : Zipper} {strayed : Bool}

/-- The deck was just set to the present one. -/
theorem of_slides_eq (quiet : session.store.Quiet) (rooted : session.history.Rooted deck)
    (represents : zipper.Represents session.history)
    (h : session.store.slides = zipper.present) : Mirrors deck session zipper strayed :=
  ⟨quiet, rooted, represents, by rw [h], fun _ => h⟩

theorem opened (deck : Deck) (listeners : List Listener) (aliases : Table String)
    (idStem : String) (spacing : Int) (now : Number) :
    Mirrors deck (opened { slides := deck, listeners } aliases idStem spacing now)
      (.start deck) false :=
  of_slides_eq rfl (History.rooted_start deck) ⟨rfl, rfl⟩ rfl

theorem unrecorded (mirrors : Mirrors deck session zipper strayed) {after : Session}
    {params : Params} {command : Command} (quiet : after.store.Quiet)
    (hkeeps : command.changesDeck = false)
    (heffect : Effect params session.store.slides command after.store.slides)
    (hhistory : after.history = session.history) :
    Mirrors deck after (zipper.follow ⟨some command, true, after.store.slides⟩)
      (Outcome.strays strayed ⟨some command, true, after.store.slides⟩) := by
  have hrooted : after.history.Rooted deck := hhistory ▸ mirrors.rooted
  have hrepresents : zipper.Represents after.history := hhistory ▸ mirrors.represents
  rcases heffect.of_unrecorded hkeeps with ⟨rfl, hflags⟩ | ⟨hquestion, hslides⟩
  · -- the present stays, and the store strays from it
    exact ⟨quiet, hrooted, hrepresents, hflags.trans mirrors.unflagged, fun h => nomatch h⟩
  · rw [Zipper.follow_question hquestion, Outcome.strays_question hquestion]
    refine ⟨quiet, hrooted, hrepresents, ?_, ?_⟩
    · rw [hslides]
      exact mirrors.unflagged
    · intro h
      rw [hslides]
      exact mirrors.exact h

/-- One request is one operation of the zipper. -/
theorem serve (mirrors : Mirrors deck session zipper strayed) (request : Request) :
    let after := session.serve request
    let outcome : Outcome :=
      ⟨session.commandOf request.line, after.1.success, after.2.store.slides⟩
    Mirrors deck after.2 (zipper.follow outcome) (outcome.strays strayed) := by
  obtain ⟨quiet, hcourse⟩ := serve_course mirrors.quiet request
  dsimp only
  cases hcourse with
  | failed hfailed hslides hhistory hundo hredo =>
    rw [hfailed, Zipper.follow_failed, Outcome.strays_failed]
    refine ⟨quiet, hhistory ▸ mirrors.rooted, hhistory ▸ mirrors.represents, ?_, ?_⟩
    · rw [hslides]
      exact mirrors.unflagged
    · intro h
      rw [hslides]
      exact mirrors.exact h
  | unrecorded command hcommand hdone hkeeps heffect hhistory =>
    rw [hcommand, hdone]
    exact mirrors.unrecorded quiet hkeeps heffect hhistory
  | recorded command hcommand hdone hchanges heffect hhistory =>
    -- the new snapshot was read from the store, so the two agree again
    rw [hcommand, hdone, Zipper.follow_change hchanges]
    refine of_slides_eq quiet ?_ ?_ rfl
    · exact hhistory ▸ mirrors.rooted.record _
    · rw [hhistory]
      exact mirrors.represents.record ⟨_, _, _⟩
  | undone hcommand hdone hmove =>
    obtain ⟨hrepresents, hpresent⟩ := mirrors.represents.undo hmove
    rw [hcommand, hdone]
    exact of_slides_eq quiet (mirrors.rooted.moves (.inl hmove)) hrepresents hpresent.symm
  | redone hcommand hdone hmove =>
    obtain ⟨hrepresents, hpresent⟩ := mirrors.represents.redo hmove
    rw [hcommand, hdone]
    exact of_slides_eq quiet (mirrors.rooted.moves (.inr hmove)) hrepresents hpresent.symm

theorem serveAll (mirrors : Mirrors deck session zipper strayed) (requests : List Request) :
    Mirrors deck (session.serveAll requests)
      ((session.outcomes requests).foldl Zipper.follow zipper)
      ((session.outcomes requests).foldl Outcome.strays strayed) := by
  induction requests generalizing session zipper strayed with
  | nil => exact mirrors
  | cons request rest ih => exact ih (mirrors.serve request)

/-- Undo succeeds as long as there is a past, and redo as long as there is a future. -/
theorem serve_success (mirrors : Mirrors deck session zipper strayed) (request : Request) :
    (session.commandOf request.line = some .undo →
        ((session.serve request).1.success = true ↔ zipper.past ≠ [])) ∧
      (session.commandOf request.line = some .redo →
        ((session.serve request).1.success = true ↔ zipper.future ≠ [])) := by
  obtain ⟨-, hcourse⟩ := serve_course mirrors.quiet request
  rw [← mirrors.represents.canUndo_eq, ← mirrors.represents.canRedo_eq]
  exact ⟨hcourse.success_iff_canUndo, hcourse.success_iff_canRedo⟩

end Mirrors

/-- A session is its zipper: the history is the past, the present and the future in order of time,
with the cursor at the present and the first deck as its baseline for ever.  The store shows the
present, with its flags unless a slide was gone to since the deck was last set; and undo and redo
succeed as long as there is a deck to move to. -/
theorem serveAll_refines_zipper (deck : Deck) (listeners : List Listener)
    (aliases : Table String) (idStem : String) (spacing : Int) (now : Number)
    (requests : List Request) :
    let session := opened { slides := deck, listeners } aliases idStem spacing now
    let outcomes := session.outcomes requests
    let zipper := outcomes.foldl Zipper.follow (.start deck)
    let after := session.serveAll requests
    after.history.entries.map HistoryEntry.slides =
        zipper.past ++ [zipper.present] ++ zipper.future ∧
      after.history.index = zipper.past.length ∧
      after.history.entries[0]? = some ⟨none, .empty, deck⟩ ∧
      after.store.slides.unflagged = zipper.present.unflagged ∧
      (outcomes.foldl Outcome.strays false = false → after.store.slides = zipper.present) ∧
      ∀ request,
        (after.commandOf request.line = some .undo →
          ((after.serve request).1.success = true ↔ zipper.past ≠ [])) ∧
        (after.commandOf request.line = some .redo →
          ((after.serve request).1.success = true ↔ zipper.future ≠ [])) := by
  intro session outcomes zipper after
  have mirrors : Mirrors deck after zipper (outcomes.foldl Outcome.strays false) :=
    (Mirrors.opened deck listeners aliases idStem spacing now).serveAll requests
  have hindex : after.history.index = zipper.past.length := by
    rw [History.index, mirrors.represents.cursor]
    omega
  exact ⟨mirrors.represents.snapshots, hindex, mirrors.rooted.baseline, mirrors.unflagged,
    mirrors.exact, mirrors.serve_success⟩

/-- Two slides, with the first one active. -/
def twoSlides : Deck :=
  [{ id := "overview", active := true }, { id := "agenda" }]

/-- A change is made and undone: the zipper is at its first deck, with the changed one ahead.  So
the store shows the first deck again, there is nothing more to undo, and redo succeeds. -/
theorem serveAll_refines_zipper_twoSlides :
    let session := opened { slides := twoSlides } .empty defaultStem defaultSpacing (.int 1)
    let after := session.serveAll [⟨"set-slide-title text=Start", .int 2⟩, ⟨"undo", .int 3⟩]
    after.history.entries.map HistoryEntry.slides =
        [twoSlides, [{ id := "overview", title := "Start", active := true }, { id := "agenda" }]] ∧
      after.history.index = 0 ∧ after.store.slides = twoSlides ∧
      (after.serve ⟨"undo", .int 4⟩).1.success = false ∧
      (after.serve ⟨"redo", .int 4⟩).1.success = true := by
  dsimp only
  obtain ⟨hentries, hindex, -, -, hexact, hmoves⟩ :=
    serveAll_refines_zipper twoSlides [] .empty defaultStem defaultSpacing (.int 1)
      [⟨"set-slide-title text=Start", .int 2⟩, ⟨"undo", .int 3⟩]
  have hundo := (hmoves ⟨"undo", .int 4⟩).1 (by decide +kernel)
  have hredo := (hmoves ⟨"redo", .int 4⟩).2 (by decide +kernel)
  have hslides := hexact (by decide +kernel)
  rw [Bool.eq_false_iff, ne_eq, hentries, hindex, hslides, hundo, hredo]
  decide +kernel

end Session

end DeckScript
