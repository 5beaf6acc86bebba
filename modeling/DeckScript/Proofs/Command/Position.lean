import DeckScript.Proofs.Command.Run
import DeckScript.Proofs.Deck.Position

/-!
# Commands by position

What a command line that succeeds makes of a deck with distinct ids, said by the
position that its parameters stand for: `Prescribed`.  Neither ids nor flags occur in
it as a way to find a slide.

`Effect` already tells which actions were carried out.  What is left is to read each of
them by position, and to see that `get-slide-info`, which changes nothing, was given a
position in the deck as well.
-/

namespace DeckScript.Session

/-! ## Positions -/

/-- The value that a command takes its position from.  Titles are those of the overview and texts
go to the last slide unless told otherwise; to go to a slide or to copy one, it must be named. -/
def positionValue (params : Params) (deck : Deck) : Command → Value
  | .setSlideTitle => (params.get? "slideIndex").getD (.int 0)
  | .addText => (params.get? "slideIndex").getD (.int (deck.length - 1))
  | .deleteSlide => (params.get? "number").getD (.int 0)
  | .getSlideInfo => (params.get? "number").getD (.int 0)
  | .duplicateSlide => (params.get? "number").getD .none
  | .gotoSlide => (params.get? "number").getD .none
  | _ => .none

/-- The parameters give the command the position `index`, and there is a slide there. -/
structure PointsAt (params : Params) (deck : Deck) (command : Command) (index : Nat) : Prop where
  decoded : (positionValue params deck command).integer? = .ok (some (index : Int))
  inDeck : index < deck.length

theorem pointsAt_of_slideAt? {params : Params} {deck : Deck} {command : Command}
    {position : Option Int} {index : Nat} {slide : Slide}
    (hdecoded : (positionValue params deck command).integer? = .ok position)
    (hfound : slideAt? deck position = some (index, slide)) :
    PointsAt params deck command index := by
  obtain ⟨rfl, hslide⟩ := slideAt?_eq_some.1 hfound
  obtain ⟨hlt, -⟩ := List.getElem?_eq_some_iff.1 hslide
  exact ⟨hdecoded, hlt⟩

/-! ## What a command is to do -/

/-- The decks that a command may make of a deck. -/
inductive Prescribed (params : Params) (deck : Deck) : Command → Deck → Prop
  | newSlide (slide : Slide) (fresh : slide.id ∉ deck.ids) (inactive : slide.active = false) :
      Prescribed params deck .newSlide (deck ++ [slide])
  | setSlideTitle (index : Nat) (value : Value) (text : String)
      (place : PointsAt params deck .setSlideTitle index)
      (given : params.get? "text" = some value) (written : value.parameterText = .ok text) :
      Prescribed params deck .setSlideTitle
        (deck.modify index fun slide => { slide with title := text })
  | addText (index : Nat) (value : Value) (text : String)
      (place : PointsAt params deck .addText index)
      (given : params.get? "text" = some value) (written : value.parameterText = .ok text) :
      Prescribed params deck .addText
        (deck.modify index fun slide =>
          { slide with
            content := if slide.content = "" then text else slide.content ++ "\n" ++ text })
  | duplicateSlide (index : Nat) (source : Slide) (id : String)
      (place : PointsAt params deck .duplicateSlide index) (found : deck[index]? = some source)
      (fresh : id ∉ deck.ids) :
      Prescribed params deck .duplicateSlide
        (deck ++ [{ source with id, title := source.title ++ " (copy)", active := false }])
  | deleteSlide (index : Nat) (place : PointsAt params deck .deleteSlide index)
      (ordinary : 1 ≤ index) :
      Prescribed params deck .deleteSlide (Deck.onlyActive (deck.eraseIdx index) (index - 1))
  | gotoSlide (index : Nat) (place : PointsAt params deck .gotoSlide index) :
      Prescribed params deck .gotoSlide (deck.onlyActive index)
  | listSlides : Prescribed params deck .listSlides deck
  | getCurrentSlide : Prescribed params deck .getCurrentSlide deck
  | getSlides : Prescribed params deck .getSlides deck
  | getSlideInfo (index : Nat) (place : PointsAt params deck .getSlideInfo index) :
      Prescribed params deck .getSlideInfo deck

/-- Two changes of the slide at a position agree if they agree on that slide. -/
theorem modify_congr_of_getElem? {deck : Deck} {index : Nat} {slide : Slide}
    {change change' : Slide → Slide} (hslide : deck[index]? = some slide)
    (h : change slide = change' slide) : deck.modify index change = deck.modify index change' := by
  apply List.ext_getElem?
  intro place
  rw [List.getElem?_modify, List.getElem?_modify]
  by_cases hplace : index = place
  · subst hplace
    simp [hslide, h]
  · simp [hplace]

theorem Effect.prescribed {params : Params} {deck after : Deck} {command : Command}
    (effect : Effect params deck command after) (hids : deck.ids.Nodup)
    (hinfo : command = .getSlideInfo → ∃ index, PointsAt params deck .getSlideInfo index) :
    Prescribed params deck command after := by
  cases effect with
  | newSlide fresh inactive => exact .newSlide _ fresh inactive
  | @setSlideTitle value text position index slide given written decoded found =>
    have hplace : PointsAt params deck .setSlideTitle index := pointsAt_of_slideAt? decoded found
    rw [Deck.updateFirst_eq_modify hids (slideAt?_eq_some.1 found).2]
    exact .setSlideTitle index value text hplace given written
  | @addText value text position index slide given written decoded found =>
    have hplace : PointsAt params deck .addText index := pointsAt_of_slideAt? decoded found
    have hslide := (slideAt?_eq_some.1 found).2
    rw [Deck.updateFirst_eq_modify hids hslide]
    -- the content was worked out from the slide that was read, which is the one that is changed
    have hsame : deck.modify index (fun other =>
        { other with
          content := if slide.content.isEmpty then text else slide.content ++ "\n" ++ text }) =
        deck.modify index fun other =>
          { other with
            content := if other.content = "" then text else other.content ++ "\n" ++ text } := by
      apply modify_congr_of_getElem? hslide
      simp [String.isEmpty_iff]
    rw [hsame]
    exact .addText index value text hplace given written
  | @deleteSlide position index slide rest decoded ordinary found deleted =>
    have hplace : PointsAt params deck .deleteSlide index := pointsAt_of_slideAt? decoded found
    obtain ⟨rfl, hslide⟩ := slideAt?_eq_some.1 found
    have hpos : 1 ≤ index := by
      rcases Nat.eq_zero_or_pos index with rfl | hpos
      · exact absurd rfl ordinary
      · exact hpos
    cases deleted.symm.trans (Deck.apply_deleteActive_activate hids hslide)
    exact .deleteSlide index hplace hpos
  | @duplicateSlide number position index source id given decoded found fresh =>
    have hplace : PointsAt params deck .duplicateSlide index :=
      pointsAt_of_slideAt? (by simpa [positionValue, given] using decoded) found
    exact .duplicateSlide index source id hplace (slideAt?_eq_some.1 found).2 fresh
  | @gotoSlide number position index target given decoded found =>
    have hplace : PointsAt params deck .gotoSlide index :=
      pointsAt_of_slideAt? (by simpa [positionValue, given] using decoded) found
    rw [Deck.activate_eq_onlyActive hids (slideAt?_eq_some.1 found).2]
    exact .gotoSlide index hplace
  | question hquestion =>
    cases command with
    | listSlides => exact .listSlides
    | getCurrentSlide => exact .getCurrentSlide
    | getSlides => exact .getSlides
    | getSlideInfo =>
      obtain ⟨index, hplace⟩ := hinfo rfl
      exact .getSlideInfo index hplace
    | _ => cases hquestion

/-! ## Lines that succeed -/

section

variable {session : Session} {line : String} {command : Command}

theorem success_perform_of_run (hcommand : session.commandOf line = some command)
    (hdone : (run line session).1.success = true) :
    (perform (CommandLine.ofText line).params command session).1.success = true := by
  rcases hperform : perform (CommandLine.ofText line).params command session with ⟨result, after⟩
  cases hresult : result.success with
  | true => rfl
  | false =>
    obtain ⟨message, hrun⟩ := run_of_failed hcommand hperform hresult
    rw [hrun] at hdone
    exact hresult.symm.trans hdone

theorem pointsAt_of_getSlideInfo (quiet : session.store.Quiet) {params : Params}
    (hdone : (perform params .getSlideInfo session).1.success = true) :
    ∃ index, PointsAt params session.store.slides .getSlideInfo index := by
  have hundo : Command.getSlideInfo ≠ .undo := by decide
  have hredo : Command.getSlideInfo ≠ .redo := by decide
  rcases perform_carriedOut quiet hundo hredo with ⟨hfailed, -⟩ | ⟨-, hcarried⟩
  · exact absurd (hfailed.symm.trans hdone) (by decide)
  · obtain ⟨actions, deck, notices, hplan, -, -⟩ := hcarried
    cases hplan with
    | getSlideInfo decoded found => exact ⟨_, pointsAt_of_slideAt? decoded found⟩

/-- On a deck with distinct ids, a command line that succeeds does to the deck what is prescribed
for the position that it was given; undo and redo take no position. -/
theorem run_prescribed (quiet : session.store.Quiet) (hids : session.store.slides.ids.Nodup)
    (hdone : (run line session).1.success = true) :
    ∃ command, session.commandOf line = some command ∧
      (command = .undo ∨ command = .redo ∨
        Prescribed (CommandLine.ofText line).params session.store.slides command
          (run line session).2.store.slides) := by
  obtain ⟨-, hcourse⟩ := run_course quiet line
  cases hcourse with
  | failed hfailed hslides hhistory hundo hredo =>
    exact absurd (hfailed.symm.trans hdone) (by decide)
  | unrecorded command hcommand _ hkeeps heffect hhistory =>
    refine ⟨command, hcommand, Or.inr (Or.inr (heffect.prescribed hids ?_))⟩
    rintro rfl
    exact pointsAt_of_getSlideInfo quiet (success_perform_of_run hcommand hdone)
  | recorded command hcommand _ hchanges heffect hhistory =>
    refine ⟨command, hcommand, Or.inr (Or.inr (heffect.prescribed hids ?_))⟩
    rintro rfl
    cases hchanges
  | undone hcommand _ hmove => exact ⟨.undo, hcommand, Or.inl rfl⟩
  | redone hcommand _ hmove => exact ⟨.redo, hcommand, Or.inr (Or.inl rfl)⟩

end

/-- A session on a deck of three slides, with the last one active. -/
def threeSlides : Session :=
  start [{ id := "overview" }, { id := "agenda" }, { id := "end", active := true }] .empty
    defaultStem defaultSpacing (.int 1)

/-- The slide in the middle goes, and the overview is the active one in place of the last. -/
theorem run_prescribed_threeSlides :
    threeSlides.store.slides.ids.Nodup ∧
      (run "delete-slide number=1" threeSlides).1.success = true ∧
      Prescribed (CommandLine.ofText "delete-slide number=1").params threeSlides.store.slides
        .deleteSlide [{ id := "overview", active := true }, { id := "end" }] := by
  have hquiet : threeSlides.store.Quiet := rfl
  have hids : threeSlides.store.slides.ids.Nodup := by decide
  have hdone : (run "delete-slide number=1" threeSlides).1.success = true := by decide
  have hline : threeSlides.commandOf "delete-slide number=1" = some .deleteSlide := by decide
  have hslides : (run "delete-slide number=1" threeSlides).2.store.slides =
      [{ id := "overview", active := true }, { id := "end" }] := by decide
  obtain ⟨command, hcommand, hprescribed⟩ := run_prescribed hquiet hids hdone
  cases hline.symm.trans hcommand
  rcases hprescribed with hundo | hredo | hprescribed
  · cases hundo
  · cases hredo
  · exact ⟨hids, hdone, hslides ▸ hprescribed⟩

end DeckScript.Session
