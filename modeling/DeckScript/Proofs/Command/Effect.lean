import DeckScript.Proofs.Command.Plan
import DeckScript.Proofs.Deck.Store

/-!
# What commands do to the deck

A command that succeeds in a store without failures has one of the effects listed in
`Effect`; one that fails has done nothing at all.  The position and the texts of an
effect are those that the parameters stand for.

## Strategy

A command follows its plan.  Up to its first dispatch nothing has happened, so a command
that gives up before leaves the session as it was; and the actions of a plan are never
refused, because the ids in them were read off the deck.
-/

namespace DeckScript

/-- Whether the command only answers a question. -/
def Command.isQuestion : Command → Bool
  | listSlides => true
  | getCurrentSlide => true
  | getSlides => true
  | getSlideInfo => true
  | _ => false

namespace Session

/-! ## Effects -/

/-- What a command, other than undo and redo, makes of a deck. -/
inductive Effect (params : Params) (deck : Deck) : Command → Deck → Prop
  | newSlide {slide : Slide} (fresh : slide.id ∉ deck.ids)
      (inactive : slide.active = false) : Effect params deck .newSlide (deck ++ [slide])
  | setSlideTitle {value : Value} {text : String} {position : Option Int} {index : Nat}
      {slide : Slide} (given : params.get? "text" = some value)
      (written : value.parameterText = .ok text)
      (decoded : ((params.get? "slideIndex").getD (.int 0)).integer? = .ok position)
      (found : slideAt? deck position = some (index, slide)) :
      Effect params deck .setSlideTitle
        (deck.updateFirst slide.id fun slide => { slide with title := text })
  | addText {value : Value} {text : String} {position : Option Int} {index : Nat}
      {slide : Slide} (given : params.get? "text" = some value)
      (written : value.parameterText = .ok text)
      (decoded : ((params.get? "slideIndex").getD (.int (deck.length - 1))).integer? =
        .ok position)
      (found : slideAt? deck position = some (index, slide)) :
      Effect params deck .addText
        (deck.updateFirst slide.id fun other =>
          { other with
            content := if slide.content.isEmpty then text else slide.content ++ "\n" ++ text })
  | deleteSlide {position : Option Int} {index : Nat} {slide : Slide} {rest : Deck}
      (decoded : ((params.get? "number").getD (.int 0)).integer? = .ok position)
      (ordinary : position ≠ some 0) (found : slideAt? deck position = some (index, slide))
      (deleted : (deck.activate slide.id).apply .deleteActive = .ok rest) :
      Effect params deck .deleteSlide rest
  | duplicateSlide {number : Value} {position : Option Int} {index : Nat} {source : Slide}
      {id : String} (given : params.get? "number" = some number)
      (decoded : number.integer? = .ok position)
      (found : slideAt? deck position = some (index, source)) (fresh : id ∉ deck.ids) :
      Effect params deck .duplicateSlide
        (deck ++ [{ source with id, title := source.title ++ copySuffix, active := false }])
  | gotoSlide {number : Value} {position : Option Int} {index : Nat} {target : Slide}
      (given : params.get? "number" = some number) (decoded : number.integer? = .ok position)
      (found : slideAt? deck position = some (index, target)) :
      Effect params deck .gotoSlide (deck.activate target.id)
  | question {command : Command} (h : command.isQuestion = true) :
      Effect params deck command deck

theorem Effect.command_ne {params : Params} {command : Command} {deck after : Deck}
    (h : Effect params deck command after) : command ≠ .undo ∧ command ≠ .redo := by
  cases h with
  | question hquestion => constructor <;> rintro rfl <;> cases hquestion
  | _ => decide

/-- A command that is not recorded goes to a slide, or leaves the deck alone. -/
theorem Effect.of_unrecorded {params : Params} {command : Command} {deck after : Deck}
    (h : Effect params deck command after) (hkeeps : command.changesDeck = false) :
    command = .gotoSlide ∧ after.unflagged = deck.unflagged ∨
      command.isQuestion = true ∧ after = deck := by
  cases h with
  | gotoSlide given decoded found => exact Or.inl ⟨rfl, Deck.unflagged_activate deck _⟩
  | question hquestion => exact Or.inr ⟨hquestion, rfl⟩
  | _ => cases hkeeps

/-- The session with another deck, and other calls of listeners made so far. -/
def showing (session : Session) (slides : Deck) (notices : Array Notice) : Session :=
  { session with store := { session.store with slides, notices } }

/-- The command has failed without a trace, or has had one of its effects. -/
def Answers (params : Params) (command : Command) (session : Session) (result : CommandResult)
    (after : Session) : Prop :=
  result.success = false ∧ after = session ∨
    result.success = true ∧ ∃ deck notices, Effect params session.store.slides command deck ∧
      after = session.showing deck notices

/-- What holds of a failure wherever the step breaks off, and of its result if it does not. -/
theorem guarded_of_ensures {session : Session} {step : Step CommandResult} {code : ErrorCode}
    {done : CommandResult → Session → Prop}
    (h : step.Ensures session (fun _ after => ∀ output, done (.failure code output) after) done)
    (what : String) :
    done (guarded code what step session).1 (guarded code what step session).2 := by
  unfold Attempt.Ensures at h
  unfold guarded
  rcases hrun : step.run session with ⟨error | result, after⟩ <;> rw [hrun] at h
  · exact h _
  · exact h

/-! ## Steps without failures of the store -/

section

variable {session : Session}

theorem ensures_readDeck (quiet : session.store.Quiet) {broken : CommandError → Session → Prop}
    {done : Deck → Session → Prop} :
    readDeck.Ensures session broken done ↔ done session.store.slides session := by
  rw [readDeck, Attempt.ensures_on, Attempt.Ensures, quiet.run_read]

/-- A dispatch of an action that the deck does not refuse. -/
theorem run_dispatch_of_quiet (quiet : session.store.Quiet) {action : Action} {slides : Deck}
    (h : session.store.slides.apply action = .ok slides) :
    (dispatch action).run session =
      (.ok (), session.showing slides (session.store.noticesAfter slides)) := by
  simp only [dispatch, Attempt.on, quiet.run_dispatch, h]
  rfl

end

/-! ## Plans without failures of the store -/

/-- The actions of a plan are not refused. -/
theorem Plan.exists_effect {params : Params} {deck : Deck} {command : Command}
    {actions : List Action} (plan : Plan params deck command actions) :
    ∃ after, deck.applyAll actions = .ok after ∧ Effect params deck command after := by
  cases plan with
  | newSlide fresh inactive => exact ⟨_, rfl, .newSlide fresh inactive⟩
  | setSlideTitle given written decoded found =>
    have happly := Deck.apply_editTitle (id_mem_of_slideAt? found)
    exact ⟨_, Deck.applyAll_cons (happly _) [], .setSlideTitle given written decoded found⟩
  | addText given written decoded found =>
    have happly := Deck.apply_editContent (id_mem_of_slideAt? found)
    exact ⟨_, Deck.applyAll_cons (happly _) [], .addText given written decoded found⟩
  | deleteSlide decoded ordinary found =>
    have hid := id_mem_of_slideAt? found
    have hactivate := Deck.apply_activate hid
    -- the second action finds the slide that the first has made active
    obtain ⟨active, hactive⟩ := Deck.exists_activeIndex?_activate hid
    have hdelete := Deck.apply_deleteActive hactive
    refine ⟨_, ?_, .deleteSlide decoded ordinary found hdelete⟩
    rw [Deck.applyAll_cons hactivate, Deck.applyAll_cons hdelete, Deck.applyAll_nil]
  | duplicateSlide given decoded found fresh =>
    exact ⟨_, rfl, .duplicateSlide given decoded found fresh⟩
  | gotoSlide given decoded found =>
    have happly := Deck.apply_activate (id_mem_of_slideAt? found)
    exact ⟨_, Deck.applyAll_cons happly [], .gotoSlide given decoded found⟩
  | listSlides => exact ⟨deck, rfl, .question rfl⟩
  | getCurrentSlide => exact ⟨deck, rfl, .question rfl⟩
  | getSlides => exact ⟨deck, rfl, .question rfl⟩
  | getSlideInfo decoded found => exact ⟨deck, rfl, .question rfl⟩

theorem Plan.exists_applyAll {params : Params} {deck : Deck} {command : Command}
    {actions : List Action} (plan : Plan params deck command actions) :
    ∃ after, deck.applyAll actions = .ok after := by
  obtain ⟨after, hafter, -⟩ := plan.exists_effect
  exact ⟨after, hafter⟩

theorem run_act_of_quiet {session : Session} (quiet : session.store.Quiet)
    {actions : List Action} {after : Deck}
    (h : session.store.slides.applyAll actions = .ok after) (result : CommandResult) :
    ∃ notices, (act actions result).run session = (.ok result, session.showing after notices) := by
  induction actions generalizing session with
  | nil =>
    cases h
    exact ⟨session.store.notices, rfl⟩
  | cons action rest ih =>
    obtain ⟨between, haction, hrest⟩ := Deck.exists_of_applyAll_cons h
    let dispatched := session.showing between (session.store.noticesAfter between)
    have hquiet : dispatched.store.Quiet := quiet
    obtain ⟨notices, hrun⟩ := ih hquiet hrest
    refine ⟨notices, ?_⟩
    rw [act, Attempt.run_bind, run_dispatch_of_quiet quiet haction]
    exact hrun

section

variable {session : Session}

/-- The command has failed without a trace, or has carried out a plan. -/
def CarriedOut (plan : List Action → Prop) (session : Session) (result : CommandResult)
    (after : Session) : Prop :=
  result.success = false ∧ after = session ∨
    result.success = true ∧ ∃ actions deck notices, plan actions ∧
      session.store.slides.applyAll actions = .ok deck ∧ after = session.showing deck notices

theorem Follows.carriedOut {plan : Deck → List Action → Prop} {step : Step CommandResult}
    (h : Follows plan step) (quiet : session.store.Quiet)
    (hplan : ∀ actions, plan session.store.slides actions →
      ∃ deck, session.store.slides.applyAll actions = .ok deck) :
    step.Ensures session (fun _ after => after = session)
      (CarriedOut (plan session.store.slides) session) := by
  have hrejected : ∀ code output, CarriedOut (plan session.store.slides) session
      (.failure code output) session := fun _ _ => Or.inl ⟨rfl, rfl⟩
  refine h.ensures hrejected (fun _ => rfl) ?_
  rw [ensures_readDeck quiet]
  intro next hnext
  refine hnext.ensures hrejected (fun _ => rfl) ?_
  intro actions planned output result
  obtain ⟨deck, hdeck⟩ := hplan actions planned
  obtain ⟨notices, hrun⟩ := run_act_of_quiet quiet hdeck (.ok output result)
  rw [Attempt.Ensures, hrun]
  exact Or.inr ⟨rfl, actions, deck, notices, planned, hdeck, rfl⟩

/-- All commands but undo and redo, in a store without failures. -/
theorem perform_carriedOut {params : Params} {command : Command} (quiet : session.store.Quiet)
    (hundo : command ≠ .undo) (hredo : command ≠ .redo) :
    CarriedOut (Plan params session.store.slides command) session
      (perform params command session).1 (perform params command session).2 := by
  obtain ⟨code, what, step, hperform, hfollows⟩ := perform_follows params hundo hredo
  have hstep := hfollows.carriedOut quiet fun _ hplan => hplan.exists_applyAll
  rw [hperform]
  refine guarded_of_ensures (hstep.mono ?_ fun _ _ h => h) what
  rintro _ _ rfl output
  exact Or.inl ⟨rfl, rfl⟩

theorem perform_answers {params : Params} {command : Command} (quiet : session.store.Quiet)
    (hundo : command ≠ .undo) (hredo : command ≠ .redo) :
    Answers params command session (perform params command session).1
      (perform params command session).2 := by
  rcases perform_carriedOut quiet hundo hredo with hfailed | ⟨hdone, carried⟩
  · exact Or.inl hfailed
  · obtain ⟨actions, deck, notices, hplan, hdeck, hafter⟩ := carried
    obtain ⟨after, hafter', heffect⟩ := hplan.exists_effect
    cases hdeck.symm.trans hafter'
    exact Or.inr ⟨hdone, deck, notices, heffect, hafter⟩

end

end Session

end DeckScript
