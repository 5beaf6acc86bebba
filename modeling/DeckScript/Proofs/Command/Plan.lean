import DeckScript.Proofs.Attempt
import DeckScript.Proofs.Command.FreshId
import DeckScript.Proofs.Deck.Action

/-!
# Commands as plans

Every command but undo and redo reads the deck once, works out from it and from its
parameters which actions are due, its `Plan`, and dispatches them one after the other.
On the way there it only thinks: it may reject what it was given or break off, but it
changes nothing.

`Follows` says that a step has this shape.  That is shown once for each command.  What a
command ensures in general then follows from what its actions do (`Follows.ensures`),
and no command has to be opened again for it.
-/

namespace DeckScript.Session

open Attempt (Inert)

/-! ## Steps that change nothing -/

section

variable {session : Session}

theorem inert_convert {α : Type} (result : Except NumberError α) : (convert result).Inert :=
  Inert.ofExcept _ result

theorem run_convert_eq_ok {α : Type} {result : Except NumberError α} {a : α}
    (h : ((convert result).run session).1 = .ok a) : result = .ok a := by
  cases result with
  | ok b => exact congrArg Except.ok (Except.ok.inj h)
  | error error => cases h

theorem inert_integerOr (params : Params) (key : String) (default : Int) :
    (integerOr params key default).Inert :=
  (inert_convert _).bind fun _ => .pure _

theorem inert_textParameter? (params : Params) : (textParameter? params).Inert := by
  unfold textParameter?
  split
  · exact .pure _
  · exact .pure _
  · exact (inert_convert _).bind fun _ => .pure _

/-- A text parameter is the text of a value that was given. -/
theorem run_textParameter?_eq_some {params : Params} {text : String}
    (h : ((textParameter? params).run session).1 = .ok (some text)) :
    ∃ value, params.get? "text" = some value ∧ value.parameterText = .ok text := by
  unfold textParameter? at h
  split at h
  · cases h
  · cases h
  · rename_i value _ hvalue
    refine ⟨value, hvalue, ?_⟩
    cases htext : value.parameterText with
    | error error =>
      rw [htext] at h
      cases h
    | ok written =>
      rw [htext] at h
      cases h
      rfl

theorem inert_shown (params : Params) (key : String) (default : Option Int) :
    (shown params key default).Inert := by
  unfold shown
  split
  · exact inert_convert _
  · split
    · exact inert_convert _
    · exact .pure _

theorem inert_newId (deck : Deck) : (newId deck).Inert :=
  Inert.get.bind fun _ => (inert_convert _).bind fun _ => inert_convert _

theorem run_newId_fresh {deck : Deck} {id : String}
    (h : ((newId deck).run session).1 = .ok id) : id ∉ deck.ids := by
  cases hstamp : stamp session.now with
  | error error => simp [newId, convert, hstamp, Attempt.run_bind] at h
  | ok start =>
    simp only [newId, convert, hstamp, Attempt.run_bind, Attempt.run_get,
      Attempt.run_ofExcept_ok] at h
    have hid := run_convert_eq_ok h
    rw [← List.length_map Slide.id] at hid
    exact freshId_not_mem hid

end

/-! ## Positions -/

/-- The slide at a position is found if the position is one in the deck. -/
theorem slideAt?_eq_some {deck : Deck} {position : Option Int} {index : Nat} {slide : Slide} :
    slideAt? deck position = some (index, slide) ↔
      position = some (index : Int) ∧ deck[index]? = some slide := by
  cases position with
  | none => simp [slideAt?]
  | some n =>
    simp only [slideAt?, Option.some.injEq]
    split
    · rename_i hn
      constructor
      · intro h
        obtain ⟨other, hother, hpair⟩ := Option.map_eq_some_iff.1 h
        cases hpair
        exact ⟨(Int.toNat_of_nonneg hn).symm, hother⟩
      · rintro ⟨rfl, hslide⟩
        simp [hslide]
    · rename_i hn
      constructor
      · intro h
        cases h
      · rintro ⟨rfl, -⟩
        omega

theorem id_mem_of_slideAt? {deck : Deck} {position : Option Int} {index : Nat} {slide : Slide}
    (h : slideAt? deck position = some (index, slide)) : slide.id ∈ deck.ids :=
  Deck.id_mem_ids (List.mem_of_getElem? (slideAt?_eq_some.1 h).2)

/-! ## The parts of a new slide -/

/-- The title of a new slide. -/
def newTitle (params : Params) (deck : Deck) : Step String :=
  match params.get? "slide" with
  | some title =>
    if title.isTruthy then convert title.parameterText else pure ("Slide " ++ deck.length.repr)
  | none => pure ("Slide " ++ deck.length.repr)

/-- The content of a new slide. -/
def newContent (params : Params) : Step String :=
  match params.get? "content" with
  | some content => if content.isTruthy then convert content.parameterText else pure ""
  | none => pure ""

/-- The position of a new slide. -/
def newPosition (params : Params) (defaultX : Int) : Step Position := do
  let x ← integerOr params "x" defaultX
  let y ← integerOr params "y" 0
  let z ← integerOr params "z" 0
  let scale :=
    match params.get? "scale" with
    | some (.number scale) => scale
    | _ => .int 1
  let rotate ← integerOr params "rotate" 0
  let rotateX ← integerOr params "rotateX" 0
  let rotateY ← integerOr params "rotateY" 0
  let rotateZ ← integerOr params "rotateZ" 0
  return { x := .int x, y := .int y, z := .int z, scale, rotate := .int rotate
           rotateX := .int rotateX, rotateY := .int rotateY, rotateZ := .int rotateZ }

theorem newSlide_eq (params : Params) :
    newSlide params = (do
      let deck ← readDeck
      let session ← .get
      let id ← newId deck
      let title ← newTitle params deck
      let content ← newContent params
      let position ← newPosition params (deck.length * session.spacing)
      dispatch (.add { id, title, content, position })
      return .ok ("Created new slide: " ++ id)
        (.dict [("id", .text id), ("title", .text title)])) := by
  unfold newSlide newTitle newContent newPosition
  simp only [bind_assoc, pure_bind]
  congr 1; funext deck
  congr 1; funext session
  congr 1; funext id
  -- what follows stands once in every branch on the left, and once for all on the right
  rcases params.get? "slide" with _ | title <;> rcases params.get? "content" with _ | content
  · rfl
  · dsimp only
    split <;> rfl
  · dsimp only
    split <;> rfl
  · dsimp only
    split <;> split <;> rfl

theorem inert_newTitle (params : Params) (deck : Deck) : (newTitle params deck).Inert := by
  unfold newTitle
  split
  · split
    · exact inert_convert _
    · exact .pure _
  · exact .pure _

theorem inert_newContent (params : Params) : (newContent params).Inert := by
  unfold newContent
  split
  · split
    · exact inert_convert _
    · exact .pure _
  · exact .pure _

theorem inert_newPosition (params : Params) (defaultX : Int) :
    (newPosition params defaultX).Inert := by
  repeat refine (inert_integerOr _ _ _).bind fun _ => ?_
  exact .pure _

/-! ## Plans -/

/-- The actions that a command dispatches on a deck. -/
inductive Plan (params : Params) (deck : Deck) : Command → List Action → Prop
  | newSlide {slide : Slide} (fresh : slide.id ∉ deck.ids) (inactive : slide.active = false) :
      Plan params deck .newSlide [.add slide]
  | setSlideTitle {value : Value} {text : String} {position : Option Int} {index : Nat}
      {slide : Slide} (given : params.get? "text" = some value)
      (written : value.parameterText = .ok text)
      (decoded : ((params.get? "slideIndex").getD (.int 0)).integer? = .ok position)
      (found : slideAt? deck position = some (index, slide)) :
      Plan params deck .setSlideTitle [.edit slide.id "title" text]
  | addText {value : Value} {text : String} {position : Option Int} {index : Nat}
      {slide : Slide} (given : params.get? "text" = some value)
      (written : value.parameterText = .ok text)
      (decoded : ((params.get? "slideIndex").getD (.int (deck.length - 1))).integer? =
        .ok position)
      (found : slideAt? deck position = some (index, slide)) :
      Plan params deck .addText
        [.edit slide.id "content"
          (if slide.content.isEmpty then text else slide.content ++ "\n" ++ text)]
  | deleteSlide {position : Option Int} {index : Nat} {slide : Slide}
      (decoded : ((params.get? "number").getD (.int 0)).integer? = .ok position)
      (ordinary : position ≠ some 0) (found : slideAt? deck position = some (index, slide)) :
      Plan params deck .deleteSlide [.activate slide.id, .deleteActive]
  | duplicateSlide {number : Value} {position : Option Int} {index : Nat} {source : Slide}
      {id : String} (given : params.get? "number" = some number)
      (decoded : number.integer? = .ok position)
      (found : slideAt? deck position = some (index, source)) (fresh : id ∉ deck.ids) :
      Plan params deck .duplicateSlide
        [.add { source with id, title := source.title ++ copySuffix, active := false }]
  | gotoSlide {number : Value} {position : Option Int} {index : Nat} {target : Slide}
      (given : params.get? "number" = some number) (decoded : number.integer? = .ok position)
      (found : slideAt? deck position = some (index, target)) :
      Plan params deck .gotoSlide [.activate target.id]
  | listSlides : Plan params deck .listSlides []
  | getCurrentSlide : Plan params deck .getCurrentSlide []
  | getSlides : Plan params deck .getSlides []
  | getSlideInfo {position : Option Int} {index : Nat} {slide : Slide}
      (decoded : ((params.get? "number").getD (.int 0)).integer? = .ok position)
      (found : slideAt? deck position = some (index, slide)) :
      Plan params deck .getSlideInfo []

/-- Dispatches actions one after the other and answers with `result`. -/
def act : List Action → CommandResult → Step CommandResult
  | [], result => pure result
  | action :: rest, result => dispatch action >>= fun _ => act rest result

/-- A step that has the deck before it: it thinks, and then gives up or acts as planned. -/
inductive Decides (plan : List Action → Prop) : Step CommandResult → Prop
  | reject (code : ErrorCode) (output : String) : Decides plan (pure (.failure code output))
  | breakOff (error : CommandError) : Decides plan (.fail error)
  | think {α : Type} {step : Step α} {next : α → Step CommandResult} (inert : step.Inert)
      (hnext : ∀ session a, (step.run session).1 = .ok a → Decides plan (next a)) :
      Decides plan (step >>= next)
  | act {actions : List Action} (planned : plan actions) (output : String) (result : Value) :
      Decides plan (act actions (.ok output result))

/-- A step that reads the deck once, at most after some thought, and decides on what it read. -/
inductive Follows (plan : Deck → List Action → Prop) : Step CommandResult → Prop
  | reject (code : ErrorCode) (output : String) : Follows plan (pure (.failure code output))
  | think {α : Type} {step : Step α} {next : α → Step CommandResult} (inert : step.Inert)
      (hnext : ∀ session a, (step.run session).1 = .ok a → Follows plan (next a)) :
      Follows plan (step >>= next)
  | read {next : Deck → Step CommandResult} (hnext : ∀ deck, Decides (plan deck) (next deck)) :
      Follows plan (readDeck >>= next)

section

variable {session : Session} {step : Step CommandResult} {broken : CommandError → Session → Prop}
  {done : CommandResult → Session → Prop}

/-- Up to its actions the step has changed nothing, so what it ensures is up to them. -/
theorem Decides.ensures {plan : List Action → Prop} (h : Decides plan step)
    (hrejected : ∀ code output, done (.failure code output) session)
    (hbroken : ∀ error, broken error session)
    (hact : ∀ actions, plan actions → ∀ output result,
      (Session.act actions (.ok output result)).Ensures session broken done) :
    step.Ensures session broken done := by
  induction h with
  | reject code output => exact hrejected code output
  | breakOff error => exact hbroken error
  | think inert _ ih =>
    rw [Attempt.ensures_bind]
    exact inert.ensures hbroken (ih session)
  | act planned output result => exact hact _ planned output result

theorem Follows.ensures {plan : Deck → List Action → Prop} (h : Follows plan step)
    (hrejected : ∀ code output, done (.failure code output) session)
    (hbroken : ∀ error, broken error session)
    (hread : readDeck.Ensures session broken fun deck between =>
      ∀ next, Decides (plan deck) next → next.Ensures between broken done) :
    step.Ensures session broken done := by
  induction h with
  | reject code output => exact hrejected code output
  | think inert _ ih =>
    rw [Attempt.ensures_bind]
    exact inert.ensures hbroken (ih session)
  | read hnext =>
    rw [Attempt.ensures_bind]
    refine hread.mono (fun _ _ hbroken => hbroken) ?_
    intro deck between hdecides
    exact hdecides _ (hnext deck)

end

/-- A command that rejects what it was given, or goes on with the slide at a position. -/
theorem Decides.slideAt {plan : List Action → Prop} {found : Option (Nat × Slide)}
    {describe : Step String} {code : ErrorCode} {output : String → String}
    {next : Nat → Slide → Step CommandResult} (inert : describe.Inert) :
    (∀ index slide, found = some (index, slide) → Decides plan (next index slide)) →
    Decides plan
      (match found with
      | none => describe >>= fun given => pure (.failure code (output given))
      | some (index, slide) => next index slide) := by
  intro hnext
  cases found with
  | none => exact .think inert fun _ given _ => .reject code (output given)
  | some place => exact hnext place.1 place.2 rfl

/-! ## The commands one by one -/

theorem newSlide_follows (params : Params) :
    Follows (fun deck => Plan params deck .newSlide) (newSlide params) := by
  rw [newSlide_eq]
  refine .read fun deck => ?_
  refine .think .get fun _ session _ => ?_
  refine .think (inert_newId deck) fun _ id hid => ?_
  refine .think (inert_newTitle params deck) fun _ title _ => ?_
  refine .think (inert_newContent params) fun _ content _ => ?_
  refine .think (inert_newPosition params _) fun _ position _ => ?_
  have hplan : Plan params deck .newSlide [.add { id, title, content, position }] :=
    .newSlide (run_newId_fresh hid) rfl
  exact .act hplan _ _

theorem setSlideTitle_follows (params : Params) :
    Follows (fun deck => Plan params deck .setSlideTitle) (setSlideTitle params) := by
  unfold setSlideTitle
  refine .think (inert_textParameter? params) fun _ text? htext => ?_
  cases text? with
  | none => exact .reject _ _
  | some text =>
    obtain ⟨value, hgiven, hwritten⟩ := run_textParameter?_eq_some htext
    refine .read fun deck => ?_
    refine .think (inert_convert _) fun _ position hposition => ?_
    refine .slideAt (inert_shown _ _ _) fun index slide hfound => ?_
    exact .act (Plan.setSlideTitle hgiven hwritten (run_convert_eq_ok hposition) hfound) _ _

theorem addText_follows (params : Params) :
    Follows (fun deck => Plan params deck .addText) (addText params) := by
  unfold addText
  refine .think (inert_textParameter? params) fun _ text? htext => ?_
  cases text? with
  | none => exact .reject _ _
  | some text =>
    obtain ⟨value, hgiven, hwritten⟩ := run_textParameter?_eq_some htext
    refine .read fun deck => ?_
    refine .think (inert_convert _) fun _ position hposition => ?_
    refine .slideAt (inert_shown _ _ _) fun index slide hfound => ?_
    exact .act (Plan.addText hgiven hwritten (run_convert_eq_ok hposition) hfound) _ _

theorem deleteSlide_follows (params : Params) :
    Follows (fun deck => Plan params deck .deleteSlide) (deleteSlide params) := by
  refine .read fun deck => ?_
  refine .think (inert_convert _) fun _ position hposition => ?_
  split
  · exact .reject _ _
  · rename_i hordinary
    refine .slideAt (inert_shown _ _ _) fun index slide hfound => ?_
    exact .act (Plan.deleteSlide (run_convert_eq_ok hposition) hordinary hfound) _ _

theorem duplicateSlide_follows (params : Params) :
    Follows (fun deck => Plan params deck .duplicateSlide) (duplicateSlide params) := by
  unfold duplicateSlide
  cases hgiven : params.get? "number" with
  | none => exact .reject _ _
  | some number =>
    refine .read fun deck => ?_
    refine .think (inert_convert _) fun _ position hposition => ?_
    refine .slideAt (inert_convert _) fun index source hfound => ?_
    refine .think (inert_newId deck) fun _ id hid => ?_
    exact .act (Plan.duplicateSlide hgiven (run_convert_eq_ok hposition) hfound
      (run_newId_fresh hid)) _ _

theorem gotoSlide_follows (params : Params) :
    Follows (fun deck => Plan params deck .gotoSlide) (gotoSlide params) := by
  unfold gotoSlide
  cases hgiven : params.get? "number" with
  | none => exact .reject _ _
  | some number =>
    refine .read fun deck => ?_
    refine .think (inert_convert _) fun _ position hposition => ?_
    refine .slideAt (inert_convert _) fun index target hfound => ?_
    exact .act (Plan.gotoSlide hgiven (run_convert_eq_ok hposition) hfound) _ _

theorem getCurrentSlide_follows (params : Params) :
    Follows (fun deck => Plan params deck .getCurrentSlide) getCurrentSlide := by
  refine .read fun deck => ?_
  dsimp only
  split
  · exact .breakOff _
  · exact .act Plan.getCurrentSlide _ _

theorem getSlideInfo_follows (params : Params) :
    Follows (fun deck => Plan params deck .getSlideInfo) (getSlideInfo params) := by
  refine .read fun deck => ?_
  refine .think (inert_convert _) fun _ position hposition => ?_
  refine .slideAt (inert_shown _ _ _) fun index slide hfound => ?_
  exact .act (Plan.getSlideInfo (run_convert_eq_ok hposition) hfound) _ _

/-- All commands but undo and redo follow their plans. -/
theorem perform_follows (params : Params) {command : Command} (hundo : command ≠ .undo)
    (hredo : command ≠ .redo) :
    ∃ code what step, perform params command = guarded code what step ∧
      Follows (fun deck => Plan params deck command) step := by
  cases command with
  | newSlide => exact ⟨_, _, _, rfl, newSlide_follows params⟩
  | setSlideTitle => exact ⟨_, _, _, rfl, setSlideTitle_follows params⟩
  | addText => exact ⟨_, _, _, rfl, addText_follows params⟩
  | listSlides => exact ⟨_, _, _, rfl, .read fun _ => .act Plan.listSlides _ _⟩
  | getCurrentSlide => exact ⟨_, _, _, rfl, getCurrentSlide_follows params⟩
  | gotoSlide => exact ⟨_, _, _, rfl, gotoSlide_follows params⟩
  | deleteSlide => exact ⟨_, _, _, rfl, deleteSlide_follows params⟩
  | duplicateSlide => exact ⟨_, _, _, rfl, duplicateSlide_follows params⟩
  | undo => exact absurd rfl hundo
  | redo => exact absurd rfl hredo
  | getSlides => exact ⟨_, _, _, rfl, .read fun _ => .act Plan.getSlides _ _⟩
  | getSlideInfo => exact ⟨_, _, _, rfl, getSlideInfo_follows params⟩

end DeckScript.Session
