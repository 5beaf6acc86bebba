import DeckScript.Deck.Slide

/-!
# Actions on a deck

Every change of a deck is one of five actions.  An action that cannot be carried out
leaves the deck as it was.
-/

namespace DeckScript

/-- A change of a deck. -/
inductive Action where
  /-- Appends a slide. -/
  | add (slide : Slide)
  /-- Sets the title or the content of the first slide with a given id. -/
  | edit (id field value : String)
  /-- Makes the slides with a given id the active ones. -/
  | activate (id : String)
  /-- Removes the active slide and makes the one before it active. -/
  | deleteActive
  /-- Replaces the whole deck. -/
  | replaceAll (slides : Deck)
  /-- An action that is not known. -/
  | unrecognised (text : String)
deriving Repr, DecidableEq

/-- Why an action could not be carried out. -/
inductive ActionError where
  | unknownSlide (id : String)
  | fixedField (field : String)
  | noActiveSlide
  | unrecognised (text : String)
deriving Repr, DecidableEq

/-- The wording of an error.  That of an unknown slide stands between quotes. -/
def ActionError.message : ActionError → String
  | unknownSlide id => Text.quoted ("No slide with id " ++ Text.quoted id)
  | fixedField field => "Slide field " ++ Text.quoted field ++ " is not editable"
  | noActiveSlide => "No active slide to delete"
  | unrecognised text => "Unknown action: " ++ Text.quoted text

namespace Deck

/-- Whether some slide has the given id. -/
def hasId (deck : Deck) (id : String) : Bool :=
  deck.any fun slide => slide.id == id

/-- Changes the first slide with the given id. -/
def updateFirst (id : String) (change : Slide → Slide) : Deck → Deck
  | [] => []
  | slide :: rest =>
    if slide.id = id then change slide :: rest else slide :: updateFirst id change rest

/-- Makes the slides with the given id active and all others not. -/
def activate (id : String) (deck : Deck) : Deck :=
  deck.map fun slide => { slide with active := slide.id == id }

/-- Removes the slide at a position; its predecessor becomes active, or its successor if it is
the first. -/
def deleteAt (deck : Deck) (index : Nat) : Deck :=
  (deck.eraseIdx index).modify (index - 1) fun slide => { slide with active := true }

/-- The deck after an action. -/
def apply (deck : Deck) : Action → Except ActionError Deck
  | .add slide => .ok (deck ++ [slide])
  | .edit id field value =>
    if field = "title" then
      if deck.hasId id then
        .ok (deck.updateFirst id fun slide => { slide with title := value })
      else .error (.unknownSlide id)
    else if field = "content" then
      if deck.hasId id then
        .ok (deck.updateFirst id fun slide => { slide with content := value })
      else .error (.unknownSlide id)
    else .error (.fixedField field)
  | .activate id => if deck.hasId id then .ok (deck.activate id) else .error (.unknownSlide id)
  | .deleteActive =>
    match deck.activeIndex? with
    | some index => .ok (deck.deleteAt index)
    | none => .error .noActiveSlide
  | .replaceAll slides => .ok slides
  | .unrecognised text => .error (.unrecognised text)

end Deck

end DeckScript
