import DeckScript.Value.Basic

/-!
# Slides

A slide has a name of its own, texts, a place in space and a flag that tells whether
it is the active one.  A deck is a list of slides; its first slide is the overview.
-/

namespace DeckScript

/-- Place, size and rotation of a slide. -/
structure Position where
  x : Number := .int 0
  y : Number := .int 0
  z : Number := .int 0
  scale : Number := .int 1
  rotate : Number := .int 0
  rotateX : Number := .int 0
  rotateY : Number := .int 0
  rotateZ : Number := .int 0
deriving Repr, DecidableEq, Inhabited

/-- A slide. -/
structure Slide where
  id : String
  title : String := ""
  content : String := ""
  position : Position := {}
  active : Bool := false
deriving Repr, DecidableEq, Inhabited

/-- Slides in order. -/
abbrev Deck := List Slide

/-- The position as a dictionary. -/
def Position.toValue (position : Position) : Value :=
  .dict
    [("x", .number position.x), ("y", .number position.y), ("z", .number position.z),
     ("scale", .number position.scale), ("rotate", .number position.rotate),
     ("rotateX", .number position.rotateX), ("rotateY", .number position.rotateY),
     ("rotateZ", .number position.rotateZ)]

/-- The entries of the slide as a dictionary. -/
def Slide.entries (slide : Slide) : List (String × Value) :=
  [("id", .text slide.id), ("title", .text slide.title), ("content", .text slide.content),
   ("position", slide.position.toValue), ("active", .bool slide.active)]

/-- The slide as a dictionary. -/
def Slide.toValue (slide : Slide) : Value :=
  .dict slide.entries

/-- The deck as a list of dictionaries. -/
def Deck.toValue (deck : Deck) : Value :=
  .list (deck.map Slide.toValue)

/-- The position of the active slide: the first one, if several are. -/
def Deck.activeIndex? (deck : Deck) : Option Nat :=
  deck.findIdx? Slide.active

end DeckScript
