/-!
# The commands

Twelve commands work on a deck.  Five of them change it and are recorded in the
history; moving to a slide changes only which one is active and is not recorded.
-/

namespace DeckScript

/-- A command on a deck. -/
inductive Command where
  | newSlide
  | setSlideTitle
  | addText
  | listSlides
  | getCurrentSlide
  | gotoSlide
  | deleteSlide
  | duplicateSlide
  | undo
  | redo
  | getSlides
  | getSlideInfo
deriving Repr, DecidableEq

namespace Command

/-- All commands. -/
def all : List Command :=
  [newSlide, setSlideTitle, addText, listSlides, getCurrentSlide, gotoSlide, deleteSlide,
   duplicateSlide, undo, redo, getSlides, getSlideInfo]

/-- The name of a command in a command line. -/
def name : Command → String
  | newSlide => "new-slide"
  | setSlideTitle => "set-slide-title"
  | addText => "add-text"
  | listSlides => "list-slides"
  | getCurrentSlide => "get-current-slide"
  | gotoSlide => "goto-slide"
  | deleteSlide => "delete-slide"
  | duplicateSlide => "duplicate-slide"
  | undo => "undo"
  | redo => "redo"
  | getSlides => "get-slides"
  | getSlideInfo => "get-slide-info"

/-- The command with a name. -/
def ofName? (name : String) : Option Command :=
  all.find? fun command => command.name == name

/-- Whether the command is recorded in the history. -/
def changesDeck : Command → Bool
  | newSlide => true
  | setSlideTitle => true
  | addText => true
  | deleteSlide => true
  | duplicateSlide => true
  | _ => false

end Command

end DeckScript
