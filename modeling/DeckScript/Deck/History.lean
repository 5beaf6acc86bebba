import DeckScript.Deck.Slide

/-!
# History

The history is a list of snapshots, each the deck after a recorded command, and a
cursor at the snapshot that the deck was last set to.  Recording discards the
snapshots after the cursor.
-/

namespace DeckScript

/-- A snapshot of the deck and the command that led to it; the baseline has none. -/
structure HistoryEntry where
  command : Option String
  params : Params
  slides : Deck
deriving Repr

/-- Snapshots in order of time.  `cursor` is the number of snapshots up to and including the
current one, so it is zero only before the first. -/
structure History where
  entries : List HistoryEntry := []
  cursor : Nat := 0
deriving Repr

/-- Why the cursor cannot move. -/
inductive HistoryError where
  | nothingToUndo
  | nothingToRedo
deriving Repr, DecidableEq

/-- The wording of an error. -/
def HistoryError.message : HistoryError → String
  | nothingToUndo => "Nothing to undo"
  | nothingToRedo => "Nothing to redo"

namespace History

/-- The position of the current snapshot, `-1` if there is none. -/
def index (history : History) : Int :=
  history.cursor - 1

/-- The number of snapshots. -/
def size (history : History) : Nat :=
  history.entries.length

/-- Whether there is a snapshot before the current one. -/
def canUndo (history : History) : Bool :=
  decide (1 < history.cursor)

/-- Whether there is a snapshot after the current one. -/
def canRedo (history : History) : Bool :=
  decide (history.cursor < history.size)

/-- Adds a snapshot after the current one in place of all that follow. -/
def record (history : History) (entry : HistoryEntry) : History :=
  let kept := history.entries.take history.cursor
  { entries := kept ++ [entry], cursor := kept.length + 1 }

/-- A history, with a snapshot to start from if one is given. -/
def start (baseline : Option Deck) : History :=
  match baseline with
  | none => {}
  | some slides => record {} ⟨none, .empty, slides⟩

/-- The snapshot at the cursor. -/
def current? (history : History) : Option HistoryEntry :=
  if history.cursor = 0 then none else history.entries[history.cursor - 1]?

/-- The history with the cursor moved to another place, and the snapshot there. -/
def moveTo (history : History) (cursor : Nat) : Deck × History :=
  let moved := { history with cursor }
  ((moved.current?.map HistoryEntry.slides).getD [], moved)

/-- Moves the cursor to the snapshot before. -/
def undo (history : History) : Except HistoryError (Deck × History) :=
  if history.canUndo then .ok (history.moveTo (history.cursor - 1))
  else .error .nothingToUndo

/-- Moves the cursor to the snapshot after. -/
def redo (history : History) : Except HistoryError (Deck × History) :=
  if history.canRedo then .ok (history.moveTo (history.cursor + 1))
  else .error .nothingToRedo

end History

end DeckScript
