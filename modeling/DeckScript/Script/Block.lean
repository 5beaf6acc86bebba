import DeckScript.Script.Keyword

/-!
# Blocks

A block reaches from the line after its opening to the END that closes it.  Ends are
matched by counting: every line that opens a block needs an END of its own.  A block
that is never closed reaches to the end of the lines searched.

A run works on the lines that are left and needs the number of those in the body,
`bodyLength`.  `findBlockEnd` looks for the same END by its position among all lines;
`findBlockEnd_eq` says that the two agree.
-/

namespace DeckScript.Script

/-- A text cut at its line feeds. -/
def cutLines : List Char → List (List Char)
  | [] => [[]]
  | c :: cs =>
    if c = '\n' then [] :: cutLines cs
    else match cutLines cs with
      | [] => [[c]]
      | line :: rest => (c :: line) :: rest

/-- The lines of a script. -/
def splitLines (text : String) : List String :=
  (cutLines text.toList).map String.ofList

/-- The number of lines before the END that closes the current block, with `depth` inner blocks
open; all of them if there is no such END. -/
def bodyLength (depth : Nat) : List String → Nat
  | [] => 0
  | line :: rest =>
    if opensBlock line then 1 + bodyLength (depth + 1) rest
    else if closesBlock line then
      match depth with
      | 0 => 0
      | depth + 1 => 1 + bodyLength depth rest
    else 1 + bodyLength depth rest

theorem bodyLength_le_length (depth : Nat) (lines : List String) :
    bodyLength depth lines ≤ lines.length := by
  induction lines generalizing depth with
  | nil => simp [bodyLength]
  | cons line rest ih =>
    have hdeeper := ih (depth + 1)
    have hsame := ih depth
    rw [bodyLength.eq_def, List.length_cons]
    dsimp only
    split
    · omega
    · split
      · cases depth with
        | zero => exact Nat.zero_le _
        | succ depth =>
          have hshallower := ih depth
          show 1 + bodyLength depth rest ≤ _
          omega
      · omega

/-! ## Ends by position -/

/-- Why a search ended without an END. -/
inductive SearchError where
  /-- It reached a position without a line. -/
  | noSuchLine
  /-- It began at a position that does not fit into 64 bits. -/
  | beyondRange
deriving Repr, DecidableEq

/-- The wording of an error. -/
def SearchError.message : SearchError → String
  | noSuchLine => "list index out of range"
  | beyondRange => "cannot fit 'int' into an index-sized integer"

/-- The positions of 64 bits are those from minus this number on and before this number. -/
def positionLimit : Int := 0x8000000000000000

/-- What is wrong with a position that has no line. -/
def SearchError.ofPosition (position : Int) : SearchError :=
  if -positionLimit ≤ position ∧ position < positionLimit then .noSuchLine else .beyondRange

/-- The lines met from a position on.  Negative positions count from the end, and after the last
of them the lines are met from the first on. -/
def linesFrom (lines : List String) (position : Int) : List String :=
  if 0 ≤ position then lines.drop position.toNat
  else if 0 ≤ lines.length + position then
    lines.drop (lines.length + position).toNat ++ lines
  else []

/-- The position of the END that closes the current block, with `depth` inner blocks open, among
the first `count` of the given lines; the position after those if there is none.  The first line
stands at `position`. -/
def searchEnd : List String → Nat → Nat → Int → Except SearchError Int
  | _, 0, _, position => .ok position
  | [], _ + 1, _, position => .error (.ofPosition position)
  | line :: rest, count + 1, depth, position =>
    if opensBlock line then searchEnd rest count (depth + 1) (position + 1)
    else if closesBlock line then
      match depth with
      | 0 => .ok position
      | depth + 1 => searchEnd rest count depth (position + 1)
    else searchEnd rest count depth (position + 1)

/-- The position of the END that closes the block whose body begins at `start`, searched before
`stop`; `stop` if there is none. -/
def findBlockEnd (lines : List String) (start stop : Int) : Except SearchError Int :=
  if start < stop then searchEnd (linesFrom lines start) (stop - start).toNat 0 start
  else .ok stop

/-- Within the lines, the search counts the body. -/
theorem searchEnd_eq (lines : List String) (count depth : Nat) (position : Int)
    (h : count ≤ lines.length) :
    searchEnd lines count depth position =
      .ok (position + bodyLength depth (lines.take count)) := by
  induction lines generalizing count depth position with
  | nil =>
    have hcount : count = 0 := by simpa using h
    simp [hcount, searchEnd, bodyLength]
  | cons line rest ih =>
    cases count with
    | zero => simp [searchEnd, bodyLength]
    | succ count =>
      have hnext (depth : Nat) : searchEnd rest count depth (position + 1) =
          .ok (position + 1 + bodyLength depth (rest.take count)) :=
        ih count depth (position + 1) (by simpa using h)
      rw [List.take_succ_cons, searchEnd.eq_def, bodyLength.eq_def]
      dsimp only
      split
      · -- an inner block opens
        rw [hnext]
        congr 1
        push_cast
        omega
      · split
        · -- an END: of this block, or of an inner one
          cases depth with
          | zero => simp
          | succ depth =>
            dsimp only
            rw [hnext]
            congr 1
            push_cast
            omega
        · rw [hnext]
          congr 1
          push_cast
          omega

/-- The END found by position is the one that ends the body. -/
theorem findBlockEnd_eq (lines : List String) (start stop : Nat) (h : start ≤ stop)
    (hstop : stop ≤ lines.length) :
    findBlockEnd lines start stop =
      .ok (start + bodyLength 0 ((lines.drop start).take (stop - start))) := by
  have hlines : linesFrom lines start = lines.drop start := by simp [linesFrom]
  unfold findBlockEnd
  split
  · have hcount : ((stop : Int) - start).toNat = stop - start := by omega
    rw [hlines, hcount]
    exact searchEnd_eq (lines.drop start) (stop - start) 0 start
      (by rw [List.length_drop]; omega)
  · have hsame : stop = start := by omega
    simp [hsame, bodyLength]

end DeckScript.Script
