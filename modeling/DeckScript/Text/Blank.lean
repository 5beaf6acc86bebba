/-!
# Classes of characters, blanks and fields

A class of characters beyond ASCII is data of the Unicode standard.  It is kept as a
list of inclusive code ranges, and membership is a search through the list.

Blanks are the white space characters of Unicode together with the four
information separators U+001C to U+001F.  Statements are trimmed of blanks before
they are read, and a command line is cut into fields at blanks.
-/

namespace DeckScript.Text

/-- Inclusive ranges of character codes. -/
abbrev CodeRanges := List (Nat × Nat)

/-- Whether the code `n` lies in one of the ranges. -/
def CodeRanges.contains (ranges : CodeRanges) (n : Nat) : Bool :=
  ranges.any fun range => decide (range.1 ≤ n) && decide (n ≤ range.2)

theorem CodeRanges.contains_eq_true_iff (ranges : CodeRanges) (n : Nat) :
    ranges.contains n = true ↔ ∃ range ∈ ranges, range.1 ≤ n ∧ n ≤ range.2 := by
  simp [contains]

/-! ## Blanks -/

/-- The blank characters. -/
def blankRanges : CodeRanges :=
  [(0x9, 0xD), (0x1C, 0x20), (0x85, 0x85), (0xA0, 0xA0), (0x1680, 0x1680), (0x2000, 0x200A),
   (0x2028, 0x2029), (0x202F, 0x202F), (0x205F, 0x205F), (0x3000, 0x3000)]

/-- Whether `c` is a blank. -/
def isBlank (c : Char) : Bool :=
  blankRanges.contains c.toNat

/-! ## Trimming -/

/-- The text without its leading blanks. -/
def trimLeft (cs : List Char) : List Char :=
  cs.dropWhile isBlank

/-- The text without its trailing blanks. -/
def trimRight (cs : List Char) : List Char :=
  (cs.reverse.dropWhile isBlank).reverse

/-- The text without leading and trailing blanks. -/
def trim (cs : List Char) : List Char :=
  trimRight (trimLeft cs)

/-- `trim` for strings. -/
def trimmed (s : String) : String :=
  String.ofList (trim s.toList)

@[simp] theorem toList_trimmed (s : String) : (trimmed s).toList = trim s.toList := by
  simp [trimmed]

/-! ## Fields -/

/-- The maximal blank-free runs of a text, in order. -/
def fields : List Char → List (List Char)
  | [] => []
  | c :: cs =>
    if isBlank c then fields cs
    else match cs with
      | [] => [[c]]
      | d :: _ =>
        if isBlank d then [c] :: fields cs
        else match fields cs with
          | [] => [[c]]
          | field :: rest => (c :: field) :: rest

/-! ## Backing off from a run of blanks -/

/-- The texts left after skipping some of the leading blanks, the empty skip first. -/
def shortestSkips : List Char → List (List Char)
  | [] => [[]]
  | c :: cs => if isBlank c then (c :: cs) :: shortestSkips cs else [c :: cs]

/-- The texts left after skipping some of the leading blanks, the longest skip first and the
empty skip last. -/
def skips (cs : List Char) : List (List Char) :=
  (shortestSkips cs).reverse

/-- The texts left after skipping at least one leading blank, the longest skip first. -/
def properSkips : List Char → List (List Char)
  | [] => []
  | c :: cs => if isBlank c then skips cs else []

end DeckScript.Text
