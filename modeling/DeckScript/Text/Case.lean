import DeckScript.Text.Case.Table

/-!
# Upper and lower case

Case mappings act on whole texts: a letter may be mapped to several characters
(`ß` to `SS`), and a capital sigma becomes the final form `ς` at the end of a word.
-/

namespace DeckScript.Text

namespace Case

/-- The image of a code beyond ASCII: an expansion if there is one, else the partner in its
run, else the code itself. -/
def image (expansions : List (Nat × List Nat)) (runs : List Run) (c : Char) : List Char :=
  match expansions.lookup c.toNat with
  | some codes => codes.map Char.ofNat
  | none =>
    match runs.findSome? (Run.image? · c.toNat) with
    | some code => [Char.ofNat code]
    | none => [c]

/-- The upper-case form of one character. -/
def upperChar (c : Char) : List Char :=
  if c.toNat < 128 then [c.toUpper] else image upperExpansions upperRuns c

/-- The lower-case form of one character away from the end of a word. -/
def lowerChar (c : Char) : List Char :=
  if c.toNat < 128 then [c.toLower] else image lowerExpansions lowerRuns c

/-- Whether a text, ignorable characters aside, starts with a letter that has case. -/
def startsCased (cs : List Char) : Bool :=
  match cs.dropWhile (ignorableRanges.contains ·.toNat) with
  | [] => false
  | c :: _ => casedRanges.contains c.toNat

/-- Lower case of a text whose preceding characters, the nearest first, are `before`. -/
def lowerAfter (before : List Char) : List Char → List Char
  | [] => []
  | c :: cs =>
    let here :=
      if c = 'Σ' then
        if startsCased before && !startsCased cs then ['ς'] else ['σ']
      else lowerChar c
    here ++ lowerAfter (c :: before) cs

end Case

/-- Upper case of a text. -/
def upper (cs : List Char) : List Char :=
  cs.flatMap Case.upperChar

/-- Lower case of a text. -/
def lower (cs : List Char) : List Char :=
  Case.lowerAfter [] cs

/-- `upper` for strings. -/
def uppercase (s : String) : String :=
  String.ofList (upper s.toList)

/-- `lower` for strings. -/
def lowercase (s : String) : String :=
  String.ofList (lower s.toList)

@[simp] theorem toList_uppercase (s : String) : (uppercase s).toList = upper s.toList := by
  simp [uppercase]

@[simp] theorem toList_lowercase (s : String) : (lowercase s).toList = lower s.toList := by
  simp [lowercase]

theorem upper_append (cs ds : List Char) : upper (cs ++ ds) = upper cs ++ upper ds := by
  simp [upper]

end DeckScript.Text
