import DeckScript.Script.Keyword

/-!
# Statements

Each line of a script is one statement, or a part of a block.  `Statement.ofLine`
sorts a line by its beginning: comments first, then output and directives by their
leading word, then assignments, and last the words that open and close blocks.
Anything else is unknown and has no effect.

Blanks between the parts of a statement are skipped as far as possible; where that
leaves nothing for the part that follows, fewer blanks are skipped and the part
starts with the others.
-/

namespace DeckScript.Script

open Text

/-- One line of a script. -/
inductive Statement where
  /-- Prints an expression. -/
  | say (expression : String)
  /-- Sends a command to an address. -/
  | address (target command : String)
  /-- Gives a variable a value. -/
  | assign (name expression : String)
  /-- Opens a block that runs if the condition holds. -/
  | ifThen (condition : String)
  /-- Opens a block that runs once for each value from the first to the last. -/
  | doLoop (name first last : String)
  /-- Closes a block. -/
  | endBlock
  /-- A comment: to the end of the line, or down to a later line that closes it. -/
  | comment (block : Bool)
  /-- Anything else. -/
  | unknown (text : String)
deriving Repr, DecidableEq, Inhabited

namespace Statement

/-- What starts a comment to the end of the line. -/
def lineComment : List Char := ['-', '-']

/-- What starts a comment down to a later line. -/
def blockComment : List Char := ['/', '*']

/-- What a line that ends such a comment contains. -/
def blockCommentEnd : List Char := ['*', '/']

/-! ## Parts of statements -/

/-- Skips blanks, of which there has to be one at least. -/
def afterBlanks? : List Char → Option (List Char)
  | [] => none
  | c :: cs => if isBlank c then some (trimLeft cs) else none

/-- The rest of a line, which must not be empty; one line feed may end it. -/
def lineBody? (cs : List Char) : Option (List Char) :=
  let body := cs.takeWhile (· != '\n')
  let rest := cs.dropWhile (· != '\n')
  if body ≠ [] ∧ (rest = [] ∨ rest = ['\n']) then some body else none

/-- Cuts a text after its shortest beginning that is not empty, has no line feed and is followed
by what `ending?` recognises. -/
def cutShortest {α : Type} (ending? : List Char → Option α) : List Char → Option (List Char × α)
  | [] => none
  | c :: cs =>
    if c = '\n' then none
    else match ending? cs with
      | some ending => some ([c], ending)
      | none => (cutShortest ending? cs).map fun cut => (c :: cut.1, cut.2)

/-- Recognises blanks followed by the whole word THEN. -/
def then? (cs : List Char) : Option Unit :=
  match (afterBlanks? cs).bind (afterLetters? ['T', 'H', 'E', 'N']) with
  | none => none
  | some [] => some ()
  | some (c :: _) => if isWord c then none else some ()

/-- Recognises a text of blanks only. -/
def blanks? (cs : List Char) : Option Unit :=
  if cs.all isBlank then some () else none

/-- Recognises blanks, TO, blanks and the last bound of a loop, which is returned. -/
def toBound? (cs : List Char) : Option (List Char) :=
  match (afterBlanks? cs).bind (afterLetters? ['T', 'O']) with
  | none => none
  | some rest => (properSkips rest).findSome? fun bound => (cutShortest blanks? bound).map Prod.fst

/-- A word, blanks, an equals sign: the word and what follows the sign. -/
def named? (cs : List Char) : Option (List Char × List Char) :=
  match wordOf cs, trimLeft (afterWord cs) with
  | [], _ => none
  | name, '=' :: rest => some (name, rest)
  | _, _ => none

/-! ## Kinds of statements -/

/-- `ADDRESS SLIDES "command"`; the address is returned in upper case, and whatever follows the
closing quote is ignored. -/
def address? (cs : List Char) : Option Statement :=
  match (afterLetters? ['A', 'D', 'D', 'R', 'E', 'S', 'S'] cs).bind afterBlanks? with
  | none => none
  | some rest =>
    match (afterLetters? ['S', 'L', 'I', 'D', 'E', 'S'] rest).bind afterBlanks? with
    | some ('"' :: quoted) =>
      let command := quoted.takeWhile (· != '"')
      if command ≠ [] ∧ quoted.dropWhile (· != '"') ≠ [] then
        some (.address (String.ofList (upper (rest.take 6))) (String.ofList command))
      else none
    | _ => none

/-- `name = expression`. -/
def assign? (cs : List Char) : Option Statement :=
  match named? cs with
  | none => none
  | some (name, rest) =>
    ((skips rest).findSome? lineBody?).map fun body =>
      .assign (String.ofList name) (String.ofList body)

/-- `IF condition THEN`; whatever follows is ignored. -/
def ifThen? (cs : List Char) : Option Statement :=
  match afterLetters? ['I', 'F'] cs with
  | none => none
  | some rest =>
    ((properSkips rest).findSome? (cutShortest then?)).map fun cut =>
      .ifThen (String.ofList cut.1)

/-- `DO name = first TO last`. -/
def doLoop? (cs : List Char) : Option Statement :=
  match ((afterLetters? ['D', 'O'] cs).bind afterBlanks?).bind named? with
  | none => none
  | some (name, rest) =>
    ((skips rest).findSome? (cutShortest toBound?)).map fun cut =>
      .doLoop (String.ofList name) (String.ofList cut.1) (String.ofList cut.2)

/-- The statement on a line.  Output and directives come before assignments, so `SAY = 1` prints;
assignments come before blocks, so `IF = 1` assigns. -/
def ofLine (line : String) : Statement :=
  let cs := line.toList
  let word := leadingWord line
  if lineComment.isPrefixOf cs then .comment false
  else if blockComment.isPrefixOf cs then .comment true
  else if word = "SAY" then .say (String.ofList (trim (cs.drop 3)))
  else if word = "ADDRESS" then (address? cs).getD (.unknown line)
  else
    match assign? cs with
    | some statement => statement
    | none =>
      if word = "IF" then (ifThen? cs).getD (.unknown line)
      else if word = "DO" then (doLoop? cs).getD (.unknown line)
      else if word = "END" then .endBlock
      else .unknown line

end Statement

end DeckScript.Script
