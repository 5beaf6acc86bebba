import DeckScript.Text.Blank
import DeckScript.Text.Case
import DeckScript.Text.Word

/-!
# Leading words

A line is recognised by its leading word, in any letter case.  The leading word also
decides which lines open and close blocks.
-/

namespace DeckScript.Script

open Text

/-- The leading word of a line in upper case: a letter or underscore of ASCII followed by word
characters.  It is empty if the line starts otherwise. -/
def leadingWord (line : String) : String :=
  match trim line.toList with
  | [] => ""
  | c :: cs => if c.isAlpha || c == '_' then String.ofList (upper (c :: wordOf cs)) else ""

/-- The leading words of lines that open a block. -/
def blockOpeners : List String := ["DO", "IF"]

/-- Whether a line opens a block. -/
def opensBlock (line : String) : Bool :=
  blockOpeners.contains (leadingWord line)

/-- Whether a line closes a block. -/
def closesBlock (line : String) : Bool :=
  leadingWord line == "END"

/-! ## Letters in any case -/

/-- Whether `c` is the capital letter `letter` of ASCII in some case.  The long s counts as an S,
and the dotless and the dotted i count as an I. -/
def sameLetter (letter c : Char) : Bool :=
  c.toUpper == letter
    || (letter == 'S' && c == 'ſ')
    || (letter == 'I' && (c == 'ı' || c == 'İ'))

/-- What follows the given capital letters, which a text has to start with in some case. -/
def afterLetters? : List Char → List Char → Option (List Char)
  | [], cs => some cs
  | _ :: _, [] => none
  | letter :: letters, c :: cs => if sameLetter letter c then afterLetters? letters cs else none

end DeckScript.Script
