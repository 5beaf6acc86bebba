import Mathlib.Data.List.Infix
import DeckScript.Proofs.Text.Pieces
import DeckScript.Script.Run

/-!
# Structured programs and their printed form

A script has no syntax tree: it is a list of lines, and blocks are found by counting.
This file describes the other side.  A `Program` is a tree of statements, the body of
a block being a program of its own, and `Program.text` prints it: one statement a
line, each line with an indentation and a spelling of its keywords of its own.

The texts that stand in a program carry what printing needs.  They are not empty, have
no line feed and no blank at either end; the name of a variable is a word other than
those that a line is recognised by; the command of a directive has no quote; and
neither a condition nor the first bound of a loop contains the keyword that ends it.
-/

namespace DeckScript.Script

open Text

/-! ## Texts in a program -/

/-- A text that may stand in a line. -/
structure Phrase where
  text : String
  ne_empty : text ≠ ""
  trimmed_eq : trimmed text = text
  oneLine : '\n' ∉ text.toList

/-- The words that a line is recognised by. -/
def reservedWords : List String := ["SAY", "ADDRESS", "IF", "DO", "END"]

/-- The name of a variable. -/
structure VariableName where
  text : String
  ne_empty : text ≠ ""
  isWord : ∀ c ∈ text.toList, isWord c = true
  notReserved : uppercase text ∉ reservedWords

/-- A command as it stands between the quotes of a directive. -/
structure QuotedCommand extends Phrase where
  unquoted : '"' ∉ text.toList

/-- Whether a text starts with a blank and then, as a whole word, the given letters in any
case. -/
def startsWithWord (letters : List Char) : List Char → Bool
  | [] => false
  | c :: cs =>
    isBlank c && (cs.take letters.length).map Char.toUpper == letters &&
      !(cs.drop letters.length).head?.any isWord

/-- Whether somewhere in the text a blank is followed by the given letters as a whole word. -/
def hasWord (letters cs : List Char) : Bool :=
  cs.tails.any (startsWithWord letters)

/-- A condition.  It does not start with an equals sign, or its line would be an assignment to a
variable named IF. -/
structure Condition extends Phrase where
  notAssignment : text.toList.head? ≠ some '='
  noThen : hasWord ['T', 'H', 'E', 'N'] text.toList = false

/-- The first bound of a loop. -/
structure FirstBound extends Phrase where
  noTo : hasWord ['T', 'O'] text.toList = false

/-! ## Programs -/

/-- Statements in order, each block with its own body. -/
inductive Program where
  | done
  | say (expression : Phrase) (next : Program)
  | assign (name : VariableName) (expression : Phrase) (next : Program)
  | address (command : QuotedCommand) (next : Program)
  | ifThen (condition : Condition) (body next : Program)
  | doLoop (name : VariableName) (first : FirstBound) (last : Phrase) (body next : Program)

/-- One line of a printed program. -/
inductive ProgramLine where
  | say (expression : Phrase)
  | assign (name : VariableName) (expression : Phrase)
  | address (command : QuotedCommand)
  | ifThen (condition : Condition)
  | doLoop (name : VariableName) (first : FirstBound) (last : Phrase)
  | endBlock

/-- The lines of a program; a block has its END on a line of its own. -/
def Program.lines : Program → List ProgramLine
  | done => []
  | say expression next => .say expression :: next.lines
  | assign name expression next => .assign name expression :: next.lines
  | address command next => .address command :: next.lines
  | ifThen condition body next => .ifThen condition :: (body.lines ++ .endBlock :: next.lines)
  | doLoop name first last body next =>
    .doLoop name first last :: (body.lines ++ .endBlock :: next.lines)

/-- The number of lines of a program. -/
def Program.size (program : Program) : Nat :=
  program.lines.length

namespace Program

@[simp] theorem size_done : done.size = 0 := rfl

@[simp] theorem size_say (expression : Phrase) (next : Program) :
    (say expression next).size = next.size + 1 := rfl

@[simp] theorem size_assign (name : VariableName) (expression : Phrase) (next : Program) :
    (assign name expression next).size = next.size + 1 := rfl

@[simp] theorem size_address (command : QuotedCommand) (next : Program) :
    (address command next).size = next.size + 1 := rfl

@[simp] theorem size_ifThen (condition : Condition) (body next : Program) :
    (ifThen condition body next).size = body.size + next.size + 2 := by
  simp only [size, lines, List.length_cons, List.length_append]
  omega

@[simp] theorem size_doLoop (name : VariableName) (first : FirstBound) (last : Phrase)
    (body next : Program) : (doLoop name first last body next).size = body.size + next.size + 2 := by
  simp only [size, lines, List.length_cons, List.length_append]
  omega

end Program

/-! ## Printing -/

/-- The keywords. -/
inductive Keyword where
  | say
  | address
  | slides
  | ifBlock
  | thenBlock
  | doBlock
  | toBound
  | endBlock

/-- The capital letters of a keyword. -/
def Keyword.letters : Keyword → List Char
  | say => ['S', 'A', 'Y']
  | address => ['A', 'D', 'D', 'R', 'E', 'S', 'S']
  | slides => ['S', 'L', 'I', 'D', 'E', 'S']
  | ifBlock => ['I', 'F']
  | thenBlock => ['T', 'H', 'E', 'N']
  | doBlock => ['D', 'O']
  | toBound => ['T', 'O']
  | endBlock => ['E', 'N', 'D']

/-- How a line is written: the blanks in front of it and its keywords in some letter case. -/
structure LineStyle where
  indent : List Char
  spell : Keyword → List Char
  indent_isBlank : ∀ c ∈ indent, isBlank c = true
  indent_oneLine : '\n' ∉ indent
  spell_capitals : ∀ keyword, (spell keyword).map Char.toUpper = keyword.letters

namespace ProgramLine

/-- A line without its indentation. -/
def body (style : LineStyle) : ProgramLine → List Char
  | say expression => style.spell .say ++ ' ' :: expression.text.toList
  | assign name expression => name.text.toList ++ ' ' :: '=' :: ' ' :: expression.text.toList
  | address command =>
    style.spell .address ++
      ' ' :: (style.spell .slides ++ ' ' :: '"' :: (command.text.toList ++ ['"']))
  | ifThen condition =>
    style.spell .ifBlock ++ ' ' :: (condition.text.toList ++ ' ' :: style.spell .thenBlock)
  | doLoop name first last =>
    style.spell .doBlock ++
      ' ' :: (name.text.toList ++ ' ' :: '=' :: ' ' ::
        (first.text.toList ++ ' ' :: (style.spell .toBound ++ ' ' :: last.text.toList)))
  | endBlock => style.spell .endBlock

/-- A line as it is printed. -/
def print (style : LineStyle) (line : ProgramLine) : String :=
  String.ofList (style.indent ++ line.body style)

/-- The statement that a line stands for. -/
def statement : ProgramLine → Statement
  | say expression => .say expression.text
  | assign name expression => .assign name.text expression.text
  | address command => .address slidesAddress command.text
  | ifThen condition => .ifThen condition.text
  | doLoop name first last => .doLoop name.text first.text last.text
  | endBlock => .endBlock

end ProgramLine

/-- Prints lines, the first of which has the given position in the script. -/
def printLines (style : Nat → LineStyle) : Nat → List ProgramLine → List String
  | _, [] => []
  | position, line :: rest => line.print (style position) :: printLines style (position + 1) rest

@[simp] theorem length_printLines (style : Nat → LineStyle) (position : Nat)
    (lines : List ProgramLine) : (printLines style position lines).length = lines.length := by
  induction lines generalizing position with
  | nil => rfl
  | cons line rest ih => simp [printLines, ih]

theorem printLines_append (style : Nat → LineStyle) (position : Nat)
    (first second : List ProgramLine) :
    printLines style position (first ++ second) =
      printLines style position first ++ printLines style (position + first.length) second := by
  induction first generalizing position with
  | nil => rfl
  | cons line rest ih =>
    simp only [List.cons_append, printLines, ih, List.length_cons]
    rw [show position + 1 + rest.length = position + (rest.length + 1) by omega]

/-- A printed block and what follows it. -/
theorem printLines_block (style : Nat → LineStyle) (position : Nat) (opening : ProgramLine)
    (body next : Program) (rest : List String) :
    printLines style position (opening :: (body.lines ++ .endBlock :: next.lines)) ++ rest =
      opening.print (style position) ::
        (printLines style (position + 1) body.lines ++
          ProgramLine.endBlock.print (style (position + 1 + body.size)) ::
            (printLines style (position + 1 + body.size + 1) next.lines ++ rest)) := by
  rw [printLines, printLines_append, printLines, List.cons_append, List.append_assoc,
    List.cons_append, ← Program.size]

/-- How a script is written: each line by its position, and whether a line feed ends the last. -/
structure Layout where
  line : Nat → LineStyle
  finalBreak : Bool

/-- Whether the text of a program ends with a line that holds no statement.  A text without any
statement consists of such a line. -/
def Layout.endsBlank (layout : Layout) (program : Program) : Bool :=
  layout.finalBreak || program.lines.isEmpty

/-- All lines of the text of a program. -/
def Program.printed (program : Program) (layout : Layout) : List String :=
  printLines layout.line 0 program.lines ++ if layout.endsBlank program then [""] else []

/-- The text of a program. -/
def Program.text (program : Program) (layout : Layout) : String :=
  joinLines (program.printed layout)

/-! ## The lines of the text -/

theorem cutLines_eq_singleton {line : List Char} (honeLine : '\n' ∉ line) :
    cutLines line = [line] := by
  induction line with
  | nil => rfl
  | cons c line ih =>
    simp only [List.mem_cons, not_or] at honeLine
    rw [cutLines, if_neg (Ne.symm honeLine.1), ih honeLine.2]

theorem cutLines_append {line : List Char} (honeLine : '\n' ∉ line) (rest : List Char) :
    cutLines (line ++ '\n' :: rest) = line :: cutLines rest := by
  induction line with
  | nil => simp [cutLines]
  | cons c line ih =>
    simp only [List.mem_cons, not_or] at honeLine
    rw [List.cons_append, cutLines, if_neg (Ne.symm honeLine.1), ih honeLine.2]

/-- Lines that were joined are found again. -/
theorem splitLines_joinLines {lines : List String} (hne : lines ≠ [])
    (honeLine : ∀ line ∈ lines, '\n' ∉ line.toList) : splitLines (joinLines lines) = lines := by
  have hcut : cutLines (List.intercalate ['\n'] (lines.map String.toList)) =
      lines.map String.toList := by
    induction lines with
    | nil => exact absurd rfl hne
    | cons line rest ih =>
      have hline := honeLine line (List.mem_cons_self ..)
      cases rest with
      | nil => simpa using cutLines_eq_singleton hline
      | cons second rest =>
        have hrest := ih (by simp) fun other hother => honeLine other (List.mem_cons_of_mem _ hother)
        simp only [List.map_cons, List.intercalate_cons_cons] at hrest ⊢
        rw [List.append_assoc, List.singleton_append, cutLines_append hline, hrest]
  rw [splitLines, joinLines, String.toList_intercalate]
  simp only [show "\n".toList = ['\n'] from rfl, hcut, List.map_map]
  simp

theorem LineStyle.oneLine_spell (style : LineStyle) (keyword : Keyword) :
    '\n' ∉ style.spell keyword := by
  intro hmem
  have hcapital : '\n'.toUpper ∈ keyword.letters := by
    rw [← style.spell_capitals keyword]
    exact List.mem_map_of_mem hmem
  cases keyword <;> exact absurd hcapital (by decide)

theorem VariableName.oneLine (name : VariableName) : '\n' ∉ name.text.toList :=
  fun hmem => absurd (name.isWord _ hmem) (by decide)

theorem ProgramLine.oneLine_print (style : LineStyle) (line : ProgramLine) :
    '\n' ∉ (line.print style).toList := by
  have hspell := style.oneLine_spell
  rw [print, String.toList_ofList, List.mem_append, not_or]
  refine ⟨style.indent_oneLine, ?_⟩
  cases line with
  | say expression => simp [body, hspell, expression.oneLine]
  | assign name expression => simp [body, name.oneLine, expression.oneLine]
  | address command => simp [body, hspell, command.oneLine]
  | ifThen condition => simp [body, hspell, condition.oneLine]
  | doLoop name first last => simp [body, hspell, name.oneLine, first.oneLine, last.oneLine]
  | endBlock => simp [body, hspell]

theorem oneLine_of_mem_printLines {style : Nat → LineStyle} {position : Nat}
    {lines : List ProgramLine} {text : String} (htext : text ∈ printLines style position lines) :
    '\n' ∉ text.toList := by
  induction lines generalizing position with
  | nil => cases htext
  | cons line rest ih =>
    rcases List.mem_cons.mp htext with rfl | hrest
    · exact line.oneLine_print _
    · exact ih hrest

theorem Program.printed_ne_nil (program : Program) (layout : Layout) :
    program.printed layout ≠ [] := by
  rw [printed]
  cases hlines : program.lines with
  | nil => simp [Layout.endsBlank, hlines]
  | cons line rest => simp [printLines]

/-- The text of a program has the lines that were printed. -/
theorem Program.splitLines_text (program : Program) (layout : Layout) :
    splitLines (program.text layout) = program.printed layout := by
  refine splitLines_joinLines (program.printed_ne_nil layout) ?_
  intro line hline
  rcases List.mem_append.mp hline with hline | hline
  · exact oneLine_of_mem_printLines hline
  · split at hline
    · simp [List.mem_singleton.mp hline]
    · cases hline

end DeckScript.Script
