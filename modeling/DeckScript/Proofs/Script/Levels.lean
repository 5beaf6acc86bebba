import DeckScript.Proofs.Script.Steps
import DeckScript.Proofs.Text.Pieces

/-!
# Blocks as the search counts them and as statements say

A line is read in two ways.  The search for an END looks at its leading word and at
nothing else; the run looks for the statement on it, and there assignments come before
the words that open and close blocks.  So `end = 1` is an assignment, and it closes a
block all the same.

These are the only lines on which the two differ: `closesBlock_iff` and `opensBlock_iff`
say exactly which lines are counted, and among lines without such assignments the search
finds the END that the statements call for (`findBlockEnd_levels`).

## Strategy

What the classification of a line has to do with its leading word is said once, in
`OfWord`: each kind of statement fixes the word, an assignment has it in the name of its
variable, and an unknown line can have any but END.  The rest are case distinctions.
-/

namespace DeckScript.Script

open Text

/-! ## Leading words -/

@[simp] theorem leadingWord_trimmed (line : String) :
    leadingWord (trimmed line) = leadingWord line := by
  simp [leadingWord]

/-- A line with a leading word starts with a letter or an underscore. -/
theorem head_of_leadingWord_ne {line : String} (hword : leadingWord line ≠ "") :
    ∃ c cs, trim line.toList = c :: cs ∧ (c.isAlpha || c == '_') = true := by
  unfold leadingWord at hword
  split at hword
  · exact absurd rfl hword
  · rename_i c cs hline
    split at hword
    · exact ⟨c, cs, hline, ‹_›⟩
    · exact absurd rfl hword

/-- The leading word of a line that starts with a word is the leading word of that word. -/
theorem leadingWord_ofList_wordOf {line : String} (htight : trim line.toList = line.toList) :
    leadingWord (String.ofList (wordOf line.toList)) = leadingWord line := by
  have hword : ∀ c ∈ wordOf line.toList, isWord c = true := fun _ => List.mem_takeWhile_imp
  have hname : trim (String.ofList (wordOf line.toList)).toList = wordOf line.toList := by
    rw [String.toList_ofList]
    exact trim_eq_self (tight_of_isWord hword)
  unfold leadingWord
  rw [hname, htight]
  cases hline : line.toList with
  | nil => rfl
  | cons c cs =>
    by_cases hc : isWord c = true
    · simp [wordOf, hc, List.takeWhile_idem]
    · have hletter : (c.isAlpha || c == '_') = false := by
        rw [Bool.eq_false_iff]
        intro hletter
        rcases Bool.or_eq_true_iff.1 hletter with halpha | hunderscore
        · exact hc (isWord_of_isAlpha halpha)
        · rw [beq_iff_eq.1 hunderscore] at hc
          exact hc (by decide)
      simp [wordOf, hc, hletter]

namespace Statement

/-! ## What a statement says about the leading word -/

/-- A statement that a line with this leading word can be. -/
inductive OfWord (word : String) : Statement → Prop
  | comment (block : Bool) (hword : word = "") : OfWord word (.comment block)
  | say (expression : String) (hword : word = "SAY") : OfWord word (.say expression)
  | address (target command : String) (hword : word = "ADDRESS") :
      OfWord word (.address target command)
  | assign (name expression : String) (hname : leadingWord name = word) :
      OfWord word (.assign name expression)
  | ifThen (condition : String) (hword : word = "IF") : OfWord word (.ifThen condition)
  | doLoop (name first last : String) (hword : word = "DO") : OfWord word (.doLoop name first last)
  | endBlock (hword : word = "END") : OfWord word .endBlock
  | unknown (text : String) (htext : leadingWord text = word) (hword : word ≠ "END") :
      OfWord word (.unknown text)

theorem ofWord_address? {line : String} (hword : leadingWord line = "ADDRESS") :
    OfWord (leadingWord line) ((address? line.toList).getD (.unknown line)) := by
  have hunknown : OfWord (leadingWord line) (.unknown line) :=
    .unknown line rfl (by rw [hword]; decide)
  unfold address?
  split
  · exact hunknown
  · split
    · dsimp only
      split
      · exact .address _ _ hword
      · exact hunknown
    · exact hunknown

theorem ofWord_ifThen? {line : String} (hword : leadingWord line = "IF") :
    OfWord (leadingWord line) ((ifThen? line.toList).getD (.unknown line)) := by
  have hunknown : OfWord (leadingWord line) (.unknown line) :=
    .unknown line rfl (by rw [hword]; decide)
  unfold ifThen?
  split
  · exact hunknown
  · cases (properSkips _).findSome? (cutShortest then?) with
    | none => exact hunknown
    | some cut => exact .ifThen _ hword

theorem ofWord_doLoop? {line : String} (hword : leadingWord line = "DO") :
    OfWord (leadingWord line) ((doLoop? line.toList).getD (.unknown line)) := by
  have hunknown : OfWord (leadingWord line) (.unknown line) :=
    .unknown line rfl (by rw [hword]; decide)
  unfold doLoop?
  split
  · exact hunknown
  · cases (skips _).findSome? (cutShortest toBound?) with
    | none => exact hunknown
    | some cut => exact .doLoop _ _ _ hword

theorem ofWord_assign? {line : String} (htight : trim line.toList = line.toList)
    {statement : Statement} (hassign : assign? line.toList = some statement) :
    OfWord (leadingWord line) statement := by
  unfold assign? at hassign
  split at hassign
  · cases hassign
  · rename_i name rest hnamed
    have hname : name = wordOf line.toList := by
      unfold named? at hnamed
      split at hnamed <;> simp_all
    obtain ⟨body, -, rfl⟩ := Option.map_eq_some_iff.1 hassign
    exact .assign _ _ (by rw [hname, leadingWord_ofList_wordOf htight])

/-- A line that starts with any other character has no leading word. -/
theorem leadingWord_of_mark {line : String} (mark : Char) {rest : List Char}
    (hmark : (mark.isAlpha || mark == '_') = false) (htight : trim line.toList = line.toList)
    (hstart : (mark :: rest).isPrefixOf line.toList = true) : leadingWord line = "" := by
  by_contra hword
  obtain ⟨c, cs, hline, hletter⟩ := head_of_leadingWord_ne hword
  rw [htight] at hline
  rw [hline, List.isPrefixOf_cons_cons, Bool.and_eq_true, beq_iff_eq] at hstart
  rw [← hstart.1, hmark] at hletter
  cases hletter

/-- A trimmed line is classified as its leading word allows. -/
theorem ofWord_ofLine {line : String} (htight : trim line.toList = line.toList) :
    OfWord (leadingWord line) (ofLine line) := by
  unfold ofLine
  dsimp only
  split
  · exact .comment false (leadingWord_of_mark '-' (by decide) htight ‹_›)
  · split
    · exact .comment true (leadingWord_of_mark '/' (by decide) htight ‹_›)
    · split
      · exact .say _ ‹_›
      · split
        · exact ofWord_address? ‹_›
        · split
          · exact ofWord_assign? htight ‹_›
          · split
            · exact ofWord_ifThen? ‹_›
            · split
              · exact ofWord_doLoop? ‹_›
              · split
                · exact .endBlock ‹_›
                · exact .unknown line rfl ‹_›

/-! ## Levels -/

/-- Whether a statement opens a block: IF and DO, also where the rest of the line is not
recognised. -/
def opens : Statement → Bool
  | ifThen _ => true
  | doLoop .. => true
  | unknown text => opensBlock text
  | _ => false

/-- Whether a statement closes a block. -/
def closes : Statement → Bool
  | endBlock => true
  | _ => false

/-- The number of statements before the END that closes the current block, with `depth` inner blocks
open; all of them if there is no such END. -/
def bodyLength (depth : Nat) : List Statement → Nat
  | [] => 0
  | statement :: rest =>
    if statement.opens then 1 + bodyLength (depth + 1) rest
    else if statement.closes then
      match depth with
      | 0 => 0
      | depth + 1 => 1 + bodyLength depth rest
    else 1 + bodyLength depth rest

end Statement

/-- The statement on a line. -/
def statementOf (line : String) : Statement :=
  Statement.ofLine (trimmed line)

/-- The line assigns to a variable whose name, in some case, is among the words. -/
def AssignsTo (words : List String) (line : String) : Prop :=
  ∃ name expression, statementOf line = .assign name expression ∧ leadingWord name ∈ words

instance (words : List String) (line : String) : Decidable (AssignsTo words line) :=
  match hline : statementOf line with
  | .assign name _ => decidable_of_iff (leadingWord name ∈ words) (by simp [AssignsTo, hline])
  | .say _ | .address _ _ | .ifThen _ | .doLoop _ _ _ | .endBlock | .comment _ | .unknown _ =>
    isFalse (by simp [AssignsTo, hline])

theorem ofWord_statementOf (line : String) :
    Statement.OfWord (leadingWord line) (statementOf line) := by
  have htight : trim (trimmed line).toList = (trimmed line).toList := by simp
  have hword := Statement.ofWord_ofLine htight
  rwa [leadingWord_trimmed] at hword

/-- The lines that are counted as ENDs. -/
theorem closesBlock_iff (line : String) :
    closesBlock line = true ↔ statementOf line = .endBlock ∨ AssignsTo ["END"] line := by
  have hword := ofWord_statementOf line
  unfold AssignsTo closesBlock
  cases hstatement : statementOf line <;> rw [hstatement] at hword <;> cases hword <;> simp_all

/-- The lines that are counted as the beginning of a block. -/
theorem opensBlock_iff (line : String) :
    opensBlock line = true ↔ (statementOf line).opens = true ∨ AssignsTo blockOpeners line := by
  have hword := ofWord_statementOf line
  unfold AssignsTo opensBlock
  cases hstatement : statementOf line <;> rw [hstatement] at hword <;> cases hword <;>
    simp_all [blockOpeners, Statement.opens, opensBlock]

/-! ## The search -/

/-- The words whose use as variables misleads the search. -/
def blockWords : List String := "END" :: blockOpeners

section

variable {line : String} (hplain : ¬AssignsTo blockWords line)
include hplain

theorem opensBlock_of_plain : opensBlock line = (statementOf line).opens := by
  rw [Bool.eq_iff_iff, opensBlock_iff, or_iff_left]
  rintro ⟨name, expression, hstatement, hname⟩
  exact hplain ⟨name, expression, hstatement, List.mem_cons_of_mem _ hname⟩

theorem closesBlock_of_plain : closesBlock line = (statementOf line).closes := by
  have hcloses : (statementOf line).closes = true ↔ statementOf line = .endBlock := by
    cases statementOf line <;> simp [Statement.closes]
  rw [Bool.eq_iff_iff, closesBlock_iff, hcloses, or_iff_left]
  rintro ⟨name, expression, hstatement, hname⟩
  exact hplain ⟨name, expression, hstatement, List.mem_cons.2 (.inl (List.mem_singleton.1 hname))⟩

end

theorem bodyLength_of_plain {lines : List String}
    (hplain : ∀ line ∈ lines, ¬AssignsTo blockWords line) (depth : Nat) :
    bodyLength depth lines = Statement.bodyLength depth (lines.map statementOf) := by
  induction lines generalizing depth with
  | nil => rfl
  | cons line rest ih =>
    have hrest := ih fun line hline => hplain line (List.mem_cons_of_mem _ hline)
    have hline := hplain line (List.mem_cons_self ..)
    rw [List.map_cons, bodyLength.eq_def, Statement.bodyLength.eq_def]
    dsimp only
    rw [opensBlock_of_plain hline, closesBlock_of_plain hline]
    cases depth <;> simp only [hrest]

/-- **The search counts what the statements say, assignments to END, IF and DO aside.**  A line is
counted as closing a block exactly if it is an END or assigns to a variable of that name, and as
opening one exactly if it is an IF or a DO, recognised as a whole or not, or assigns to a variable
of such a name.  Where no line does the latter, the search finds the END of the statements. -/
theorem findBlockEnd_levels (lines : List String) (start stop : Nat) :
    (∀ line ∈ lines,
      (closesBlock line = true ↔ statementOf line = .endBlock ∨ AssignsTo ["END"] line) ∧
      (opensBlock line = true ↔
        (statementOf line).opens = true ∨ AssignsTo blockOpeners line)) ∧
    (start ≤ stop → stop ≤ lines.length →
      (∀ line ∈ window lines start stop, ¬AssignsTo blockWords line) →
      findBlockEnd lines start stop =
        .ok (start + Statement.bodyLength 0 ((window lines start stop).map statementOf))) := by
  refine ⟨fun line _ => ⟨closesBlock_iff line, opensBlock_iff line⟩, ?_⟩
  intro hle hstop hplain
  rw [findBlockEnd_eq lines start stop hle hstop, ← window, bodyLength_of_plain hplain]

/-- The search passes the block inside and stops at the END of its own. -/
theorem findBlockEnd_levels_nested :
    findBlockEnd ["If total > 1 then", "endless = 5", "END", "END"] 0 4 = .ok 3 :=
  (findBlockEnd_levels ["If total > 1 then", "endless = 5", "END", "END"] 0 4).2 (by decide)
    (by decide) (by decide)

/-- An assignment may be counted as the END of a block, or as the beginning of one. -/
theorem not_forall_findBlockEnd_levels :
    ¬(∀ line, closesBlock line = true → statementOf line = .endBlock) ∧
    ¬(∀ line, opensBlock line = true → (statementOf line).opens = true) ∧
    ¬∀ (lines : List String) (start stop : Nat), start ≤ stop → stop ≤ lines.length →
      findBlockEnd lines start stop =
        .ok (start + Statement.bodyLength 0 ((window lines start stop).map statementOf)) := by
  refine ⟨fun hall => ?_, fun hall => ?_, fun hall => ?_⟩
  · exact absurd (hall "end = 5" (by decide)) (by decide)
  · exact absurd (hall "if = 5" (by decide)) (by decide)
  · exact absurd (hall ["end = 5", "END"] 0 2 (by decide) (by decide)) (by decide)

end DeckScript.Script
