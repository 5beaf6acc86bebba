import DeckScript.Proofs.Script.Recognition

/-!
# A script runs like its tree

`Program.walk` runs a program by recursion on its tree: a condition is evaluated once
and its body is run or not, the bounds of a loop are evaluated once and its body is run
for each value between them.  `runsLikeTree` says that running the printed lines does
the same, whatever lines come after them.

## Strategy

Running lines is not recursive in the tree.  Three things have to come out right.

* **Skipping.**  A condition that fails skips as many lines as the search for its END
  counts.  `passedOver` shows that the search counts a printed program as one
  unit, at any depth, so it stops at the END of the block it was started for.
* **Falling through.**  A condition that holds goes on with the line after it and meets
  the END of its block as an ordinary line.  The induction is therefore on lines
  followed by any others, and the body of the condition is followed by its END.
* **Repeating.**  A loop runs the lines up to its END as a script of their own.  They
  are the printed body, followed by nothing.
-/

namespace DeckScript.Script

open Text

variable {σ : Type}

/-! ## Walking the tree -/

/-- The values of the variable of a loop. -/
def loopValues (first last : Int) : List Int :=
  (List.range (last + 1 - first).toNat).map fun round : Nat => first + round

/-- Runs a program by recursion on its tree.  `send` sends a command; `pause` is made wherever a
line of the script begins that is run, and before each round of a loop.  The number of the line
is only for the log. -/
def Program.walk (pause : Run σ Unit) (send : Nat → String → Run σ Unit) :
    Nat → Program → Run σ Unit
  | _, .done => pure ()
  | line, .say expression next => do
    pause
    Run.say expression.text
    walk pause send (line + 1) next
  | line, .assign name expression next => do
    pause
    Run.assign name.text expression.text
    walk pause send (line + 1) next
  | line, .address command next => do
    pause
    send line command.text
    walk pause send (line + 1) next
  | line, .ifThen condition body next => do
    pause
    let value ← Run.evaluate condition.text
    (if value.isTruthy then do
      walk pause send (line + 1) body
      pause
    else pure ())
    walk pause send (line + 1 + body.size + 1) next
  | line, .doLoop name first last body next => do
    pause
    let first ← Run.bound first.text
    let last ← Run.bound last.text
    Run.announce name.text first last
    (loopValues first last).forM fun value => do
      pause
      Run.setVariable name.text (.int value)
      walk pause send (line + 1) body
    walk pause send (line + 1 + body.size + 1) next

/-- Sends a command to the slides unless the time is over. -/
def Run.sendToSlides (surroundings : Surroundings σ) (line : Nat) (command : String) :
    Run σ Unit :=
  Run.sendCommand surroundings line slidesAddress command

/-! ## Blocks of printed programs -/

theorem bodyLength_opening (style : LineStyle) {line : ProgramLine} (hopens : line.opens = true)
    (depth : Nat) (rest : List String) :
    bodyLength depth (line.print style :: rest) = 1 + bodyLength (depth + 1) rest := by
  rw [bodyLength.eq_def]
  simp [line.opensBlock_print style, hopens]

theorem bodyLength_plain (style : LineStyle) {line : ProgramLine} (hopens : line.opens = false)
    (hcloses : line.closes = false) (depth : Nat) (rest : List String) :
    bodyLength depth (line.print style :: rest) = 1 + bodyLength depth rest := by
  rw [bodyLength.eq_def]
  simp [line.opensBlock_print style, line.closesBlock_print style, hopens, hcloses]

/-- The END of an inner block. -/
theorem bodyLength_end (style : LineStyle) (depth : Nat) (rest : List String) :
    bodyLength (depth + 1) (ProgramLine.endBlock.print style :: rest) =
      1 + bodyLength depth rest := by
  rw [bodyLength.eq_def]
  simp [ProgramLine.opensBlock_print, ProgramLine.closesBlock_print, ProgramLine.opens,
    ProgramLine.closes]

/-- The END of the block itself. -/
theorem bodyLength_end_zero (style : LineStyle) (rest : List String) :
    bodyLength 0 (ProgramLine.endBlock.print style :: rest) = 0 := by
  rw [bodyLength.eq_def]
  simp [ProgramLine.opensBlock_print, ProgramLine.closesBlock_print, ProgramLine.opens,
    ProgramLine.closes]

/-- The search for an END passes over the printed program, at any depth and whatever follows. -/
def PassedOver (style : Nat → LineStyle) (program : Program) : Prop :=
  ∀ (position depth : Nat) (rest : List String),
    bodyLength depth (printLines style position program.lines ++ rest) =
      program.size + bodyLength depth rest

section

variable {style : Nat → LineStyle} {body next : Program}

/-- A line that neither opens nor closes a block, and what follows. -/
theorem PassedOver.plain (hnext : PassedOver style next) {line : ProgramLine}
    (hopens : line.opens = false) (hcloses : line.closes = false) (position depth : Nat)
    (rest : List String) :
    bodyLength depth (printLines style position (line :: next.lines) ++ rest) =
      (next.size + 1) + bodyLength depth rest := by
  rw [printLines, List.cons_append, bodyLength_plain _ hopens hcloses, hnext]
  omega

/-- A block: its opening, its body at one level more, its END, and what follows. -/
theorem PassedOver.block (hbody : PassedOver style body) (hnext : PassedOver style next)
    {opening : ProgramLine} (hopens : opening.opens = true) (position depth : Nat)
    (rest : List String) :
    bodyLength depth
        (printLines style position (opening :: (body.lines ++ .endBlock :: next.lines)) ++ rest) =
      (body.size + next.size + 2) + bodyLength depth rest := by
  rw [printLines_block, bodyLength_opening _ hopens, hbody, bodyLength_end, hnext]
  omega

end

theorem passedOver (style : Nat → LineStyle) (program : Program) : PassedOver style program := by
  intro position depth rest
  induction program generalizing position depth rest with
  | done => simp [Program.lines, printLines]
  | say expression next hnext => exact PassedOver.plain hnext rfl rfl position depth rest
  | assign name expression next hnext => exact PassedOver.plain hnext rfl rfl position depth rest
  | address command next hnext => exact PassedOver.plain hnext rfl rfl position depth rest
  | ifThen condition body next hbody hnext =>
    rw [Program.size_ifThen]
    exact PassedOver.block hbody hnext rfl position depth rest
  | doLoop name first last body next hbody hnext =>
    rw [Program.size_doLoop]
    exact PassedOver.block hbody hnext rfl position depth rest

/-- The body of a block ends at the END that was printed for it. -/
theorem bodyLength_block (style : Nat → LineStyle) (body : Program) (position : Nat)
    (closing : LineStyle) (rest : List String) :
    bodyLength 0 (printLines style position body.lines ++
      ProgramLine.endBlock.print closing :: rest) = body.size := by
  rw [passedOver style body, bodyLength_end_zero, Nat.add_zero]

theorem drop_block (style : Nat → LineStyle) (body : Program) (position : Nat)
    (closing : String) (rest : List String) :
    (printLines style position body.lines ++ closing :: rest).drop (body.size + 1) = rest := by
  have hlength : (printLines style position body.lines).length = body.size := length_printLines ..
  rw [← List.drop_drop, List.drop_left' hlength]
  rfl

theorem take_block (style : Nat → LineStyle) (body : Program) (position : Nat)
    (rest : List String) :
    (printLines style position body.lines ++ rest).take body.size =
      printLines style position body.lines :=
  List.take_left' (length_printLines ..)

/-! ## Running printed lines -/

namespace Run

/-- Counting rounds down is going through the values of the variable. -/
theorem rounds_eq_forM (surroundings : Surroundings σ) (name : String) (body : Run σ Unit)
    (count : Nat) (first : Int) :
    rounds surroundings name body count first =
      ((List.range count).map fun round : Nat => first + round).forM (fun value => do
        checkpoint surroundings
        setVariable name (.int value)
        body) := by
  induction count generalizing first with
  | zero => rfl
  | succ count ih =>
    have hvalues : ((List.range (count + 1)).map fun round : Nat => first + round) =
        first :: (List.range count).map fun round : Nat => first + 1 + round := by
      rw [List.range_succ_eq_map, List.map_cons, List.map_map]
      congr 1
      · simp
      · refine List.map_congr_left fun round _ => ?_
        simp only [Function.comp_apply]
        push_cast
        omega
    rw [hvalues, List.forM_eq_forM, List.forM_cons, rounds, ih, List.forM_eq_forM]
    simp only [bind_assoc]

theorem runLines_print_cons (surroundings : Surroundings σ) (position : Nat) (style : LineStyle)
    (line : ProgramLine) (rest : List String) :
    runLines surroundings position (line.print style :: rest) = (do
      checkpoint surroundings
      let skipped ← perform surroundings position rest
        (fun _ => runLines surroundings (position + 1) (rest.take (bodyLength 0 rest)))
        line.statement
      runLines surroundings (position + 1 + skipped) (rest.drop skipped)) := by
  rw [runLines_cons, runLine, line.ofLine_print style]

/-- A statement that opens no block is followed by the next line. -/
theorem runLines_simple (surroundings : Surroundings σ) (position : Nat) (style : LineStyle)
    {line : ProgramLine} (rest : List String) (action : Run σ Unit)
    (haction : ∀ body, perform surroundings position rest body line.statement =
      (do action; return 0)) :
    runLines surroundings position (line.print style :: rest) = (do
      checkpoint surroundings
      action
      runLines surroundings (position + 1) rest) := by
  rw [runLines_print_cons, haction]
  simp

theorem runLines_end (surroundings : Surroundings σ) (position : Nat) (style : LineStyle)
    (rest : List String) :
    runLines surroundings position (ProgramLine.endBlock.print style :: rest) = (do
      checkpoint surroundings
      runLines surroundings (position + 1) rest) := by
  rw [runLines_simple surroundings position style rest (pure ()) fun _ => rfl]
  simp

/-- The printed lines of the program run like its tree, whatever lines follow. -/
def RunsLikeTree (surroundings : Surroundings σ) (style : Nat → LineStyle) (program : Program) :
    Prop :=
  ∀ (position : Nat) (rest : List String),
    runLines surroundings position (printLines style position program.lines ++ rest) = (do
      program.walk (checkpoint surroundings) (sendToSlides surroundings) position
      runLines surroundings (position + program.size) rest)

/-- A statement that opens no block, and what follows. -/
theorem RunsLikeTree.simple {surroundings : Surroundings σ} {style : Nat → LineStyle}
    {next : Program} (hnext : RunsLikeTree surroundings style next) {line : ProgramLine}
    {position : Nat} {action : Run σ Unit}
    (haction : ∀ rest body, perform surroundings position rest body line.statement =
      (do action; return 0)) (rest : List String) :
    runLines surroundings position (printLines style position (line :: next.lines) ++ rest) = (do
      (do
        checkpoint surroundings
        action
        next.walk (checkpoint surroundings) (sendToSlides surroundings) (position + 1))
      runLines surroundings (position + (next.size + 1)) rest) := by
  have hend : position + (next.size + 1) = position + 1 + next.size := by omega
  rw [printLines, List.cons_append,
    runLines_simple surroundings position _ _ action (haction _), hnext, hend]
  simp only [bind_assoc]

/-- **Printed lines run like the tree.** -/
theorem runsLikeTree (surroundings : Surroundings σ) (style : Nat → LineStyle)
    (program : Program) : RunsLikeTree surroundings style program := by
  intro position rest
  induction program generalizing position rest with
  | done => simp [Program.lines, printLines, Program.walk]
  | say expression next hnext => exact RunsLikeTree.simple hnext (fun _ _ => rfl) rest
  | assign name expression next hnext => exact RunsLikeTree.simple hnext (fun _ _ => rfl) rest
  | address command next hnext => exact RunsLikeTree.simple hnext (fun _ _ => rfl) rest
  | ifThen condition body next hbody hnext =>
    have hend : position + (body.size + next.size + 2) =
        position + 1 + body.size + 1 + next.size := by omega
    rw [Program.lines, printLines_block, runLines_print_cons, Program.size_ifThen, hend]
    simp only [ProgramLine.statement, perform, Program.walk, bind_assoc, pure_bind,
      bodyLength_block]
    refine bind_congr fun _ => bind_congr fun value => ?_
    by_cases hvalue : value.isTruthy = true
    · -- the body is run, then its END is met as a line
      simp only [hvalue, if_true, Nat.add_zero, List.drop_zero, hbody, runLines_end, hnext,
        bind_assoc]
    · -- the body and its END are skipped
      simp only [hvalue, Bool.false_eq_true, if_false, drop_block, pure_bind]
      exact hnext _ _
  | doLoop name first last body next hbody hnext =>
    have hend : position + (body.size + next.size + 2) =
        position + 1 + body.size + 1 + next.size := by omega
    -- the body is run as a script of its own
    have hround : runLines surroundings (position + 1) (printLines style (position + 1) body.lines) =
        body.walk (checkpoint surroundings) (sendToSlides surroundings) (position + 1) := by
      simpa [runLines_nil] using hbody (position + 1) []
    rw [Program.lines, printLines_block, runLines_print_cons, Program.size_doLoop, hend]
    simp only [ProgramLine.statement, perform, Program.walk, bind_assoc, pure_bind,
      bodyLength_block, take_block, drop_block, loop, rounds_eq_forM, hround, loopValues]
    refine bind_congr fun _ => bind_congr fun _ => bind_congr fun _ => bind_congr fun _ => ?_
    exact bind_congr fun _ => hnext _ _

end Run

end DeckScript.Script
