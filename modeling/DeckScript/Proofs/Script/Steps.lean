import DeckScript.Proofs.Attempt
import DeckScript.Script.Run

/-!
# The steps of a run

`Run.runLines` runs a script to its end in one go, and its recursion hides the places
where a run is looked at from outside: before each line and before each round of a
loop.  This file takes the run apart at these places.  What is left to do is a stack of
`Frame`s, a cursor in a range of lines or a counter of rounds each, and `Run.step`
begins the line or round that comes next.  A step knows nothing about the length of
the run, and nothing in its definition says that repeating it ever comes to an end.

The main statement is `Run.exists_steps_eq`: from every state, after finitely many
steps nothing is left to do, and the result is that of `Run.runLines`.  What holds of
every step therefore holds all along every run, and what a run does can be told by
saying how far it has come.

## Strategy

A frame `Completes` as a part of the run if repeated steps have the effect of that
part and lead back to the frames below.  Frames in a row complete one after the other
(`Completes.append`), and a frame completes if what its step begins does
(`Completes.of_advance`).  A loop completes by induction on the rounds that are left,
given that its body does; a block by induction on the number of its lines, since both
what follows a line and the body of a loop have fewer.
-/

namespace DeckScript.Script

variable {σ : Type}

/-! ## What is left to do -/

/-- What is left to do of a block or of a loop. -/
inductive Frame where
  /-- The block of the lines from `start` up to `stop`; the line at `position` comes next. -/
  | block (start position stop : Nat)
  /-- The loop over the lines from `start` up to `stop`; the rounds from `value` to `last` are
  left. -/
  | loop (name : String) (value last : Int) (start stop : Nat)
deriving Repr, DecidableEq

/-- Whether nothing is left to do. -/
def Frame.isOver : Frame → Bool
  | block _ position stop => decide (stop ≤ position)
  | loop _ value last _ _ => decide (last < value)

/-- The frames in which something is to be done next, the innermost first. -/
def pending (frames : List Frame) : List Frame :=
  frames.dropWhile Frame.isOver

@[simp] theorem pending_nil : pending [] = [] := rfl

theorem pending_cons_of_isOver {frame : Frame} (hover : frame.isOver = true)
    (frames : List Frame) : pending (frame :: frames) = pending frames :=
  List.dropWhile_cons_of_pos hover

theorem pending_cons_of_not_isOver {frame : Frame} (hover : frame.isOver = false)
    (frames : List Frame) : pending (frame :: frames) = frame :: frames :=
  List.dropWhile_cons_of_neg (by simp [hover])

theorem pending_append_of_eq_nil {frames : List Frame} (hframes : pending frames = [])
    (below : List Frame) : pending (frames ++ below) = pending below := by
  rw [pending] at hframes
  rw [pending, List.dropWhile_append, hframes]
  rfl

theorem pending_append_of_eq_cons {frames rest : List Frame} {frame : Frame}
    (hframes : pending frames = frame :: rest) (below : List Frame) :
    pending (frames ++ below) = frame :: (rest ++ below) := by
  rw [pending] at hframes
  rw [pending, List.dropWhile_append, hframes]
  rfl

theorem length_pending_le (frames : List Frame) : (pending frames).length ≤ frames.length :=
  (List.dropWhile_suffix Frame.isOver).length_le

/-- The first pending frame has something to do. -/
theorem isOver_eq_false_of_pending_eq_cons {frames rest : List Frame} {frame : Frame}
    (hframes : pending frames = frame :: rest) : frame.isOver = false := by
  have hhead := List.head?_dropWhile_not Frame.isOver frames
  rw [pending] at hframes
  rw [hframes] at hhead
  exact hhead

/-- The lines from `start` up to `stop`. -/
def window (lines : List String) (start stop : Nat) : List String :=
  (lines.drop start).take (stop - start)

theorem window_eq_nil (lines : List String) {start stop : Nat} (hle : stop ≤ start) :
    window lines start stop = [] := by
  have hcount : stop - start = 0 := by omega
  rw [window, hcount, List.take_zero]

theorem window_all (lines : List String) : window lines 0 lines.length = lines := by
  simp [window]

theorem length_window_le (lines : List String) (start stop : Nat) :
    (window lines start stop).length ≤ stop - start := by
  rw [window, List.length_take]
  omega

theorem window_cons {lines : List String} {position stop : Nat} (hlt : position < stop)
    (hstop : stop ≤ lines.length) :
    window lines position stop =
      lines.getD position "" :: window lines (position + 1) stop := by
  have hposition : position < lines.length := by omega
  have hcount : stop - position = (stop - (position + 1)) + 1 := by omega
  rw [window, window, List.drop_eq_getElem_cons hposition, hcount, List.take_succ_cons]
  simp [hposition]

theorem drop_window (lines : List String) (start stop skipped : Nat) :
    (window lines start stop).drop skipped = window lines (start + skipped) stop := by
  have hcount : stop - start - skipped = stop - (start + skipped) := by omega
  rw [window, window, List.drop_take, List.drop_drop, hcount]

theorem take_window (lines : List String) {start middle stop : Nat} (hle : middle ≤ stop) :
    (window lines start stop).take (middle - start) = window lines start middle := by
  have hcount : min (middle - start) (stop - start) = middle - start := by omega
  rw [window, window, List.take_take, hcount]

/-- The position of the END that closes the block whose body begins at `start`, searched before
`stop`; `stop` if there is none. -/
def blockEnd (lines : List String) (start stop : Nat) : Nat :=
  start + bodyLength 0 (window lines start stop)

theorem blockEnd_le (lines : List String) {start stop : Nat} (hle : start ≤ stop) :
    blockEnd lines start stop ≤ stop := by
  have hbody := bodyLength_le_length 0 (window lines start stop)
  have hwindow := length_window_le lines start stop
  unfold blockEnd
  omega

theorem le_blockEnd (lines : List String) (start stop : Nat) :
    start ≤ blockEnd lines start stop :=
  Nat.le_add_right ..

/-- The statement on the line at a position. -/
def statementAt (lines : List String) (position : Nat) : Statement :=
  Statement.ofLine (Text.trimmed (lines.getD position ""))

namespace Run

/-! ## Steps -/

/-- Begins the line at `position` of the block from `start` up to `stop`.  A loop is entered with
its bounds, and everything else on the line is done; the cursor goes past the line and what it
skips. -/
def beginLine (surroundings : Surroundings σ) (lines : List String)
    (start position stop : Nat) : Run σ (List Frame) :=
  match statementAt lines position with
  | .doLoop name first last => do
    let first ← bound first
    let last ← bound last
    announce name first last
    let bodyStop := blockEnd lines (position + 1) stop
    return [.loop name first last (position + 1) bodyStop,
      .block start (min (bodyStop + 1) stop) stop]
  | statement => do
    let skipped ← perform surroundings position (window lines (position + 1) stop)
      (fun _ => pure ()) statement
    return [.block start (min (position + 1 + skipped) stop) stop]

/-- Begins what comes next in a frame: the frames that are left of it. -/
def advance (surroundings : Surroundings σ) (lines : List String) : Frame → Run σ (List Frame)
  | .block start position stop => beginLine surroundings lines start position stop
  | .loop name value last start stop => do
    setVariable name (.int value)
    return [.block start start stop, .loop name (value + 1) last start stop]

/-- Begins the next line or round, if the run is to go on. -/
def step (surroundings : Surroundings σ) (lines : List String) : List Frame → Run σ (List Frame)
  | [] => pure []
  | frame :: rest => do
    checkpoint surroundings
    let begun ← advance surroundings lines frame
    return pending (begun ++ rest)

/-- Begins one line or round after the other. -/
def steps (surroundings : Surroundings σ) (lines : List String) :
    Nat → List Frame → Run σ (List Frame)
  | 0, frames => pure frames
  | count + 1, frames => do
    let frames ← step surroundings lines frames
    steps surroundings lines count frames

/-- What there is to do at the start of a run. -/
def opening (lines : List String) : List Frame :=
  pending [.block 0 0 lines.length]

section

variable {surroundings : Surroundings σ} {lines : List String}

theorem steps_add (first second : Nat) (frames : List Frame) :
    steps surroundings lines (first + second) frames = (do
      let frames ← steps surroundings lines first frames
      steps surroundings lines second frames) := by
  induction first generalizing frames with
  | zero => simp [steps]
  | succ first ih =>
    rw [Nat.add_right_comm, steps, steps, bind_assoc]
    exact bind_congr fun frames => ih frames

/-- After a further step, a step is made from where the steps so far have led. -/
theorem steps_succ (count : Nat) (frames : List Frame) :
    steps surroundings lines (count + 1) frames = (do
      let frames ← steps surroundings lines count frames
      step surroundings lines frames) := by
  rw [steps_add]
  refine bind_congr fun frames => ?_
  simp [steps]

theorem run_step_of_error {state after : RunState σ} {error : RunError}
    (hlook : (checkpoint surroundings).run state = (.error error, after)) (frame : Frame)
    (rest : List Frame) :
    (step surroundings lines (frame :: rest)).run state = (.error error, after) := by
  rw [step, Attempt.run_bind, hlook]

theorem run_step_of_ok {state looked : RunState σ}
    (hlook : (checkpoint surroundings).run state = (.ok (), looked)) (frame : Frame)
    (rest : List Frame) :
    (step surroundings lines (frame :: rest)).run state =
      (((advance surroundings lines frame).run looked).1.map fun begun => pending (begun ++ rest),
        ((advance surroundings lines frame).run looked).2) := by
  rw [step, Attempt.run_bind, hlook]
  dsimp only
  rw [Attempt.run_bind]
  rcases (advance surroundings lines frame).run looked with ⟨error | begun, after⟩ <;> rfl

/-- A step that succeeds has passed the look at its beginning. -/
theorem step_eq_ok {frame : Frame} {rest frames : List Frame} {state after : RunState σ}
    (hstep : (step surroundings lines (frame :: rest)).run state = (.ok frames, after)) :
    ∃ looked begun, (checkpoint surroundings).run state = (.ok (), looked) ∧
      (advance surroundings lines frame).run looked = (.ok begun, after) ∧
      pending (begun ++ rest) = frames := by
  obtain ⟨⟨⟩, looked, hlooked, hstep⟩ := Attempt.run_bind_eq_ok.1 hstep
  obtain ⟨begun, _, hbegun, hstep⟩ := Attempt.run_bind_eq_ok.1 hstep
  cases hstep
  exact ⟨looked, begun, hlooked, hbegun, rfl⟩

/-! ## Frames as parts of a run -/

/-- Steps from the frames have the effect of `run` and lead to whatever frames lie below. -/
def Completes (surroundings : Surroundings σ) (lines : List String) (frames : List Frame)
    (run : Run σ Unit) : Prop :=
  ∀ (below : List Frame) (state : RunState σ), ∃ count,
    (steps surroundings lines count (pending (frames ++ below))).run state =
      (do run; return pending below : Run σ (List Frame)).run state

theorem Completes.of_isOver {frame : Frame} (hover : frame.isOver = true) :
    Completes surroundings lines [frame] (pure ()) := by
  intro below state
  refine ⟨0, ?_⟩
  rw [List.singleton_append, pending_cons_of_isOver hover]
  rfl

theorem Completes.append {frames more : List Frame} {run next : Run σ Unit}
    (hrun : Completes surroundings lines frames run)
    (hnext : Completes surroundings lines more next) :
    Completes surroundings lines (frames ++ more) (do run; next) := by
  intro below state
  obtain ⟨count, hcount⟩ := hrun (more ++ below) state
  rw [List.append_assoc]
  rw [Attempt.run_bind] at hcount
  rcases hresult : run.run state with ⟨error | ⟨⟩, after⟩ <;> rw [hresult] at hcount
  · refine ⟨count, ?_⟩
    rw [hcount, Attempt.run_bind, Attempt.run_bind, hresult]
  · -- the steps of the second part are made where those of the first have ended
    obtain ⟨further, hfurther⟩ := hnext below after
    refine ⟨count + further, ?_⟩
    rw [steps_add, Attempt.run_bind, hcount, Attempt.run_bind, Attempt.run_bind, hresult]
    exact hfurther

/-- A frame with something to do completes if what its step begins completes. -/
theorem Completes.of_advance {α : Type} {frame : Frame} (hover : frame.isOver = false)
    (effect : Run σ α) (frames : α → List Frame) (next : α → Run σ Unit)
    (hadvance : advance surroundings lines frame = do
      let found ← effect
      return frames found)
    (hnext : ∀ found, Completes surroundings lines (frames found) (next found)) :
    Completes surroundings lines [frame] (do
      checkpoint surroundings
      let found ← effect
      next found) := by
  intro below state
  have hstep : step surroundings lines (pending ([frame] ++ below)) = (do
      let found ← (do checkpoint surroundings; effect)
      return pending (frames found ++ below)) := by
    rw [List.singleton_append, pending_cons_of_not_isOver hover, step, hadvance]
    simp only [bind_assoc, pure_bind]
  have hgroup : (do checkpoint surroundings; let found ← effect; next found : Run σ Unit) = (do
      let found ← (do checkpoint surroundings; effect)
      next found) := by
    simp only [bind_assoc]
  rw [hgroup]
  rcases hresult : (do checkpoint surroundings; effect : Run σ α).run state with
    ⟨error | found, after⟩
  · refine ⟨1, ?_⟩
    rw [steps, hstep]
    simp only [Attempt.run_bind] at hresult ⊢
    simp only [hresult]
  · obtain ⟨count, hcount⟩ := hnext found below after
    refine ⟨count + 1, ?_⟩
    rw [steps, hstep]
    simp only [Attempt.run_bind] at hresult hcount ⊢
    simp only [hresult]
    exact hcount

/-! ## Loops and blocks -/

theorem loop_completes {name : String} {start stop : Nat} {body : Run σ Unit}
    (hbody : Completes surroundings lines [.block start start stop] body) (last : Int)
    (left : Nat) (value : Int) (hleft : left = (last + 1 - value).toNat) :
    Completes surroundings lines [.loop name value last start stop]
      (rounds surroundings name body left value) := by
  induction left generalizing value with
  | zero =>
    have hover : (Frame.loop name value last start stop).isOver = true := by
      simp only [Frame.isOver, decide_eq_true_eq]
      omega
    exact Completes.of_isOver hover
  | succ left ih =>
    have hover : (Frame.loop name value last start stop).isOver = false := by
      simp only [Frame.isOver, decide_eq_false_iff_not]
      omega
    have hrest := hbody.append (ih (value + 1) (by omega))
    exact Completes.of_advance hover (setVariable name (.int value))
      (fun _ => [.block start start stop, .loop name (value + 1) last start stop])
      _ rfl fun _ => hrest

theorem runLine_eq (position : Nat) (rest : List String) (body : Unit → Run σ Unit)
    (next : Nat → Run σ Unit) :
    runLine surroundings position (lines.getD position "") rest body next = (do
      checkpoint surroundings
      let skipped ← perform surroundings position rest body (statementAt lines position)
      next skipped) := by
  rw [runLine, statementAt]

/-- Only a loop has its body run by the line that opens it. -/
theorem perform_congr (position : Nat) (rest : List String) (body body' : Unit → Run σ Unit)
    {statement : Statement} (hloop : ∀ name first last, statement ≠ .doLoop name first last) :
    perform surroundings position rest body statement =
      perform surroundings position rest body' statement := by
  cases statement with
  | doLoop name first last => exact absurd rfl (hloop name first last)
  | _ => rfl

/-- Where the cursor is beyond the last line does not matter. -/
theorem runLines_min (position stop : Nat) :
    runLines surroundings (min position stop) (window lines (min position stop) stop) =
      runLines surroundings position (window lines position stop) := by
  by_cases hle : position ≤ stop
  · rw [Nat.min_eq_left hle]
  · rw [window_eq_nil lines (show stop ≤ min position stop by omega),
      window_eq_nil lines (show stop ≤ position by omega), runLines_nil, runLines_nil]

/-- A line that opens a loop completes if the body and what follows the loop do. -/
theorem loopLine_completes {start position stop : Nat} {name first last : String}
    (hposition : position < stop)
    (hstatement : statementAt lines position = .doLoop name first last)
    (hbody : Completes surroundings lines
      [.block (position + 1) (position + 1) (blockEnd lines (position + 1) stop)]
      (runLines surroundings (position + 1)
        (window lines (position + 1) (blockEnd lines (position + 1) stop))))
    (hnext : Completes surroundings lines
      [.block start (min (blockEnd lines (position + 1) stop + 1) stop) stop]
      (runLines surroundings (blockEnd lines (position + 1) stop + 1)
        (window lines (blockEnd lines (position + 1) stop + 1) stop))) :
    Completes surroundings lines [.block start position stop]
      (runLine surroundings position (lines.getD position "") (window lines (position + 1) stop)
        (fun _ => runLines surroundings (position + 1)
          ((window lines (position + 1) stop).take
            (bodyLength 0 (window lines (position + 1) stop))))
        (fun skipped => runLines surroundings (position + 1 + skipped)
          ((window lines (position + 1) stop).drop skipped))) := by
  have hover : (Frame.block start position stop).isOver = false := by
    simpa [Frame.isOver] using hposition
  have hlength : blockEnd lines (position + 1) stop - (position + 1) =
      bodyLength 0 (window lines (position + 1) stop) := by
    simp [blockEnd]
  rw [← take_window lines (blockEnd_le lines hposition), hlength] at hbody
  have hadvance : advance surroundings lines (.block start position stop) = (do
      let bounds ← (do
        let first ← bound first
        let last ← bound last
        announce name first last
        return (first, last) : Run σ (Int × Int))
      return ([.loop name bounds.1 bounds.2 (position + 1) (blockEnd lines (position + 1) stop)] ++
        [.block start (min (blockEnd lines (position + 1) stop + 1) stop) stop])) := by
    simp only [advance, beginLine, hstatement, bind_assoc, pure_bind, List.singleton_append]
  have hcompletes := Completes.of_advance hover _ _ _ hadvance fun bounds =>
    (loop_completes hbody bounds.2 _ bounds.1 rfl).append hnext
  simp only [bind_assoc, pure_bind] at hcompletes
  simp only [runLine_eq, hstatement, perform, loop, bind_assoc, pure_bind, drop_window]
  exact hcompletes

/-- Any other line completes if what follows it does, whatever it skips. -/
theorem plainLine_completes {start position stop : Nat} (body : Unit → Run σ Unit)
    (hposition : position < stop)
    (hstatement : ∀ name first last, statementAt lines position ≠ .doLoop name first last)
    (hnext : ∀ cursor, position < cursor →
      Completes surroundings lines [.block start (min cursor stop) stop]
        (runLines surroundings cursor (window lines cursor stop))) :
    Completes surroundings lines [.block start position stop]
      (runLine surroundings position (lines.getD position "") (window lines (position + 1) stop)
        body
        (fun skipped => runLines surroundings (position + 1 + skipped)
          ((window lines (position + 1) stop).drop skipped))) := by
  have hover : (Frame.block start position stop).isOver = false := by
    simpa [Frame.isOver] using hposition
  have hadvance : advance surroundings lines (.block start position stop) = (do
      let skipped ← perform surroundings position (window lines (position + 1) stop) body
        (statementAt lines position)
      return [.block start (min (position + 1 + skipped) stop) stop]) := by
    rw [perform_congr _ _ body (fun _ => pure ()) hstatement, advance, beginLine]
    split
    · exact absurd ‹_› (hstatement _ _ _)
    · rfl
  simp only [runLine_eq, drop_window]
  exact Completes.of_advance hover _ _ _ hadvance fun skipped => hnext _ (by omega)

/-- A block completes as running its lines. -/
theorem block_completes (start position stop : Nat) (hstop : stop ≤ lines.length) :
    Completes surroundings lines [.block start position stop]
      (runLines surroundings position (window lines position stop)) := by
  induction hsize : stop - position using Nat.strongRecOn
    generalizing start position stop with
  | ind size ih =>
    by_cases hposition : position < stop
    · have hnext (cursor : Nat) (hcursor : position < cursor) :
          Completes surroundings lines [.block start (min cursor stop) stop]
            (runLines surroundings cursor (window lines cursor stop)) := by
        rw [← runLines_min]
        exact ih _ (by omega) start (min cursor stop) stop hstop rfl
      rw [window_cons hposition hstop, runLines_cons]
      by_cases hloop : ∃ name first last, statementAt lines position = .doLoop name first last
      · obtain ⟨name, first, last, hstatement⟩ := hloop
        have hle := le_blockEnd lines (position + 1) stop
        have hbodyStop := blockEnd_le lines (show position + 1 ≤ stop from hposition)
        exact loopLine_completes hposition hstatement
          (ih _ (by omega) _ _ _ (by omega) rfl) (hnext _ (by omega))
      · have hplain : ∀ name first last, statementAt lines position ≠ .doLoop name first last :=
          fun name first last hstatement => hloop ⟨name, first, last, hstatement⟩
        exact plainLine_completes _ hposition hplain hnext
    · rw [window_eq_nil lines (by omega), runLines_nil]
      exact Completes.of_isOver (by simpa [Frame.isOver] using hposition)

end

/-! ## Whole runs -/

section

variable (surroundings : Surroundings σ) (lines : List String)

/-- **Every run comes to an end.**  From every state, finitely many steps run a script as
`runLines` does, and then nothing is left to do. -/
theorem exists_steps_eq (state : RunState σ) :
    ∃ count, (steps surroundings lines count (opening lines)).run state =
      (do runLines surroundings 0 lines; return [] : Run σ (List Frame)).run state := by
  have hcompletes : Completes surroundings lines [.block 0 0 lines.length]
      (runLines surroundings 0 (window lines 0 lines.length)) :=
    block_completes 0 0 lines.length (Nat.le_refl _)
  rw [window_all] at hcompletes
  exact hcompletes [] state

theorem steps_nil (count : Nat) : steps surroundings lines count [] = pure [] := by
  induction count with
  | zero => rfl
  | succ count ih => simp [steps, step, ih]

variable {surroundings lines}

/-- Steps that have come to an end are followed by no others. -/
theorem steps_add_of_ended {first : Nat} {frames : List Frame} {state final : RunState σ}
    {result : Except RunError Unit}
    (hended : (steps surroundings lines first frames).run state =
      (result.map fun _ => [], final)) (second : Nat) :
    (steps surroundings lines (first + second) frames).run state =
      (result.map fun _ => [], final) := by
  rw [steps_add, Attempt.run_bind, hended]
  cases result with
  | error error => rfl
  | ok _ => simp [Except.map, steps_nil]

theorem exists_steps_of_runLines {state final : RunState σ} {result : Except RunError Unit}
    (hrun : (runLines surroundings 0 lines).run state = (result, final)) :
    ∃ count, (steps surroundings lines count (opening lines)).run state =
      (result.map fun _ => [], final) := by
  obtain ⟨count, hcount⟩ := exists_steps_eq surroundings lines state
  refine ⟨count, ?_⟩
  rw [hcount, Attempt.run_bind, hrun]
  cases result <;> rfl

/-- A run ends as its steps end, however many are made. -/
theorem runLines_of_steps {count : Nat} {state final : RunState σ}
    {result : Except RunError Unit}
    (hsteps : (steps surroundings lines count (opening lines)).run state =
      (result.map fun _ => [], final)) :
    (runLines surroundings 0 lines).run state = (result, final) := by
  rcases hrun : (runLines surroundings 0 lines).run state with ⟨result', final'⟩
  obtain ⟨enough, henough⟩ := exists_steps_of_runLines hrun
  have hsame := steps_add_of_ended hsteps enough
  rw [Nat.add_comm, steps_add_of_ended henough count] at hsame
  cases result <;> cases result' <;> simp_all [Except.map]

end

/-- How the run of a script ends. -/
def ending (surroundings : Surroundings σ) (script : String) (host : σ) :
    Except RunError Unit × RunState σ :=
  (runLines surroundings 0 (splitLines script)).run { readings := 1, host }

theorem exists_steps_eq_ending (surroundings : Surroundings σ) (script : String) (host : σ) :
    ∃ count, (steps surroundings (splitLines script) count (opening (splitLines script))).run
        { readings := 1, host } =
      ((ending surroundings script host).1.map fun _ => [],
        (ending surroundings script host).2) :=
  exists_steps_of_runLines rfl

section

variable {surroundings : Surroundings σ} {script : String} {host : σ} {count : Nat}
  {state after : RunState σ}

/-- A run ends with the step that fails. -/
theorem ending_of_step_error {frames : List Frame} {error : RunError}
    (hsteps : (steps surroundings (splitLines script) count (opening (splitLines script))).run
      { readings := 1, host } = (.ok frames, state))
    (hstep : (step surroundings (splitLines script) frames).run state = (.error error, after)) :
    ending surroundings script host = (.error error, after) := by
  have hmore : (steps surroundings (splitLines script) (count + 1)
      (opening (splitLines script))).run { readings := 1, host } =
      ((Except.error error : Except RunError Unit).map fun _ => [], after) := by
    rw [steps_succ, Attempt.run_bind, hsteps]
    exact hstep
  exact runLines_of_steps hmore

/-- A run succeeds when nothing is left to do. -/
theorem ending_of_nothing_left
    (hsteps : (steps surroundings (splitLines script) count (opening (splitLines script))).run
      { readings := 1, host } = (.ok [], state)) :
    ending surroundings script host = (.ok (), state) := by
  have hended : (steps surroundings (splitLines script) count
      (opening (splitLines script))).run { readings := 1, host } =
      ((Except.ok () : Except RunError Unit).map fun _ => [], state) := hsteps
  exact runLines_of_steps hended

/-- Whatever is counted along a run, each number is passed by some step. -/
theorem exists_step_past {lines : List String} {passed : Nat} (counted : RunState σ → Nat)
    (count : Nat) (frames : List Frame) (state : RunState σ) (hfrom : counted state ≤ passed)
    (hto : passed < counted ((steps surroundings lines count frames).run state).2) :
    ∃ made frame rest before,
      (steps surroundings lines made frames).run state = (.ok (frame :: rest), before) ∧
      counted before ≤ passed ∧
      passed < counted ((step surroundings lines (frame :: rest)).run before).2 := by
  induction count generalizing frames state with
  | zero => exact absurd hto (Nat.not_lt.2 hfrom)
  | succ count ih =>
    cases frames with
    | nil =>
      rw [steps_nil] at hto
      exact absurd hto (Nat.not_lt.2 hfrom)
    | cons frame rest =>
      by_cases hstep : passed < counted ((step surroundings lines (frame :: rest)).run state).2
      · exact ⟨0, frame, rest, state, rfl, hfrom, hstep⟩
      · rw [steps, Attempt.run_bind] at hto
        rcases hresult : (step surroundings lines (frame :: rest)).run state with
          ⟨error | frames, after⟩ <;> rw [hresult] at hstep hto
        · exact absurd hto hstep
        · obtain ⟨made, frame', rest', before, hmade, hbefore⟩ :=
            ih frames after (Nat.not_lt.1 hstep) hto
          refine ⟨made + 1, frame', rest', before, ?_, hbefore⟩
          rw [steps, Attempt.run_bind, hresult]
          exact hmade

/-- `exists_step_past` for a whole run. -/
theorem exists_step_past_of_ending {passed : Nat} (counted : RunState σ → Nat)
    (hfrom : counted { readings := 1, host } ≤ passed)
    (hto : passed < counted (ending surroundings script host).2) :
    ∃ made frame rest before,
      (steps surroundings (splitLines script) made (opening (splitLines script))).run
        { readings := 1, host } = (.ok (frame :: rest), before) ∧
      counted before ≤ passed ∧
      passed < counted ((step surroundings (splitLines script) (frame :: rest)).run before).2 := by
  obtain ⟨enough, henough⟩ := exists_steps_eq_ending surroundings script host
  refine exists_step_past counted enough _ _ hfrom ?_
  rw [henough]
  exact hto

end

end Run

/-- The report of a script is on the run that ends where its budget says. -/
theorem execute_eq_ofRun {clock : Clock} {timeout : Int} {limit : Binary64}
    (hlimit : deadline clock timeout = .ok limit) (handler : AddressHandler σ) (script : String)
    (host : σ) :
    execute handler clock timeout script host =
      .ok (.ofRun (Run.ending { handler, clock, timeout, deadline := limit } script host)) := by
  rw [execute, hlimit, Run.ending]

end DeckScript.Script
