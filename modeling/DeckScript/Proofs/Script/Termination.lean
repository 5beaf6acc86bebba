import DeckScript.Proofs.Script.Effects
import DeckScript.Proofs.Script.Execution

/-!
# Runs come to an end

Every run of a script is over after finitely many steps, whatever the script, the
handler and the clock are (`execute_halts`).  On the way the cursor of a block only
moves forward and stays inside the block, the body of a loop is a part of the block
around it that leaves out at least the line of the loop, and a loop starts its body
once for each value between the bounds that were found when it was entered.
-/

namespace DeckScript.Script

variable {σ : Type}

/-! ## What a step can do -/

/-- The position after the lines of a block or of the body of a loop. -/
def Frame.stop : Frame → Nat
  | block _ _ stop => stop
  | loop _ _ _ _ stop => stop

/-- The expression is `n` as the bound of a loop. -/
def IsBound (vars : Variables) (expression : String) (n : Int) : Prop :=
  ∃ value, Expression.evaluate vars expression = .ok value ∧ Run.boundOf? value = some n

/-- What a step leaves of the frame it is made in. -/
inductive Proceeds (lines : List String) (vars : Variables) : Frame → List Frame → Prop
  /-- A line was run, and the cursor is past it. -/
  | line {start position stop next : Nat} (hforward : position < next) (hinside : next ≤ stop) :
    Proceeds lines vars (.block start position stop) [.block start next stop]
  /-- A loop was entered with the bounds of this moment.  Its body reaches from the next line to
  the END that closes it, and the cursor is past that. -/
  | entry {start position stop next bodyStop : Nat} {name first last : String} {low high : Int}
    (hstatement : statementAt lines position = .doLoop name first last)
    (hfirst : IsBound vars first low) (hlast : IsBound vars last high)
    (hbodyStop : findBlockEnd lines (position + 1 : Nat) stop = .ok bodyStop)
    (hbody : position + 1 ≤ bodyStop) (hend : bodyStop ≤ stop)
    (hforward : position < next) (hinside : next ≤ stop) :
    Proceeds lines vars (.block start position stop)
      [.loop name low high (position + 1) bodyStop, .block start next stop]
  /-- A round of a loop was begun. -/
  | round {name : String} {value last : Int} {start stop : Nat} (hle : value ≤ last) :
    Proceeds lines vars (.loop name value last start stop)
      [.block start start stop, .loop name (value + 1) last start stop]

/-- Blocks and loops lie one within the other, the innermost first: each cursor is inside its
block, the body of a loop is the block above it, and it is part of the block below it without
the line of the loop. -/
inductive Nested (count : Nat) : List Frame → Prop
  | done : Nested count []
  | script {start position stop : Nat} (hstart : start ≤ position) (hposition : position ≤ stop)
    (hstop : stop ≤ count) : Nested count [.block start position stop]
  | body {name : String} {value last : Int} {start position stop : Nat} {below : List Frame}
    (hloop : Nested count (.loop name value last start stop :: below))
    (hstart : start ≤ position) (hposition : position ≤ stop) :
    Nested count (.block start position stop :: .loop name value last start stop :: below)
  | loop {name : String} {value last : Int} {start stop start' position' stop' : Nat}
    {below : List Frame}
    (hblock : Nested count (.block start' position' stop' :: below))
    (hstart : start' < start) (hle : start ≤ stop) (hstop : stop ≤ stop') :
    Nested count (.loop name value last start stop :: .block start' position' stop' :: below)

namespace Nested

variable {count : Nat} {frames : List Frame}

theorem tail {frame : Frame} (hnested : Nested count (frame :: frames)) :
    Nested count frames := by
  cases hnested with
  | script => exact done
  | body hloop => exact hloop
  | loop hblock => exact hblock

theorem pending (hnested : Nested count frames) : Nested count (Script.pending frames) := by
  induction frames with
  | nil => exact hnested
  | cons frame frames ih =>
    by_cases hover : frame.isOver = true
    · rw [pending_cons_of_isOver hover]
      exact ih hnested.tail
    · rw [pending_cons_of_not_isOver (by simpa using hover)]
      exact hnested

/-- The cursor of a block may move inside it. -/
theorem move {start position stop next : Nat}
    (hnested : Nested count (.block start position stop :: frames)) (hforward : position < next)
    (hinside : next ≤ stop) : Nested count (.block start next stop :: frames) := by
  cases hnested with
  | script hstart _ hstop => exact .script (by omega) hinside hstop
  | body hloop hstart _ => exact .body hloop (by omega) hinside

theorem start_le_position {start position stop : Nat}
    (hnested : Nested count (.block start position stop :: frames)) : start ≤ position := by
  cases hnested with
  | script hstart => exact hstart
  | body _ hstart => exact hstart

/-- Every block and loop is a part of the script. -/
theorem stop_le {frame : Frame} (hnested : Nested count (frame :: frames)) :
    frame.stop ≤ count := by
  generalize hall : frame :: frames = all at hnested
  induction hnested generalizing frame frames with
  | done => cases hall
  | script _ _ hstop =>
    cases hall
    exact hstop
  | body _ _ _ ih =>
    cases hall
    have hloop := ih rfl
    exact hloop
  | loop _ _ _ hstop ih =>
    cases hall
    exact Nat.le_trans hstop (ih rfl)

theorem proceeds {lines : List String} {vars : Variables} {frame : Frame} {begun : List Frame}
    (hnested : Nested count (frame :: frames)) (hbegun : Proceeds lines vars frame begun) :
    Nested count (begun ++ frames) := by
  cases hbegun with
  | line hforward hinside => exact hnested.move hforward hinside
  | entry _ _ _ _ hbody hend hforward hinside =>
    have hstart := hnested.start_le_position
    exact .loop (hnested.move hforward hinside) (by omega) hbody hend
  | round _ =>
    cases hnested with
    | loop hblock hstart hle hstop =>
      exact .body (.loop hblock hstart hle hstop) (Nat.le_refl _) hle

end Nested

/-! ## Steps -/

namespace Run

section

variable {surroundings : Surroundings σ} {lines : List String} {state after : RunState σ}

theorem run_bound_eq_ok {expression : String} {n : Int}
    (hrun : (bound expression).run state = (.ok n, after)) :
    state = after ∧ IsBound state.vars expression n := by
  obtain ⟨value, evaluated, hvalue, hbound⟩ := Attempt.run_bind_eq_ok.1 hrun
  rw [evaluate, Attempt.run_bind, Attempt.run_get] at hvalue
  dsimp only at hvalue
  cases hevaluate : Expression.evaluate state.vars expression with
  | error error => rw [hevaluate] at hvalue; cases hvalue
  | ok found =>
    rw [hevaluate] at hvalue
    cases hvalue
    cases hn : boundOf? value with
    | none => rw [hn] at hbound; cases hbound
    | some m =>
      rw [hn] at hbound
      cases hbound
      exact ⟨rfl, value, hevaluate, hn⟩

theorem advance_proceeds {frame : Frame} {begun : List Frame} (hover : frame.isOver = false)
    (hstop : frame.stop ≤ lines.length)
    (hrun : (advance surroundings lines frame).run state = (.ok begun, after)) :
    Proceeds lines state.vars frame begun := by
  cases frame with
  | loop name value last start stop =>
    cases hrun
    exact .round (by simpa [Frame.isOver] using hover)
  | block start position stop =>
    have hposition : position < stop := by simpa [Frame.isOver] using hover
    rw [advance, beginLine] at hrun
    split at hrun
    case h_1 name first last hstatement =>
      obtain ⟨low, t, hlow, hrun⟩ := Attempt.run_bind_eq_ok.1 hrun
      obtain ⟨rfl, hfirst⟩ := run_bound_eq_ok hlow
      obtain ⟨high, t, hhigh, hrun⟩ := Attempt.run_bind_eq_ok.1 hrun
      obtain ⟨rfl, hlast⟩ := run_bound_eq_ok hhigh
      obtain ⟨_, t, _, hrun⟩ := Attempt.run_bind_eq_ok.1 hrun
      cases hrun
      have hle := le_blockEnd lines (position + 1) stop
      exact .entry hstatement hfirst hlast
        (findBlockEnd_eq lines (position + 1) stop hposition hstop)
        hle (blockEnd_le lines hposition) (by omega) (by omega)
    case h_2 =>
      obtain ⟨skipped, t, _, hrun⟩ := Attempt.run_bind_eq_ok.1 hrun
      cases hrun
      exact .line (by omega) (by omega)

theorem step_proceeds {frame : Frame} {rest frames : List Frame} (hover : frame.isOver = false)
    (hstop : frame.stop ≤ lines.length)
    (hrun : (step surroundings lines (frame :: rest)).run state = (.ok frames, after)) :
    ∃ begun, Proceeds lines state.vars frame begun ∧ frames = pending (begun ++ rest) := by
  obtain ⟨looked, begun, hlook, hadvance, rfl⟩ := step_eq_ok hrun
  obtain ⟨-, -, rfl⟩ := run_checkpoint_eq_ok.1 hlook
  have hproceeds := advance_proceeds hover hstop hadvance
  exact ⟨begun, hproceeds, rfl⟩

/-! ## Rounds of a loop -/

/-- The states in which the loop with `depth` frames below it starts its body, among those that
`count` steps lead to.  Once no more than these frames are left, the loop is over. -/
def bodyStarts (surroundings : Surroundings σ) (lines : List String) (depth : Nat) :
    Nat → List Frame → RunState σ → List (RunState σ)
  | 0, _, _ => []
  | count + 1, frames, state =>
    if frames.length ≤ depth then []
    else
      match (step surroundings lines frames).run state with
      | (.error _, _) => []
      | (.ok next, after) =>
        if frames.length = depth + 1 then
          after :: bodyStarts surroundings lines depth count next after
        else bodyStarts surroundings lines depth count next after

/-- The body was started for the values from `value` on, in order, and for no value after
`last`. -/
structure InOrder (name : String) (value last : Int) (starts : List (RunState σ)) : Prop where
  length_le : (starts.length : Int) ≤ max 0 (last - value + 1)
  value_eq : ∀ (round : Nat) (start : RunState σ), starts[round]? = some start →
    start.vars.get? name = some (.int (value + round))

theorem InOrder.nil (name : String) (value last : Int) :
    InOrder name value last ([] : List (RunState σ)) where
  length_le := by
    rw [List.length_nil]
    omega
  value_eq := fun _ _ hstart => by simp at hstart

theorem InOrder.cons {name : String} {value last : Int} {start : RunState σ}
    {starts : List (RunState σ)} (hle : value ≤ last)
    (hvalue : start.vars.get? name = some (.int value))
    (hrest : InOrder name (value + 1) last starts) : InOrder name value last (start :: starts) where
  length_le := by
    have hlength := hrest.length_le
    rw [List.length_cons]
    omega
  value_eq := by
    intro round found hfound
    cases round with
    | zero =>
      cases hfound
      simpa using hvalue
    | succ round =>
      have hround := hrest.value_eq round found (by simpa using hfound)
      rw [hround]
      congr 2
      push_cast
      omega

/-- The loop with `depth` frames below it starts its body in order; and it has started it for all
values if it is left without a failure. -/
structure Counted (surroundings : Surroundings σ) (lines : List String) (depth : Nat)
    (name : String) (value last : Int) (count : Nat) (frames : List Frame)
    (state : RunState σ) : Prop where
  inOrder : InOrder name value last (bodyStarts surroundings lines depth count frames state)
  length_eq : ∀ left after,
    (steps surroundings lines count frames).run state = (.ok left, after) →
    left.length ≤ depth →
    ((bodyStarts surroundings lines depth count frames state).length : Int) =
      max 0 (last - value + 1)

namespace Counted

variable {depth count : Nat} {name : String} {value last : Int} {frames : List Frame}

theorem finished (hframes : frames.length ≤ depth) (hvalue : last < value) :
    Counted surroundings lines depth name value last count frames state := by
  have hstarts : bodyStarts surroundings lines depth count frames state = [] := by
    cases count with
    | zero => rfl
    | succ count => rw [bodyStarts, if_pos hframes]
  refine ⟨?_, fun _ _ _ _ => ?_⟩ <;> rw [hstarts]
  · exact .nil name value last
  · rw [List.length_nil]
    omega

/-- A step that fails ends the run. -/
theorem failed {error : RunError} (hframes : depth < frames.length)
    (hstep : (step surroundings lines frames).run state = (.error error, after)) :
    Counted surroundings lines depth name value last (count + 1) frames state := by
  have hstarts : bodyStarts surroundings lines depth (count + 1) frames state = [] := by
    rw [bodyStarts, if_neg (by omega), hstep]
  refine ⟨hstarts ▸ .nil name value last, fun left after hsteps _ => ?_⟩
  rw [steps, Attempt.run_bind, hstep] at hsteps
  cases hsteps

/-- A step inside the body. -/
theorem inside (hframes : depth + 1 < frames.length)
    (hnext : ∀ next after, (step surroundings lines frames).run state = (.ok next, after) →
      Counted surroundings lines depth name value last count next after) :
    Counted surroundings lines depth name value last (count + 1) frames state := by
  rcases hstep : (step surroundings lines frames).run state with ⟨error | next, after⟩
  · exact failed (by omega) hstep
  · have hstarts : bodyStarts surroundings lines depth (count + 1) frames state =
        bodyStarts surroundings lines depth count next after := by
      rw [bodyStarts, if_neg (by omega), hstep]
      exact if_neg (by omega)
    obtain ⟨hinOrder, hlength⟩ := hnext next after hstep
    refine ⟨hstarts ▸ hinOrder, fun left final hsteps hleft => ?_⟩
    rw [steps, Attempt.run_bind, hstep] at hsteps
    rw [hstarts]
    exact hlength left final hsteps hleft

/-- A step that begins a round. -/
theorem round (hframes : frames.length = depth + 1) (hvalue : value ≤ last)
    (hnext : ∀ next after, (step surroundings lines frames).run state = (.ok next, after) →
      after.vars.get? name = some (.int value) ∧
        Counted surroundings lines depth name (value + 1) last count next after) :
    Counted surroundings lines depth name value last (count + 1) frames state := by
  rcases hstep : (step surroundings lines frames).run state with ⟨error | next, after⟩
  · exact failed (by omega) hstep
  · have hstarts : bodyStarts surroundings lines depth (count + 1) frames state =
        after :: bodyStarts surroundings lines depth count next after := by
      rw [bodyStarts, if_neg (by omega), hstep]
      exact if_pos hframes
    obtain ⟨hstart, hinOrder, hlength⟩ := hnext next after hstep
    refine ⟨hstarts ▸ .cons hvalue hstart hinOrder, fun left final hsteps hleft => ?_⟩
    rw [steps, Attempt.run_bind, hstep] at hsteps
    have hrest := hlength left final hsteps hleft
    rw [hstarts, List.length_cons]
    omega

end Counted

variable {name : String} {last : Int} {start stop : Nat} {below : List Frame}

/-- The frame of a loop is put aside when its rounds are over, and not before. -/
theorem lt_of_length_pending_le {inner : List Frame} {value : Int}
    (hlength : (pending (inner ++ .loop name value last start stop :: below)).length ≤
      below.length) : last < value := by
  cases hinner : pending inner with
  | cons frame rest =>
    rw [pending_append_of_eq_cons hinner] at hlength
    simp at hlength
    omega
  | nil =>
    rw [pending_append_of_eq_nil hinner] at hlength
    by_cases hover : (Frame.loop name value last start stop).isOver = true
    · simpa [Frame.isOver] using hover
    · rw [pending_cons_of_not_isOver (by simpa using hover), List.length_cons] at hlength
      omega

/-- Whatever is left to do of the body, and whatever the body does, the rounds are counted. -/
theorem loop_counted (count : Nat) (inner : List Frame) (value : Int) (state : RunState σ) :
    Counted surroundings lines below.length name value last count
      (pending (inner ++ .loop name value last start stop :: below)) state := by
  induction count generalizing inner value state with
  | zero =>
    refine ⟨.nil name value last, fun left after hsteps hleft => ?_⟩
    cases hsteps
    have hover := lt_of_length_pending_le hleft
    simp only [bodyStarts, List.length_nil]
    omega
  | succ count ih =>
    cases hinner : pending inner with
    | cons frame rest =>
      rw [pending_append_of_eq_cons hinner]
      refine Counted.inside ?_ fun next after hstep => ?_
      · simp only [List.length_cons, List.length_append]
        omega
      · -- the loop and what is below it stay as they are
        obtain ⟨_, begun, -, -, rfl⟩ := step_eq_ok hstep
        rw [← List.append_assoc]
        exact ih (begun ++ rest) value after
    | nil =>
      rw [pending_append_of_eq_nil hinner]
      by_cases hle : value ≤ last
      · have hover : (Frame.loop name value last start stop).isOver = false := by
          simpa [Frame.isOver] using hle
        rw [pending_cons_of_not_isOver hover]
        refine Counted.round rfl hle fun next after hstep => ?_
        obtain ⟨looked, begun, -, hbegun, rfl⟩ := step_eq_ok hstep
        cases hbegun
        exact ⟨by simp, ih [.block start start stop] (value + 1) _⟩
      · have hover : (Frame.loop name value last start stop).isOver = true := by
          simpa [Frame.isOver] using hle
        rw [pending_cons_of_isOver hover]
        exact Counted.finished (length_pending_le below) (by omega)

end

/-! ## Whole runs -/

theorem nested_opening (lines : List String) : Nested lines.length (opening lines) :=
  Nested.pending (.script (Nat.zero_le _) (Nat.zero_le _) (Nat.le_refl _))

/-- The frames that steps lead to have something to do, and lie one within the other. -/
theorem steps_nested {surroundings : Surroundings σ} {lines : List String} {count : Nat}
    {frames : List Frame} {state after : RunState σ}
    (hsteps : (steps surroundings lines count (opening lines)).run state = (.ok frames, after)) :
    Nested lines.length frames ∧ ∀ frame rest, frames = frame :: rest → frame.isOver = false := by
  induction count generalizing frames after with
  | zero =>
    cases hsteps
    exact ⟨nested_opening lines, fun _ _ hframes => isOver_eq_false_of_pending_eq_cons hframes⟩
  | succ count ih =>
    rw [steps_succ] at hsteps
    obtain ⟨before, middle, hbefore, hstep⟩ := Attempt.run_bind_eq_ok.1 hsteps
    obtain ⟨hnested, hready⟩ := ih hbefore
    cases before with
    | nil =>
      cases hstep
      exact ⟨.done, fun _ _ hframes => by cases hframes⟩
    | cons frame rest =>
      obtain ⟨begun, hbegun, rfl⟩ :=
        step_proceeds (hready frame rest rfl) hnested.stop_le hstep
      exact ⟨(hnested.proceeds hbegun).pending,
        fun _ _ hframes => isOver_eq_false_of_pending_eq_cons hframes⟩

end Run

/-- **Every script runs to an end, and loops count what they found when they were entered.**  For
every handler, clock and script, finitely many steps lead to the report that `execute` gives.  All
along, blocks lie one within the other, each step moves the cursor of its block forward inside
the block, and a loop starts its body once for each value from its first bound to its last, in
order, whatever the body does to variables: never more often, and less often only if a step
fails. -/
theorem execute_halts (handler : AddressHandler σ) (clock : Clock) (timeout : Int)
    (script : String) (host : σ) :
    (∀ error, deadline clock timeout = .error error →
      execute handler clock timeout script host = .error error) ∧
    ∀ limit, deadline clock timeout = .ok limit →
      let surroundings : Surroundings σ := { handler, clock, timeout, deadline := limit }
      let lines := splitLines script
      let start : RunState σ := { readings := 1, host }
      (∃ count result final,
        (Run.steps surroundings lines count (Run.opening lines)).run start =
          (result.map fun _ => [], final) ∧
        execute handler clock timeout script host = .ok (.ofRun (result, final))) ∧
      (∀ count frame rest state,
        (Run.steps surroundings lines count (Run.opening lines)).run start =
          (.ok (frame :: rest), state) →
        Nested lines.length (frame :: rest) ∧
        ∀ frames after,
          (Run.step surroundings lines (frame :: rest)).run state = (.ok frames, after) →
          ∃ begun, Proceeds lines state.vars frame begun ∧ frames = pending (begun ++ rest)) ∧
      ∀ name (first last : Int) bodyStart bodyStop below state count,
        let frames := pending (.loop name first last bodyStart bodyStop :: below)
        let starts := Run.bodyStarts surroundings lines below.length count frames state
        (starts.length : Int) ≤ max 0 (last - first + 1) ∧
        (∀ (round : Nat) (start : RunState σ), starts[round]? = some start →
          start.vars.get? name = some (.int (first + round))) ∧
        ∀ left after, (Run.steps surroundings lines count frames).run state = (.ok left, after) →
          left.length ≤ below.length → (starts.length : Int) = max 0 (last - first + 1) := by
  refine ⟨fun error herror => by rw [execute, herror], fun limit hlimit => ⟨?_, ?_, ?_⟩⟩
  · obtain ⟨count, hcount⟩ :=
      Run.exists_steps_eq_ending { handler, clock, timeout, deadline := limit } script host
    exact ⟨count, _, _, hcount, execute_eq_ofRun hlimit handler script host⟩
  · intro count frame rest state hsteps
    obtain ⟨hnested, hready⟩ := Run.steps_nested hsteps
    exact ⟨hnested, fun frames after hstep =>
      Run.step_proceeds (hready frame rest rfl) hnested.stop_le hstep⟩
  · intro name first last bodyStart bodyStop below state count
    obtain ⟨⟨hlength, hvalue⟩, hall⟩ := Run.loop_counted count [] first state
    exact ⟨hlength, hvalue, hall⟩

/-- A loop whose body writes to its variable. -/
def restlessScript : String := "DO i = 1 TO 3\ni = 9\nEND"

theorem execute_halts_restless :
    deadline stillSurroundings.clock 1000 = .ok stillSurroundings.deadline ∧
      ∃ count result final,
        (Run.steps stillSurroundings (splitLines restlessScript) count
          (Run.opening (splitLines restlessScript))).run { readings := 1, host := () } =
            (result.map fun _ => [], final) ∧
        execute stillSurroundings.handler stillSurroundings.clock 1000 restlessScript () =
          .ok (.ofRun (result, final)) := by
  have hlimit : deadline stillSurroundings.clock 1000 = .ok stillSurroundings.deadline := by
    decide +kernel
  exact ⟨hlimit, ((execute_halts _ _ _ _ _).2 _ hlimit).1⟩

example :
    (Run.bodyStarts stillSurroundings (splitLines restlessScript) 1 10
      (pending [.loop "i" 1 3 1 2, .block 0 3 3]) { readings := 2, host := () }).length = 3 := by
  decide +kernel

end DeckScript.Script
