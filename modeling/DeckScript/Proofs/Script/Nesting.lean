import DeckScript.Proofs.Script.Steps
import Mathlib.Order.Bounds.Basic

/-!
# Matching ENDs

The search for an END goes through the lines once and counts how many blocks are open.
This file says what it finds without following it: the END that closes a block is the
first line at which the ENDs since the beginning of the body outnumber the openings.

* `MatchingEnd` is this description, and `findBlockEnd_eq_ok_iff` says that the search
  finds what fits it and nothing else.
* `MatchingEnd.inner`: a block that is opened inside a closed body is closed inside it,
  and its END is the same for every search that reaches that far.

## Strategy

`surplus` is the number of ENDs in a piece of the script less that of openings, so it
adds up over pieces that follow one another.  Inside a body it is never positive, and
over the whole of a closed body it is zero.  An opening inside the body brings it down
by one, so what follows the opening has to make up for it before the body ends, and
somewhere on the way the ENDs outnumber the openings there.
-/

namespace DeckScript.Script

/-! ## Ends against openings -/

/-- The number of ENDs among the lines, less that of openings. -/
def surplus (lines : List String) : Int :=
  lines.countP closesBlock - lines.countP opensBlock

/-- No line is counted both ways. -/
theorem closesBlock_eq_false_of_opensBlock {line : String} (hopens : opensBlock line = true) :
    closesBlock line = false := by
  rw [opensBlock, List.contains_iff_mem] at hopens
  rw [closesBlock, beq_eq_false_iff_ne]
  intro hword
  rw [hword] at hopens
  exact absurd hopens (by decide)

@[simp] theorem surplus_nil : surplus [] = 0 := rfl

theorem surplus_append (lines more : List String) :
    surplus (lines ++ more) = surplus lines + surplus more := by
  simp only [surplus, List.countP_append]
  omega

theorem surplus_opening {line : String} (hopens : opensBlock line = true) (rest : List String) :
    surplus (line :: rest) = surplus rest - 1 := by
  simp only [surplus, List.countP_cons, hopens, closesBlock_eq_false_of_opensBlock hopens, if_true,
    Bool.false_eq_true, if_false]
  omega

theorem surplus_end {line : String} (hopens : opensBlock line = false)
    (hcloses : closesBlock line = true) (rest : List String) :
    surplus (line :: rest) = surplus rest + 1 := by
  simp only [surplus, List.countP_cons, hopens, hcloses, if_true, Bool.false_eq_true, if_false]
  omega

theorem surplus_plain {line : String} (hopens : opensBlock line = false)
    (hcloses : closesBlock line = false) (rest : List String) :
    surplus (line :: rest) = surplus rest := by
  simp [surplus, hopens, hcloses]

/-! ## Bodies of blocks -/

/-- Nowhere in the body do the ENDs go beyond the blocks that are open inside it. -/
theorem surplus_take_le {lines : List String} {depth count : Nat}
    (hcount : count ≤ bodyLength depth lines) : surplus (lines.take count) ≤ depth := by
  induction lines generalizing depth count with
  | nil => simp
  | cons line rest ih =>
    cases count with
    | zero => simp
    | succ count =>
      rw [List.take_succ_cons]
      rw [bodyLength.eq_def] at hcount
      dsimp only at hcount
      split at hcount
      · next hopens =>
        have hrest := ih (show count ≤ bodyLength (depth + 1) rest by omega)
        rw [surplus_opening hopens]
        omega
      · next hopens =>
        have hopens : opensBlock line = false := by simpa using hopens
        split at hcount
        · next hcloses =>
          cases depth with
          | zero => exact absurd hcount (by simp)
          | succ depth =>
            dsimp only at hcount
            have hrest := ih (show count ≤ bodyLength depth rest by omega)
            rw [surplus_end hopens hcloses]
            omega
        · next hcloses =>
          have hcloses : closesBlock line = false := by simpa using hcloses
          have hrest := ih (show count ≤ bodyLength depth rest by omega)
          rw [surplus_plain hopens hcloses]
          exact hrest

/-- Where the END is found, the blocks inside the body are closed, and one more END is there. -/
theorem surplus_of_bodyLength_lt {lines : List String} {depth : Nat}
    (hclosed : bodyLength depth lines < lines.length) :
    surplus (lines.take (bodyLength depth lines)) = depth ∧
      surplus (lines.take (bodyLength depth lines + 1)) = depth + 1 := by
  induction lines generalizing depth with
  | nil => simp at hclosed
  | cons line rest ih =>
    rw [bodyLength.eq_def, List.length_cons] at hclosed
    rw [bodyLength.eq_def]
    dsimp only at hclosed ⊢
    split at hclosed
    · next hopens =>
      obtain ⟨hbody, hend⟩ := ih (show bodyLength (depth + 1) rest < rest.length by omega)
      rw [if_pos hopens, Nat.add_comm 1, List.take_succ_cons, List.take_succ_cons,
        surplus_opening hopens, surplus_opening hopens, hbody, hend]
      omega
    · next hopens =>
      rw [if_neg hopens]
      have hopens : opensBlock line = false := by simpa using hopens
      split at hclosed
      · next hcloses =>
        rw [if_pos hcloses]
        cases depth with
        | zero => simp [surplus_end hopens hcloses]
        | succ depth =>
          dsimp only at hclosed ⊢
          obtain ⟨hbody, hend⟩ := ih (show bodyLength depth rest < rest.length by omega)
          rw [Nat.add_comm 1, List.take_succ_cons, List.take_succ_cons,
            surplus_end hopens hcloses, surplus_end hopens hcloses, hbody, hend]
          omega
      · next hcloses =>
        rw [if_neg hcloses]
        have hcloses : closesBlock line = false := by simpa using hcloses
        obtain ⟨hbody, hend⟩ := ih (show bodyLength depth rest < rest.length by omega)
        rw [Nat.add_comm 1, List.take_succ_cons, List.take_succ_cons,
          surplus_plain hopens hcloses, surplus_plain hopens hcloses]
        exact ⟨hbody, hend⟩

/-! ## Pieces of a script -/

theorem window_append (lines : List String) {start middle stop : Nat} (hstart : start ≤ middle)
    (hstop : middle ≤ stop) :
    window lines start middle ++ window lines middle stop = window lines start stop := by
  have hmiddle : start + (middle - start) = middle := by omega
  have hrest := drop_window lines start stop (middle - start)
  rw [hmiddle] at hrest
  rw [← take_window lines hstop, ← hrest, List.take_append_drop]

theorem length_window {lines : List String} {start stop : Nat} (hstop : stop ≤ lines.length) :
    (window lines start stop).length = stop - start := by
  rw [window, List.length_take, List.length_drop]
  omega

/-- Among the lines from `start` through `position`, the ENDs outnumber the openings. -/
def EndsOutnumber (lines : List String) (start position : Nat) : Prop :=
  (window lines start (position + 1)).countP opensBlock <
    (window lines start (position + 1)).countP closesBlock

instance (lines : List String) (start position : Nat) :
    Decidable (EndsOutnumber lines start position) :=
  inferInstanceAs (Decidable (_ < _))

theorem endsOutnumber_iff {lines : List String} {start position : Nat} :
    EndsOutnumber lines start position ↔ 0 < surplus (window lines start (position + 1)) := by
  unfold EndsOutnumber surplus
  omega

/-- Where the block that begins at `start` ends, as far as `stop`: at the first line with more ENDs
than openings up to it, or at `stop` if there is no such line. -/
inductive MatchingEnd (lines : List String) (start stop : Nat) : Nat → Prop
  | closed {position : Nat}
      (hleast : IsLeast {p | start ≤ p ∧ p < stop ∧ EndsOutnumber lines start p} position) :
      MatchingEnd lines start stop position
  | unclosed (hnone : ∀ p, start ≤ p → p < stop → ¬EndsOutnumber lines start p) :
      MatchingEnd lines start stop stop

namespace MatchingEnd

variable {lines : List String} {start stop position : Nat}

theorem le_stop (hend : MatchingEnd lines start stop position) : position ≤ stop := by
  cases hend with
  | closed hleast => exact Nat.le_of_lt hleast.1.2.1
  | unclosed hnone => exact Nat.le_refl stop

/-- Before the END, the ENDs do not outnumber the openings. -/
theorem not_endsOutnumber (hend : MatchingEnd lines start stop position) {p : Nat}
    (hstart : start ≤ p) (hp : p < position) : ¬EndsOutnumber lines start p := by
  intro hp'
  cases hend with
  | closed hleast =>
    have hstop : p < stop := Nat.lt_trans hp hleast.1.2.1
    exact absurd (hleast.2 ⟨hstart, hstop, hp'⟩) (Nat.not_le.2 hp)
  | unclosed hnone => exact hnone p hstart hp hp'

theorem endsOutnumber (hend : MatchingEnd lines start stop position) (hlt : position < stop) :
    start ≤ position ∧ EndsOutnumber lines start position := by
  cases hend with
  | closed hleast => exact ⟨hleast.1.1, hleast.1.2.2⟩
  | unclosed hnone => exact absurd hlt (Nat.lt_irrefl stop)

theorem unique {other : Nat} (hend : MatchingEnd lines start stop position)
    (hother : MatchingEnd lines start stop other) : position = other := by
  rcases Nat.lt_trichotomy position other with hlt | heq | hlt
  · obtain ⟨hstart, hmore⟩ := hend.endsOutnumber (Nat.lt_of_lt_of_le hlt hother.le_stop)
    exact absurd hmore (hother.not_endsOutnumber hstart hlt)
  · exact heq
  · obtain ⟨hstart, hmore⟩ := hother.endsOutnumber (Nat.lt_of_lt_of_le hlt hend.le_stop)
    exact absurd hmore (hend.not_endsOutnumber hstart hlt)

/-- A search that finds the END may as well go on. -/
theorem widen (hend : MatchingEnd lines start stop position) (hlt : position < stop) {more : Nat}
    (hmore : stop ≤ more) : MatchingEnd lines start more position := by
  obtain ⟨hstart, hposition⟩ := hend.endsOutnumber hlt
  refine .closed ⟨⟨hstart, Nat.lt_of_lt_of_le hlt hmore, hposition⟩, ?_⟩
  rintro p ⟨hp, -, hp'⟩
  by_contra hbefore
  exact hend.not_endsOutnumber hp (Nat.not_le.1 hbefore) hp'

end MatchingEnd

/-! ## The search -/

section

variable {lines : List String} {start stop : Nat} (hle : start ≤ stop)
include hle

/-- Up to the END, no piece of the body has more ENDs than openings. -/
theorem surplus_body_le {middle : Nat} (hmiddle : middle ≤ blockEnd lines start stop) :
    surplus (window lines start middle) ≤ 0 := by
  have hcount : middle - start ≤ bodyLength 0 (window lines start stop) := by
    unfold blockEnd at hmiddle
    omega
  have hbody := surplus_take_le hcount
  rwa [take_window lines (Nat.le_trans hmiddle (blockEnd_le lines hle))] at hbody

variable (hstop : stop ≤ lines.length)
include hstop

theorem findBlockEnd_eq_blockEnd :
    findBlockEnd lines start stop = .ok (blockEnd lines start stop : Nat) := by
  rw [findBlockEnd_eq lines start stop hle hstop]
  rfl

/-- The body of a closed block has as many ENDs as openings, and one more with its own END. -/
theorem surplus_closed (hclosed : blockEnd lines start stop < stop) :
    surplus (window lines start (blockEnd lines start stop)) = 0 ∧
      surplus (window lines start (blockEnd lines start stop + 1)) = 1 := by
  have hlength : bodyLength 0 (window lines start stop) < (window lines start stop).length := by
    rw [length_window hstop]
    unfold blockEnd at hclosed
    omega
  obtain ⟨hbody, hend⟩ := surplus_of_bodyLength_lt hlength
  have hcount : blockEnd lines start stop - start = bodyLength 0 (window lines start stop) := by
    unfold blockEnd
    omega
  have hcount' : blockEnd lines start stop + 1 - start =
      bodyLength 0 (window lines start stop) + 1 := by
    unfold blockEnd
    omega
  rw [← hcount, take_window lines (Nat.le_of_lt hclosed)] at hbody
  rw [← hcount', take_window lines hclosed] at hend
  exact ⟨hbody, hend⟩

theorem matchingEnd_blockEnd : MatchingEnd lines start stop (blockEnd lines start stop) := by
  have hbefore : ∀ p, p < blockEnd lines start stop → ¬EndsOutnumber lines start p := by
    intro p hp
    rw [endsOutnumber_iff, Int.not_lt]
    exact surplus_body_le hle hp
  rcases Nat.lt_or_eq_of_le (blockEnd_le lines hle) with hclosed | hopen
  · refine .closed ⟨⟨le_blockEnd lines start stop, hclosed, ?_⟩, ?_⟩
    · rw [endsOutnumber_iff, (surplus_closed hle hstop hclosed).2]
      exact Int.one_pos
    · rintro p ⟨-, -, hp⟩
      by_contra hlt
      exact hbefore p (Nat.not_le.1 hlt) hp
  · have hunclosed : MatchingEnd lines start stop stop :=
      .unclosed fun p _ hp => hbefore p (by omega)
    rw [hopen]
    exact hunclosed

/-- The search finds the END that the counts call for. -/
theorem findBlockEnd_eq_ok_iff (position : Nat) :
    findBlockEnd lines start stop = .ok (position : Int) ↔
      MatchingEnd lines start stop position := by
  have hfound := matchingEnd_blockEnd hle hstop
  rw [findBlockEnd_eq_blockEnd hle hstop, Except.ok.injEq, Int.ofNat_inj]
  constructor
  · rintro rfl
    exact hfound
  · exact hfound.unique

/-! ## Blocks inside a body -/

/-- The lines between an opening inside a closed body and the end of the body have more ENDs than
openings. -/
theorem surplus_after_opening (hclosed : blockEnd lines start stop < stop) {opening : Nat}
    (hstart : start ≤ opening) (hinside : opening < blockEnd lines start stop)
    (hopens : opensBlock (lines.getD opening "") = true) :
    0 < surplus (window lines (opening + 1) (blockEnd lines start stop)) := by
  have hbefore : surplus (window lines start opening) ≤ 0 :=
    surplus_body_le hle (Nat.le_of_lt hinside)
  have hbody := (surplus_closed hle hstop hclosed).1
  have hrest : window lines opening (blockEnd lines start stop) =
      lines.getD opening "" :: window lines (opening + 1) (blockEnd lines start stop) :=
    window_cons hinside (by omega)
  rw [← window_append lines hstart (Nat.le_of_lt hinside), surplus_append, hrest,
    surplus_opening hopens] at hbody
  omega

end

/-- A block that is opened inside a closed body is closed inside it, wherever the search for its END
would stop from there on. -/
theorem MatchingEnd.inner {lines : List String} {start stop position : Nat} (hle : start ≤ stop)
    (hstop : stop ≤ lines.length) (hend : MatchingEnd lines start stop position)
    (hclosed : position < stop) {opening : Nat} (hstart : start ≤ opening)
    (hinside : opening < position) (hopens : opensBlock (lines.getD opening "") = true) :
    ∃ inner, inner < position ∧
      ∀ far, position ≤ far → MatchingEnd lines (opening + 1) far inner := by
  obtain rfl := hend.unique (matchingEnd_blockEnd hle hstop)
  have hlength : blockEnd lines start stop ≤ lines.length := by omega
  have hbody : opening + 1 ≤ blockEnd lines start stop := hinside
  have hsurplus := surplus_after_opening hle hstop hclosed hstart hinside hopens
  have hinner := matchingEnd_blockEnd hbody hlength
  -- if the inner block were not closed, no piece after the opening would have too many ENDs
  have hlt : blockEnd lines (opening + 1) (blockEnd lines start stop) <
      blockEnd lines start stop := by
    by_contra hnot
    have hnone := surplus_body_le hbody (Nat.not_lt.1 hnot)
    omega
  exact ⟨_, hlt, fun far hfar => hinner.widen hlt hfar⟩

/-- **The search finds the matching END, and blocks are nested.**  What is found is the first line
before `stop` at which the ENDs outnumber the openings since `start`, or `stop` if there is none.
In a closed body every line that opens a block has its END inside the body, and it is found no
matter whether the search is given the body alone, all lines before `stop`, or the whole script. -/
theorem findBlockEnd_matches (lines : List String) (start stop : Nat) (hle : start ≤ stop)
    (hstop : stop ≤ lines.length) :
    ∃ position : Nat, findBlockEnd lines start stop = .ok (position : Int) ∧
      MatchingEnd lines start stop position ∧
      (position < stop → ∀ opening : Nat, start ≤ opening → opening < position →
        opensBlock (lines.getD opening "") = true →
        ∃ inner : Nat, inner < position ∧
          findBlockEnd lines (opening + 1 : Nat) position = .ok (inner : Int) ∧
          findBlockEnd lines (opening + 1 : Nat) stop = .ok (inner : Int) ∧
          findBlockEnd lines (opening + 1 : Nat) lines.length = .ok (inner : Int)) := by
  have hend := matchingEnd_blockEnd hle hstop
  refine ⟨_, findBlockEnd_eq_blockEnd hle hstop, hend, ?_⟩
  intro hclosed opening hstart hinside hopens
  obtain ⟨inner, hinner, hmatches⟩ := hend.inner hle hstop hclosed hstart hinside hopens
  refine ⟨inner, hinner, ?_, ?_, ?_⟩
  · rw [findBlockEnd_eq_ok_iff hinside (by omega)]
    exact hmatches _ (Nat.le_refl _)
  · rw [findBlockEnd_eq_ok_iff (by omega) hstop]
    exact hmatches _ (Nat.le_of_lt hclosed)
  · rw [findBlockEnd_eq_ok_iff (by omega) (Nat.le_refl _)]
    exact hmatches _ (by omega)

/-- A body with a loop in it, and one END too many after both. -/
def loopInside : List String :=
  ["do i = 1 to 2", "SAY i", "End", "END", "END"]

/-- The loop is closed within the body, also for a search through all lines. -/
theorem findBlockEnd_matches_loopInside :
    findBlockEnd loopInside 0 5 = .ok 3 ∧
      ∃ inner : Nat, inner < 3 ∧ findBlockEnd loopInside 1 3 = .ok (inner : Int) ∧
        findBlockEnd loopInside 1 5 = .ok (inner : Int) := by
  have houter : findBlockEnd loopInside 0 5 = .ok 3 := by decide
  obtain ⟨position, hfound, -, hnested⟩ :=
    findBlockEnd_matches loopInside 0 5 (by decide) (by decide)
  obtain rfl : position = 3 := by
    have hsame := Except.ok.inj (hfound.symm.trans houter)
    omega
  obtain ⟨inner, hlt, hbody, hwhole, -⟩ :=
    hnested (by decide) 0 (by decide) (by decide) (by decide)
  exact ⟨houter, inner, hlt, hbody, hwhole⟩

end DeckScript.Script
