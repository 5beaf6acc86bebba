import Mathlib.Logic.Relation
import DeckScript.Proofs.Script.Levels

/-!
# Lines that do nothing

Blank lines and comments to the end of the line do nothing, wherever they stand, and
neither do the blanks around a line.  What remains of a script without them is its
`core`.  Ends of blocks and of comments are found by counting and searching lines, so
they have other positions in the core; but cutting the lines there and then passing to
the core is the same as passing to the core first (`core_bodyLength`,
`core_drop_commentLength`).

A comment line that contains the end of a comment over several lines is not idle: if
such a comment is open, the line closes it.
-/

namespace DeckScript.Script

open Text Run

/-! ## Ends of comments -/

theorem closesComment_cons {c : Char} (hc : c ≠ '*') (cs : List Char) :
    closesComment (c :: cs) = closesComment cs := by
  simp [closesComment, Statement.blockCommentEnd, hc.symm]

theorem closesComment_concat {c : Char} (hc : c ≠ '/') (cs : List Char) :
    closesComment (cs ++ [c]) = closesComment cs := by
  induction cs with
  | nil => simp [closesComment, Statement.blockCommentEnd, List.isPrefixOf]
  | cons d ds ih =>
    rw [List.cons_append, closesComment, closesComment, ih]
    cases ds with
    | nil => simp [Statement.blockCommentEnd, List.isPrefixOf, hc.symm]
    | cons e es => simp [Statement.blockCommentEnd, List.isPrefixOf]

theorem closesComment_trimLeft (cs : List Char) :
    closesComment (trimLeft cs) = closesComment cs := by
  induction cs with
  | nil => rfl
  | cons c cs ih =>
    by_cases hblank : isBlank c = true
    · have hc : c ≠ '*' := by
        rintro rfl
        exact absurd hblank (by decide)
      rw [closesComment_cons hc, ← ih, trimLeft, List.dropWhile_cons_of_pos hblank, trimLeft]
    · rw [trimLeft, List.dropWhile_cons_of_neg hblank]

theorem closesComment_trimRight (cs : List Char) :
    closesComment (trimRight cs) = closesComment cs := by
  induction cs using List.reverseRecOn with
  | nil => rfl
  | append_singleton cs c ih =>
    by_cases hblank : isBlank c = true
    · have hc : c ≠ '/' := by
        rintro rfl
        exact absurd hblank (by decide)
      rw [closesComment_concat hc, ← ih, trimRight_concat_of_blank hblank]
    · have htrim : trimRight (cs ++ [c]) = cs ++ [c] := List.rdropWhile_concat_neg _ _ _ hblank
      rw [htrim]

/-- The blanks around a line cannot be part of the end of a comment. -/
@[simp] theorem closesComment_trim (cs : List Char) :
    closesComment (trim cs) = closesComment cs := by
  rw [trim, closesComment_trimRight, closesComment_trimLeft]

/-! ## Idle lines and the core -/

/-- Whether a line does nothing: it is blank, or a comment to its end that does not at the same time
end one over several lines. -/
def isIdle (line : String) : Bool :=
  (trim line.toList).isEmpty ||
    Statement.lineComment.isPrefixOf (trim line.toList) && !closesComment line.toList

/-- The lines that do something, without the blanks around them. -/
def core (lines : List String) : List String :=
  (lines.filter fun line => !isIdle line).map trimmed

@[simp] theorem core_nil : core [] = [] := rfl

theorem core_cons_of_idle {line : String} (hidle : isIdle line = true) (lines : List String) :
    core (line :: lines) = core lines := by
  simp [core, hidle]

theorem core_cons_of_not_idle {line : String} (hidle : isIdle line = false)
    (lines : List String) : core (line :: lines) = trimmed line :: core lines := by
  simp [core, hidle]

theorem core_append (lines more : List String) :
    core (lines ++ more) = core lines ++ core more := by
  simp [core]

theorem isIdle_congr {line line' : String} (htrim : trimmed line = trimmed line') :
    isIdle line = isIdle line' := by
  have hchars : trim line.toList = trim line'.toList := String.ofList_injective htrim
  unfold isIdle
  rw [← closesComment_trim line.toList, ← closesComment_trim line'.toList, hchars]

/-- An idle line is passed over by the search for the end of a block. -/
theorem leadingWord_of_idle {line : String} (hidle : isIdle line = true) :
    leadingWord line = "" := by
  rcases Bool.or_eq_true_iff.1 hidle with hblank | hcomment
  · simp [leadingWord, List.isEmpty_iff.1 hblank]
  · have hstart := (Bool.and_eq_true_iff.1 hcomment).1
    rw [← leadingWord_trimmed]
    rw [← toList_trimmed] at hstart
    exact Statement.leadingWord_of_mark '-' (by decide) (by simp) hstart

theorem closesComment_eq_false_of_isIdle {line : String} (hidle : isIdle line = true) :
    closesComment line.toList = false := by
  rcases Bool.or_eq_true_iff.1 hidle with hblank | hcomment
  · rw [← closesComment_trim, List.isEmpty_iff.1 hblank]
    rfl
  · simpa using (Bool.and_eq_true_iff.1 hcomment).2

/-! ## Blocks -/

theorem bodyLength_of_idle {line : String} (hidle : isIdle line = true) (depth : Nat)
    (rest : List String) : bodyLength depth (line :: rest) = bodyLength depth rest + 1 := by
  have hword := leadingWord_of_idle hidle
  have hopens : opensBlock line = false := by rw [opensBlock, hword]; decide
  have hcloses : closesBlock line = false := by rw [closesBlock, hword]; decide
  simp [bodyLength, hopens, hcloses, Nat.add_comm]

/-- A block ends in the core where it ends in the lines. -/
theorem core_bodyLength (depth : Nat) (lines : List String) :
    core (lines.take (bodyLength depth lines)) = (core lines).take (bodyLength depth (core lines)) ∧
      core (lines.drop (bodyLength depth lines + 1)) =
        (core lines).drop (bodyLength depth (core lines) + 1) := by
  induction lines generalizing depth with
  | nil => simp
  | cons line rest ih =>
    cases hidle : isIdle line with
    | true =>
      rw [bodyLength_of_idle hidle, List.take_succ_cons, List.drop_succ_cons,
        core_cons_of_idle hidle, core_cons_of_idle hidle]
      exact ih depth
    | false =>
      have hopens : opensBlock (trimmed line) = opensBlock line := by simp [opensBlock]
      have hcloses : closesBlock (trimmed line) = closesBlock line := by simp [closesBlock]
      -- one line further, in the lines and in the core
      have hnext (count count' : Nat)
          (h : core (rest.take count) = (core rest).take count' ∧
            core (rest.drop (count + 1)) = (core rest).drop (count' + 1)) :
          core ((line :: rest).take (1 + count)) = (trimmed line :: core rest).take (1 + count') ∧
            core ((line :: rest).drop (1 + count + 1)) =
              (trimmed line :: core rest).drop (1 + count' + 1) := by
        simpa [Nat.add_comm 1, core_cons_of_not_idle hidle] using h
      rw [core_cons_of_not_idle hidle, bodyLength.eq_def, bodyLength.eq_def depth (_ :: core rest)]
      dsimp only
      rw [hopens, hcloses]
      cases opensBlock line with
      | true => exact hnext _ _ (ih (depth + 1))
      | false =>
        cases closesBlock line with
        | false => exact hnext _ _ (ih depth)
        | true =>
          cases depth with
          | zero => simp
          | succ depth => exact hnext _ _ (ih depth)

/-! ## Comments over several lines -/

theorem commentLength_cons (line : String) (rest : List String) :
    commentLength (line :: rest) =
      if closesComment line.toList then 1 else commentLength rest + 1 := by
  cases hcloses : closesComment line.toList <;> simp [commentLength, hcloses]

/-- A comment ends in the core where it ends in the lines. -/
theorem core_drop_commentLength (lines : List String) :
    core (lines.drop (commentLength lines)) = (core lines).drop (commentLength (core lines)) := by
  induction lines with
  | nil => simp
  | cons line rest ih =>
    cases hidle : isIdle line with
    | true =>
      rw [core_cons_of_idle hidle, commentLength_cons, closesComment_eq_false_of_isIdle hidle]
      exact ih
    | false =>
      rw [core_cons_of_not_idle hidle, commentLength_cons, commentLength_cons, toList_trimmed,
        closesComment_trim]
      cases closesComment line.toList with
      | true => rfl
      | false => exact ih

/-! ## Changes of the layout -/

/-- One change of the layout of lines: an idle line is put in, or the blanks around a line are
changed. -/
inductive Respaced : List String → List String → Prop
  | insert (before after : List String) {line : String} (hidle : isIdle line = true) :
      Respaced (before ++ after) (before ++ line :: after)
  | margins (before after : List String) {line line' : String}
      (htrim : trimmed line = trimmed line') :
      Respaced (before ++ line :: after) (before ++ line' :: after)

theorem Respaced.core_eq {lines lines' : List String} (h : Respaced lines lines') :
    core lines = core lines' := by
  cases h with
  | insert before after hidle => rw [core_append, core_append, core_cons_of_idle hidle]
  | @margins before after line line' htrim =>
    have hsame : core (line :: after) = core (line' :: after) := by
      cases hidle : isIdle line with
      | true =>
        rw [core_cons_of_idle hidle, core_cons_of_idle (isIdle_congr htrim ▸ hidle)]
      | false =>
        rw [core_cons_of_not_idle hidle, core_cons_of_not_idle (isIdle_congr htrim ▸ hidle), htrim]
    rw [core_append, core_append, hsame]

theorem Respaced.cons {lines lines' : List String} (h : Respaced lines lines') (line : String) :
    Respaced (line :: lines) (line :: lines') := by
  cases h with
  | insert before after hidle => exact .insert (line :: before) after hidle
  | margins before after htrim => exact .margins (line :: before) after htrim

theorem eqvGen_respaced_cons {lines lines' : List String}
    (h : Relation.EqvGen Respaced lines lines') (line : String) :
    Relation.EqvGen Respaced (line :: lines) (line :: lines') := by
  induction h with
  | rel lines lines' hchange => exact .rel _ _ (hchange.cons line)
  | refl lines => exact .refl _
  | symm lines lines' _ ih => exact ih.symm
  | trans lines lines' lines'' _ _ ih ih' => exact ih.trans _ _ _ ih'

/-- Lines are brought to their core by changes of the layout. -/
theorem eqvGen_respaced_core (lines : List String) :
    Relation.EqvGen Respaced lines (core lines) := by
  induction lines with
  | nil => exact .refl _
  | cons line rest ih =>
    cases hidle : isIdle line with
    | true =>
      have hinsert : Respaced rest (line :: rest) := .insert [] rest hidle
      rw [core_cons_of_idle hidle]
      exact .trans _ rest _ (.symm _ _ (.rel _ _ hinsert)) ih
    | false =>
      have hmargins : Respaced (line :: rest) (trimmed line :: rest) :=
        .margins [] rest (by simp [trimmed])
      rw [core_cons_of_not_idle hidle]
      exact .trans _ _ _ (.rel _ _ hmargins) (eqvGen_respaced_cons ih _)

/-- The scripts differ in their layout only: idle lines are put in or taken out, and blanks around
lines are added or removed, at any places and any number of times. -/
def SameButSpacing (script script' : String) : Prop :=
  Relation.EqvGen Respaced (splitLines script) (splitLines script')

theorem SameButSpacing.core_eq {script script' : String} (h : SameButSpacing script script') :
    core (splitLines script) = core (splitLines script') := by
  unfold SameButSpacing at h
  generalize splitLines script = lines, splitLines script' = lines' at h
  induction h with
  | rel lines lines' hchange => exact hchange.core_eq
  | refl lines => rfl
  | symm lines lines' _ ih => exact ih.symm
  | trans lines lines' lines'' _ _ ih ih' => exact ih.trans ih'

/-- Scripts differ in their layout only if their cores are the same. -/
theorem sameButSpacing_iff_core_eq {script script' : String} :
    SameButSpacing script script' ↔ core (splitLines script) = core (splitLines script') := by
  refine ⟨SameButSpacing.core_eq, fun hcore => ?_⟩
  have hfirst := eqvGen_respaced_core (splitLines script)
  rw [hcore] at hfirst
  exact hfirst.trans _ _ _ (eqvGen_respaced_core (splitLines script')).symm

instance (script script' : String) : Decidable (SameButSpacing script script') :=
  decidable_of_iff _ sameButSpacing_iff_core_eq.symm

end DeckScript.Script
