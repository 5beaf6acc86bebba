import DeckScript.Proofs.Text.Pieces

/-!
# Runs of blanks

Two texts that differ only in the lengths of their runs of blanks have the same `squeeze`:
the text with one space in place of each run.  Skipping blanks, cutting off a word and the
like commute with it, so whatever is found by such steps alone does not depend on how long
the runs are.
-/

namespace DeckScript.Text

/-- One space for each run of blanks. -/
def squeeze : List Char → List Char
  | [] => []
  | c :: cs =>
    if isBlank c then
      if cs.head?.any isBlank then squeeze cs else ' ' :: squeeze cs
    else c :: squeeze cs

theorem squeeze_cons_of_not_isBlank {c : Char} (hc : isBlank c = false) (cs : List Char) :
    squeeze (c :: cs) = c :: squeeze cs := by
  rw [squeeze, hc]
  rfl

theorem squeeze_cons_of_isBlank {c : Char} (hc : isBlank c = true) (cs : List Char) :
    squeeze (c :: cs) = ' ' :: squeeze (trimLeft cs) := by
  induction cs generalizing c with
  | nil => simp [squeeze, hc, trimLeft]
  | cons d cs ih =>
    cases hd : isBlank d with
    | true =>
      have htrim : trimLeft (d :: cs) = trimLeft cs := List.dropWhile_cons_of_pos hd
      rw [squeeze, if_pos hc, List.head?_cons, Option.any_some, if_pos hd, ih hd, htrim]
    | false =>
      have htrim : trimLeft (d :: cs) = d :: cs := List.dropWhile_cons_of_neg (by simp [hd])
      rw [squeeze, if_pos hc, List.head?_cons, Option.any_some, hd, htrim]
      rfl

theorem squeeze_append_of_isGap {gap : List Char} (hgap : IsGap gap) (cs : List Char) :
    squeeze (gap ++ cs) = ' ' :: squeeze (trimLeft cs) := by
  obtain ⟨c, gap, rfl⟩ := List.exists_cons_of_ne_nil hgap.ne_nil
  obtain ⟨hc, hblanks⟩ := List.forall_mem_cons.1 hgap.isBlank
  rw [List.cons_append, squeeze_cons_of_isBlank hc, trimLeft_append_of_blanks hblanks]

theorem squeeze_eq_nil_iff {cs : List Char} : squeeze cs = [] ↔ cs = [] := by
  cases cs with
  | nil => exact Iff.rfl
  | cons c cs =>
    cases hc : isBlank c with
    | true => simp [squeeze_cons_of_isBlank hc]
    | false => simp [squeeze_cons_of_not_isBlank hc]

/-- Where a text starts with another character than a blank, so does its squeeze. -/
theorem head?_squeeze {cs : List Char} (hhead : ∀ c ∈ cs.head?, isBlank c = false) :
    (squeeze cs).head? = cs.head? := by
  cases cs with
  | nil => rfl
  | cons c cs => rw [squeeze_cons_of_not_isBlank (hhead c rfl), List.head?_cons, List.head?_cons]

/-- A character other than a blank starts the squeeze if it starts the text. -/
theorem squeeze_eq_cons_iff {c : Char} (hc : isBlank c = false) {cs ds : List Char} :
    squeeze cs = c :: ds ↔ ∃ rest, cs = c :: rest ∧ ds = squeeze rest := by
  constructor
  · intro hsqueeze
    cases cs with
    | nil => cases hsqueeze
    | cons d cs =>
      cases hd : isBlank d with
      | true =>
        rw [squeeze_cons_of_isBlank hd] at hsqueeze
        rw [← (List.cons.inj hsqueeze).1, isBlank_space] at hc
        cases hc
      | false =>
        rw [squeeze_cons_of_not_isBlank hd] at hsqueeze
        obtain ⟨rfl, rfl⟩ := List.cons.inj hsqueeze
        exact ⟨cs, rfl, rfl⟩
  · rintro ⟨rest, rfl, rfl⟩
    exact squeeze_cons_of_not_isBlank hc rest

theorem any_isBlank_head?_squeeze (cs : List Char) :
    (squeeze cs).head?.any isBlank = cs.head?.any isBlank := by
  cases cs with
  | nil => rfl
  | cons c cs =>
    cases hc : isBlank c with
    | true => simp [squeeze_cons_of_isBlank hc, hc]
    | false => simp [squeeze_cons_of_not_isBlank hc]

theorem mem_squeeze_iff {c : Char} (hc : isBlank c = false) {cs : List Char} :
    c ∈ squeeze cs ↔ c ∈ cs := by
  induction cs with
  | nil => exact Iff.rfl
  | cons d cs ih =>
    have hne (hd : isBlank d = true) : c ≠ d := by
      rintro rfl
      rw [hc] at hd
      cases hd
    rw [squeeze]
    split
    · next hd =>
      have hspace : c ≠ ' ' := by
        rintro rfl
        exact absurd hc (by decide)
      split
      · rw [ih, List.mem_cons, or_iff_right (hne hd)]
      · rw [List.mem_cons, List.mem_cons, or_iff_right hspace, or_iff_right (hne hd), ih]
    · rw [List.mem_cons, List.mem_cons, ih]

/-! ## Changing a run of blanks -/

theorem squeeze_cons_congr (c : Char) {cs ds : List Char} (h : squeeze cs = squeeze ds) :
    squeeze (c :: cs) = squeeze (c :: ds) := by
  have hhead : cs.head?.any isBlank = ds.head?.any isBlank := by
    rw [← any_isBlank_head?_squeeze, h, any_isBlank_head?_squeeze]
  rw [squeeze, squeeze, hhead, h]

/-- A run of blanks may become longer or shorter. -/
theorem squeeze_change {gap gap' : List Char} (hgap : IsGap gap) (hgap' : IsGap gap')
    (before after : List Char) :
    squeeze (before ++ (gap ++ after)) = squeeze (before ++ (gap' ++ after)) := by
  induction before with
  | nil =>
    rw [List.nil_append, List.nil_append, squeeze_append_of_isGap hgap,
      squeeze_append_of_isGap hgap']
  | cons c before ih => exact squeeze_cons_congr c ih

/-! ## Steps that commute -/

theorem trimLeft_squeeze (cs : List Char) : trimLeft (squeeze cs) = squeeze (trimLeft cs) := by
  cases cs with
  | nil => rfl
  | cons c cs =>
    cases hc : isBlank c with
    | true =>
      have htrim : trimLeft (c :: cs) = trimLeft cs := List.dropWhile_cons_of_pos hc
      have hspace (ds : List Char) : trimLeft (' ' :: ds) = trimLeft ds :=
        List.dropWhile_cons_of_pos isBlank_space
      rw [squeeze_cons_of_isBlank hc, hspace, htrim]
      refine trimLeft_eq_self ?_
      rw [head?_squeeze (head?_trimLeft cs)]
      exact head?_trimLeft cs
    | false =>
      have hhead {ds : List Char} : ∀ d ∈ (c :: ds).head?, isBlank d = false := by
        intro d hd
        cases hd
        exact hc
      rw [trimLeft_eq_self hhead, squeeze_cons_of_not_isBlank hc, trimLeft_eq_self hhead]

theorem wordOf_squeeze (cs : List Char) : wordOf (squeeze cs) = wordOf cs := by
  induction cs with
  | nil => rfl
  | cons c cs ih =>
    rw [wordOf, wordOf] at ih ⊢
    cases hc : isBlank c with
    | true =>
      rw [squeeze_cons_of_isBlank hc, List.takeWhile_cons_of_neg (by simp),
        List.takeWhile_cons_of_neg (by simp [isWord_eq_false_of_isBlank hc])]
    | false =>
      rw [squeeze_cons_of_not_isBlank hc, List.takeWhile_cons, List.takeWhile_cons, ih]

theorem afterWord_squeeze (cs : List Char) : afterWord (squeeze cs) = squeeze (afterWord cs) := by
  induction cs with
  | nil => rfl
  | cons c cs ih =>
    rw [afterWord, afterWord] at ih ⊢
    cases hword : isWord c with
    | true =>
      rw [squeeze_cons_of_not_isBlank (isBlank_eq_false_of_isWord hword),
        List.dropWhile_cons_of_pos hword, List.dropWhile_cons_of_pos hword, ih]
    | false =>
      rw [List.dropWhile_cons_of_neg (by simp [hword])]
      cases hc : isBlank c with
      | true =>
        rw [squeeze_cons_of_isBlank hc, List.dropWhile_cons_of_neg (by simp)]
      | false =>
        rw [squeeze_cons_of_not_isBlank hc, List.dropWhile_cons_of_neg (by simp [hword])]

end DeckScript.Text
