import DeckScript.Proofs.Text.Pieces
import DeckScript.Settings.Reader

/-!
# Where comments start

Hashes and semicolons are looked at in turns, so the comment of a line need not start at
the first place where one could.  Two things can be said without the turns: a line has a
comment exactly if there is a mark at its beginning or after a blank (`isClear`), and what is
read of a line with a comment is what stands before one of these marks
(`visible_of_not_isClear`).
-/

namespace DeckScript.Settings

open Text

/-! ## Free marks -/

/-- A character that starts a comment, if it is free to. -/
def isMark (c : Char) : Bool :=
  c == '#' || c == ';'

/-- Whether a comment could start right after the text; `free` says it of an empty text. -/
def freeAfter : Bool → List Char → Bool
  | free, [] => free
  | _, c :: cs => freeAfter (isBlank c) cs

/-- No mark of the text is free.  `free` says whether one at its beginning would be. -/
def isClear : Bool → List Char → Bool
  | _, [] => true
  | free, c :: cs => !(free && isMark c) && isClear (isBlank c) cs

theorem isMark_iff {c : Char} : isMark c = true ↔ c = '#' ∨ c = ';' := by
  simp [isMark]

theorem isBlank_eq_false_of_isMark {c : Char} (hmark : isMark c = true) : isBlank c = false := by
  rcases isMark_iff.1 hmark with rfl | rfl <;> decide

theorem freeAfter_append (free : Bool) (cs ds : List Char) :
    freeAfter free (cs ++ ds) = freeAfter (freeAfter free cs) ds := by
  induction cs generalizing free with
  | nil => rfl
  | cons c cs ih => exact ih _

theorem isClear_append (free : Bool) (cs ds : List Char) :
    isClear free (cs ++ ds) = (isClear free cs && isClear (freeAfter free cs) ds) := by
  induction cs generalizing free with
  | nil => rfl
  | cons c cs ih => simp only [List.cons_append, isClear, freeAfter, ih, Bool.and_assoc]

/-- A text in which no mark is free at the beginning of a line is clear anywhere in it. -/
theorem isClear_of_isClear_true {free : Bool} {cs : List Char} (h : isClear true cs = true) :
    isClear free cs = true := by
  cases cs with
  | nil => rfl
  | cons c cs =>
    rw [isClear, Bool.true_and, Bool.and_eq_true] at h
    have hmark : isMark c = false := by simpa using h.1
    rw [isClear, hmark, Bool.and_false, h.2]
    rfl

theorem isClear_of_forall {free : Bool} {cs : List Char} (hcs : ∀ c ∈ cs, isMark c = false) :
    isClear free cs = true := by
  induction cs generalizing free with
  | nil => rfl
  | cons c cs ih =>
    rw [List.forall_mem_cons] at hcs
    rw [isClear, hcs.1, Bool.and_false, ih hcs.2]
    rfl

theorem isClear_eq_true_iff {free : Bool} {cs : List Char} :
    isClear free cs = true ↔ ∀ before mark after, cs = before ++ mark :: after →
      isMark mark = true → freeAfter free before = false := by
  induction cs generalizing free with
  | nil => simp [isClear]
  | cons c cs ih =>
    rw [isClear, Bool.and_eq_true, ih]
    constructor
    · rintro ⟨hhere, hrest⟩ before mark after heq hmark
      cases before with
      | nil =>
        obtain ⟨rfl, -⟩ := List.cons.inj heq
        simpa [hmark, freeAfter] using hhere
      | cons d before =>
        obtain ⟨rfl, hcs⟩ := List.cons.inj heq
        exact hrest before mark after hcs hmark
    · intro h
      constructor
      · cases hmark : isMark c with
        | false => rw [Bool.and_false, Bool.not_false]
        | true =>
          have hfree : free = false := h [] c cs rfl hmark
          rw [hfree, Bool.false_and, Bool.not_false]
      · intro before mark after heq hmark
        exact h (c :: before) mark after (congrArg (c :: ·) heq) hmark

theorem freeAfter_of_blanks {blanks : List Char} (hblanks : ∀ c ∈ blanks, isBlank c = true) :
    freeAfter true blanks = true := by
  induction blanks with
  | nil => rfl
  | cons c blanks ih =>
    rw [List.forall_mem_cons] at hblanks
    rw [freeAfter, hblanks.1]
    exact ih hblanks.2

/-! ## Turns -/

theorem mem_marks_iff {mark : Char} {position : Nat} {free : Bool} {cs : List Char} {i : Nat} :
    some i ∈ marks mark position free cs ↔
      ∃ before after, cs = before ++ mark :: after ∧ i = position + before.length ∧
        freeAfter free before = true := by
  induction cs generalizing position free with
  | nil => simp [marks]
  | cons c cs ih =>
    have hlater : some i ∈ marks mark (position + 1) (isBlank c) cs ↔
        ∃ before after, c :: cs = (c :: before) ++ mark :: after ∧
          i = position + (c :: before).length ∧ freeAfter free (c :: before) = true := by
      simp only [ih, List.cons_append, List.cons.injEq, true_and, List.length_cons, freeAfter,
        Nat.add_assoc, Nat.add_comm 1]
    constructor
    · intro h
      rw [marks] at h
      by_cases hc : c = mark
      · subst hc
        rw [if_pos rfl] at h
        rcases List.mem_cons.1 h with hhere | hrest
        · cases free with
          | false => cases hhere
          | true =>
            cases hhere
            exact ⟨[], cs, rfl, rfl, rfl⟩
        · obtain ⟨before, after, hsplit⟩ := hlater.1 hrest
          exact ⟨_, after, hsplit⟩
      · rw [if_neg hc] at h
        obtain ⟨before, after, hsplit⟩ := hlater.1 h
        exact ⟨_, after, hsplit⟩
    · rintro ⟨before, after, hcs, hi, hfree⟩
      rw [marks]
      cases before with
      | nil =>
        obtain ⟨rfl, -⟩ := List.cons.inj hcs
        obtain rfl : free = true := hfree
        rw [if_pos rfl, if_pos rfl, hi]
        exact List.mem_cons_self ..
      | cons d before =>
        obtain ⟨rfl, -⟩ := List.cons.inj hcs
        have hrest := hlater.2 ⟨before, after, hcs, hi, hfree⟩
        split
        · exact List.mem_cons_of_mem _ hrest
        · exact hrest

/-- The turns end with one of the places that they look at. -/
theorem mem_of_firstTurn {hashes semicolons : List (Option Nat)} {i : Nat}
    (h : firstTurn hashes semicolons = some i) : some i ∈ hashes ∨ some i ∈ semicolons := by
  fun_induction firstTurn hashes semicolons with
  | case1 => cases h
  | case2 j rest =>
    cases h
    exact .inl (List.mem_cons_self ..)
  | case3 rest ih =>
    rcases ih h with hrest | hnone
    · exact .inl (List.mem_cons_of_mem _ hrest)
    · cases hnone
  | case4 j rest =>
    cases h
    exact .inr (List.mem_cons_self ..)
  | case5 rest ih =>
    rcases ih h with hnone | hrest
    · cases hnone
    · exact .inr (List.mem_cons_of_mem _ hrest)
  | case6 j rest k rest' =>
    cases h
    rcases Nat.le_total j k with hle | hle
    · rw [Nat.min_eq_left hle]
      exact .inl (List.mem_cons_self ..)
    · rw [Nat.min_eq_right hle]
      exact .inr (List.mem_cons_self ..)
  | case7 j rest rest' =>
    cases h
    exact .inl (List.mem_cons_self ..)
  | case8 rest k rest' =>
    cases h
    exact .inr (List.mem_cons_self ..)
  | case9 rest rest' ih =>
    rcases ih h with hrest | hrest
    · exact .inl (List.mem_cons_of_mem _ hrest)
    · exact .inr (List.mem_cons_of_mem _ hrest)

/-- No place is overlooked. -/
theorem notMem_of_firstTurn {hashes semicolons : List (Option Nat)} (i : Nat)
    (h : firstTurn hashes semicolons = none) : some i ∉ hashes ∧ some i ∉ semicolons := by
  fun_induction firstTurn hashes semicolons with
  | case1 => simp
  | case2 => cases h
  | case3 rest ih => simpa using ih h
  | case4 => cases h
  | case5 rest ih => simpa using ih h
  | case6 => cases h
  | case7 => cases h
  | case8 => cases h
  | case9 rest rest' ih => simpa using ih h

/-- The place that the turns end with is that of a free mark. -/
theorem exists_of_firstTurn {line : List Char} {i : Nat}
    (h : firstTurn (marks '#' 0 true line) (marks ';' 0 true line) = some i) :
    ∃ before mark after, line = before ++ mark :: after ∧ isMark mark = true ∧
      freeAfter true before = true ∧ i = before.length := by
  rcases mem_of_firstTurn h with hhash | hsemicolon
  · obtain ⟨before, after, hline, hi, hfree⟩ := mem_marks_iff.1 hhash
    exact ⟨before, '#', after, hline, rfl, hfree, by omega⟩
  · obtain ⟨before, after, hline, hi, hfree⟩ := mem_marks_iff.1 hsemicolon
    exact ⟨before, ';', after, hline, rfl, hfree, by omega⟩

/-! ## Comments -/

/-- What is read of a line: the text before its comment, without the blanks around it. -/
def visible (text : List Char) : List Char :=
  trim (match commentStart? text with
    | some start => text.take start
    | none => text)

/-- The first visible character of the line starts a comment. -/
def IsComment (line : List Char) : Prop :=
  (trimLeft line).head? = some '#' ∨ (trimLeft line).head? = some ';'

instance (line : List Char) : Decidable (IsComment line) :=
  inferInstanceAs (Decidable (_ ∨ _))

theorem isComment_iff {line : List Char} :
    IsComment line ↔ ∃ before mark after, line = before ++ mark :: after ∧
      isMark mark = true ∧ ∀ c ∈ before, isBlank c = true := by
  constructor
  · intro hcomment
    obtain ⟨mark, hhead, hmark⟩ :
        ∃ mark, (trimLeft line).head? = some mark ∧ isMark mark = true := by
      rcases hcomment with hhash | hsemicolon
      · exact ⟨'#', hhash, rfl⟩
      · exact ⟨';', hsemicolon, rfl⟩
    obtain ⟨after, hafter⟩ := List.head?_eq_some_iff.1 hhead
    refine ⟨line.takeWhile isBlank, mark, after, ?_, hmark, fun c hc => List.mem_takeWhile_imp hc⟩
    rw [← hafter]
    exact List.takeWhile_append_dropWhile.symm
  · rintro ⟨before, mark, after, rfl, hmark, hblanks⟩
    have hhead : (trimLeft (before ++ mark :: after)).head? = some mark := by
      rw [trimLeft_append_of_blanks hblanks, trimLeft_eq_self]
      · rfl
      · rintro c ⟨⟩
        exact isBlank_eq_false_of_isMark hmark
    rcases isMark_iff.1 hmark with rfl | rfl
    · exact .inl hhead
    · exact .inr hhead

theorem commentStart?_of_isComment {line : List Char} (hcomment : IsComment line) :
    commentStart? line = some 0 := by
  unfold commentStart?
  rcases hcomment with hhash | hsemicolon
  · obtain ⟨rest, hrest⟩ := List.head?_eq_some_iff.1 hhash
    simp only [hrest]
  · obtain ⟨rest, hrest⟩ := List.head?_eq_some_iff.1 hsemicolon
    simp only [hrest]

theorem commentStart?_of_not_isComment {line : List Char} (hcomment : ¬IsComment line) :
    commentStart? line = firstTurn (marks '#' 0 true line) (marks ';' 0 true line) := by
  unfold commentStart?
  split
  · next hrest => exact absurd (.inl (by rw [hrest]; rfl)) hcomment
  · next hrest => exact absurd (.inr (by rw [hrest]; rfl)) hcomment
  · rfl

/-- A line has a comment if one of its marks is free. -/
theorem commentStart?_eq_none_iff {line : List Char} :
    commentStart? line = none ↔ isClear true line = true := by
  rw [isClear_eq_true_iff]
  constructor
  · intro hnone before mark after hline hmark
    have hcomment : ¬IsComment line := by
      intro hcomment
      rw [commentStart?_of_isComment hcomment] at hnone
      cases hnone
    rw [commentStart?_of_not_isComment hcomment] at hnone
    obtain ⟨hhash, hsemicolon⟩ := notMem_of_firstTurn (0 + before.length) hnone
    rw [mem_marks_iff] at hhash hsemicolon
    cases hfree : freeAfter true before with
    | false => rfl
    | true =>
      rcases isMark_iff.1 hmark with rfl | rfl
      · exact absurd ⟨before, after, hline, rfl, hfree⟩ hhash
      · exact absurd ⟨before, after, hline, rfl, hfree⟩ hsemicolon
  · intro hclear
    have hcomment : ¬IsComment line := by
      intro hcomment
      obtain ⟨before, mark, after, hline, hmark, hblanks⟩ := isComment_iff.1 hcomment
      have hfree := hclear before mark after hline hmark
      rw [freeAfter_of_blanks hblanks] at hfree
      cases hfree
    rw [commentStart?_of_not_isComment hcomment, Option.eq_none_iff_forall_ne_some]
    intro i hi
    obtain ⟨before, mark, after, hline, hmark, hfree, -⟩ := exists_of_firstTurn hi
    rw [hclear before mark after hline hmark] at hfree
    cases hfree

theorem visible_of_isClear {line : List Char} (hclear : isClear true line = true) :
    visible line = trim line := by
  rw [visible, commentStart?_eq_none_iff.2 hclear]

theorem visible_of_isComment {line : List Char} (hcomment : IsComment line) :
    visible line = [] := by
  rw [visible, commentStart?_of_isComment hcomment]
  rfl

/-- Of a line with a comment, the part before a free mark is read. -/
theorem visible_of_not_isClear {line : List Char} (hclear : isClear true line = false) :
    ∃ before mark after, line = before ++ mark :: after ∧ isMark mark = true ∧
      freeAfter true before = true ∧ visible line = trim before := by
  by_cases hcomment : IsComment line
  · obtain ⟨before, mark, after, hline, hmark, hblanks⟩ := isComment_iff.1 hcomment
    refine ⟨before, mark, after, hline, hmark, freeAfter_of_blanks hblanks, ?_⟩
    have hempty : trim (before ++ []) = trim [] := trim_append_of_blanks hblanks []
    rw [visible_of_isComment hcomment, ← List.append_nil before, hempty]
    rfl
  · cases hstart : commentStart? line with
    | none =>
      rw [commentStart?_eq_none_iff, hclear] at hstart
      cases hstart
    | some i =>
      have hturn := hstart
      rw [commentStart?_of_not_isComment hcomment] at hturn
      obtain ⟨before, mark, after, hline, hmark, hfree, hi⟩ := exists_of_firstTurn hturn
      refine ⟨before, mark, after, hline, hmark, hfree, ?_⟩
      rw [visible, hstart]
      dsimp only
      rw [hline, hi, List.take_left]

/-- What is read of a line is its beginning, up to a mark or all of it. -/
theorem exists_visible_eq (line : List Char) :
    ∃ start rest, line = start ++ rest ∧ visible line = trim start ∧
      (rest = [] ∨ ∃ mark ∈ rest.head?, isMark mark = true) := by
  cases hclear : isClear true line with
  | true => exact ⟨line, [], by simp, visible_of_isClear hclear, .inl rfl⟩
  | false =>
    obtain ⟨before, mark, after, hline, hmark, -, hvisible⟩ := visible_of_not_isClear hclear
    exact ⟨before, mark :: after, hline, hvisible, .inr ⟨mark, rfl, hmark⟩⟩

/-- A line of which nothing is read is blank or a comment. -/
theorem isComment_of_visible_eq_nil {line : List Char} (hvisible : visible line = [])
    (hstart : commentStart? line ≠ none) : IsComment line := by
  rw [Ne, commentStart?_eq_none_iff, Bool.not_eq_true] at hstart
  obtain ⟨before, mark, after, hline, hmark, -, hbefore⟩ := visible_of_not_isClear hstart
  rw [hvisible] at hbefore
  exact isComment_iff.2 ⟨before, mark, after, hline, hmark, isBlank_of_trim_eq_nil hbefore.symm⟩

theorem mem_of_mem_visible {line : List Char} {c : Char} (hc : c ∈ visible line) : c ∈ line := by
  obtain ⟨start, rest, hline, hvisible, -⟩ := exists_visible_eq line
  rw [hvisible] at hc
  rw [hline]
  exact List.mem_append_left _ (mem_of_mem_trim hc)

end DeckScript.Settings
