import Mathlib.Data.List.Forall2
import DeckScript.Proofs.Script.Levels
import DeckScript.Proofs.Script.Recognition
import DeckScript.Proofs.Text.Squeeze

/-!
# Headers of blocks and their blanks

The condition of an IF and the first bound of a DO end at the first THEN or TO that
follows a blank, and they are sought with all the blanks before them skipped, then with
one blank less, and so on.  If anything but blanks stands there, the first attempt
decides, and how many blanks there are plays no role.  A hollow header has THEN or TO right
after the blanks, and no other one later.  There the first attempt finds nothing, and a
later one takes a blank for the condition or the bound: the header is recognised if it has
enough blanks for that, and only then.

## Strategy

Both searches look for blanks and a keyword.  `afterGap` is their common form, `search_eq`
says what such a search finds, and `ends_squeeze` that this does not depend on the lengths
of runs of blanks.
-/

namespace DeckScript.Script

open Text Statement

/-! ## Cuts -/

/-- Somewhere in the text `ending?` recognises what follows. -/
def Ends {α : Type} (ending? : List Char → Option α) (cs : List Char) : Prop :=
  ∃ rest, rest <:+ cs ∧ (ending? rest).isSome = true

section

variable {α : Type} {ending? : List Char → Option α}

theorem ends_nil_iff : Ends ending? [] ↔ (ending? []).isSome = true := by
  constructor
  · rintro ⟨rest, hrest, hsome⟩
    rwa [List.suffix_nil.1 hrest] at hsome
  · exact fun hsome => ⟨[], List.suffix_rfl, hsome⟩

theorem ends_cons_iff {c : Char} {cs : List Char} :
    Ends ending? (c :: cs) ↔ (ending? (c :: cs)).isSome = true ∨ Ends ending? cs := by
  constructor
  · rintro ⟨rest, hrest, hsome⟩
    rcases List.suffix_cons_iff.1 hrest with rfl | hrest
    · exact .inl hsome
    · exact .inr ⟨rest, hrest, hsome⟩
  · rintro (hsome | ⟨rest, hrest, hsome⟩)
    · exact ⟨_, List.suffix_rfl, hsome⟩
    · exact ⟨rest, List.suffix_cons_iff.2 (.inr hrest), hsome⟩

theorem isSome_cutShortest_cons_iff {c : Char} {cs : List Char} (honeLine : '\n' ∉ c :: cs) :
    (cutShortest ending? (c :: cs)).isSome = true ↔ Ends ending? cs := by
  induction cs generalizing c with
  | nil =>
    rw [List.mem_cons, not_or] at honeLine
    rw [cutShortest, if_neg (Ne.symm honeLine.1), ends_nil_iff]
    cases ending? [] with
    | some ending => simp
    | none => simp [cutShortest]
  | cons d cs ih =>
    rw [List.mem_cons, not_or] at honeLine
    rw [cutShortest, if_neg (Ne.symm honeLine.1), ends_cons_iff, ← ih honeLine.2]
    cases ending? (d :: cs) with
    | some ending => simp
    | none => simp

/-- What a cut is. -/
theorem exists_of_cutShortest {cs : List Char} {cut : List Char × α}
    (hcut : cutShortest ending? cs = some cut) :
    ∃ rest, cs = cut.1 ++ rest ∧ cut.1 ≠ [] ∧ ending? rest = some cut.2 ∧
      ∀ first second, cut.1 = first ++ second → first ≠ [] → second ≠ [] →
        ending? (second ++ rest) = none := by
  induction cs generalizing cut with
  | nil => cases hcut
  | cons c cs ih =>
    rw [cutShortest] at hcut
    split at hcut
    · cases hcut
    · cases hhere : ending? cs with
      | some ending =>
        rw [hhere] at hcut
        cases hcut
        refine ⟨cs, rfl, List.cons_ne_nil _ _, hhere, ?_⟩
        intro first second hsplit hfirst hsecond
        -- a single character cannot be split
        have hlength := congrArg List.length hsplit
        rw [List.length_append, List.length_singleton] at hlength
        have hfirst := List.length_pos_iff.2 hfirst
        have hsecond := List.length_pos_iff.2 hsecond
        omega
      | none =>
        rw [hhere] at hcut
        obtain ⟨cut', hcut', rfl⟩ := Option.map_eq_some_iff.1 hcut
        obtain ⟨rest, rfl, hne, hending, hearlier⟩ := ih hcut'
        refine ⟨rest, rfl, List.cons_ne_nil _ _, hending, ?_⟩
        intro first second hsplit hfirst hsecond
        obtain ⟨d, first, rfl⟩ := List.exists_cons_of_ne_nil hfirst
        obtain ⟨rfl, htail⟩ : c = d ∧ cut'.1 = first ++ second := List.cons.inj hsplit
        by_cases hnil : first = []
        · rw [hnil, List.nil_append] at htail
          rw [← htail]
          exact hhere
        · exact hearlier first second htail hnil hsecond

theorem cutShortest_congr {other? : List Char → Option α} {cs : List Char}
    (hsame : ∀ rest, rest <:+ cs → ending? rest = other? rest) :
    cutShortest ending? cs = cutShortest other? cs := by
  induction cs with
  | nil => rfl
  | cons c cs ih =>
    have hrest := ih fun rest hrest => hsame rest (List.suffix_cons_iff.2 (.inr hrest))
    rw [cutShortest, cutShortest, hsame cs (List.suffix_cons c cs), hrest]

end

/-! ## Blanks and a keyword -/

/-- Skips blanks, and then looks for what `inner?` recognises. -/
def afterGap {α : Type} (inner? : List Char → Option α) (cs : List Char) : Option α :=
  (afterBlanks? cs).bind inner?

/-- Recognises the whole word THEN. -/
def thenWord? (cs : List Char) : Option Unit :=
  match afterLetters? ['T', 'H', 'E', 'N'] cs with
  | none => none
  | some [] => some ()
  | some (c :: _) => if isWord c then none else some ()

/-- Recognises TO and blanks, and returns what follows. -/
def toWord? (cs : List Char) : Option (List Char) :=
  (afterLetters? ['T', 'O'] cs).bind afterBlanks?

theorem then?_eq_afterGap : then? = afterGap thenWord? := by
  funext cs
  rw [then?, afterGap]
  cases afterBlanks? cs with
  | none => rfl
  | some rest => rfl

section

variable {α : Type} {inner? : List Char → Option α}

theorem afterGap_of_head {cs : List Char} (hhead : ∀ c ∈ cs.head?, isBlank c = false) :
    afterGap inner? cs = none := by
  cases cs with
  | nil => rfl
  | cons c cs => simp [afterGap, afterBlanks?, hhead c rfl]

theorem afterGap_append {gap body : List Char} (hgap : IsGap gap)
    (hhead : ∀ c ∈ body.head?, isBlank c = false) :
    afterGap inner? (gap ++ body) = inner? body := by
  rw [afterGap, afterBlanks?_append hgap hhead, Option.bind_some]

/-- One blank before others is skipped like them. -/
theorem afterGap_cons {c d : Char} (hc : isBlank c = true) (hd : isBlank d = true)
    (cs : List Char) : afterGap inner? (c :: d :: cs) = afterGap inner? (d :: cs) := by
  simp [afterGap, afterBlanks?, hc, hd, trimLeft]

/-- A text that starts with another character than a blank is cut exactly if blanks with what
`inner?` recognises stand somewhere in it. -/
theorem isSome_cutShortest_afterGap_iff {body : List Char}
    (hhead : ∀ c ∈ body.head?, isBlank c = false) (honeLine : '\n' ∉ body) :
    (cutShortest (afterGap inner?) body).isSome = true ↔ Ends (afterGap inner?) body := by
  cases body with
  | nil =>
    rw [ends_nil_iff]
    exact Iff.rfl
  | cons c body =>
    rw [isSome_cutShortest_cons_iff honeLine, ends_cons_iff, afterGap_of_head hhead]
    simp

/-- What is cut off has no blank at either end. -/
theorem tight_of_cutShortest {body : List Char} (hhead : ∀ c ∈ body.head?, isBlank c = false)
    {cut : List Char × α} (hcut : cutShortest (afterGap inner?) body = some cut) :
    Tight cut.1 ∧ cut.1 ≠ [] := by
  obtain ⟨rest, rfl, hne, hending, hearlier⟩ := exists_of_cutShortest hcut
  rw [List.head?_append_of_ne_nil _ hne] at hhead
  refine ⟨⟨hhead, ?_⟩, hne⟩
  intro c hc
  by_contra hblank
  rw [Bool.not_eq_false] at hblank
  obtain ⟨first, hfirst⟩ := List.getLast?_eq_some_iff.1 hc
  -- a blank at the end would belong to the blanks that are skipped after the cut
  obtain ⟨d, rest, rfl, hd⟩ : ∃ d rest', rest = d :: rest' ∧ isBlank d = true := by
    cases rest with
    | nil => cases hending
    | cons d rest =>
      refine ⟨d, rest, rfl, ?_⟩
      by_contra hd
      rw [afterGap_of_head (by simpa using hd)] at hending
      cases hending
  have hnil : first ≠ [] := by
    rintro rfl
    rw [hfirst] at hhead
    have hc := hhead c rfl
    rw [hblank] at hc
    cases hc
  have hnone := hearlier first [c] hfirst hnil (List.cons_ne_nil _ _)
  rw [List.singleton_append, afterGap_cons hblank hd, hending] at hnone
  cases hnone

/-! ## Skipping fewer blanks -/

theorem skips_cons_of_isBlank {c : Char} (hc : isBlank c = true) (cs : List Char) :
    skips (c :: cs) = skips cs ++ [c :: cs] := by
  rw [skips, shortestSkips, if_pos hc, List.reverse_cons, ← skips]

/-- The attempts on a longer run of blanks come after those on a shorter one. -/
theorem exists_skips_append {gap : List Char} (hgap : ∀ c ∈ gap, isBlank c = true)
    (cs : List Char) : ∃ more, skips (gap ++ cs) = skips cs ++ more := by
  induction gap with
  | nil => exact ⟨[], (List.append_nil _).symm⟩
  | cons c gap ih =>
    rw [List.forall_mem_cons] at hgap
    obtain ⟨more, hmore⟩ := ih hgap.2
    exact ⟨more ++ [c :: (gap ++ cs)], by
      rw [List.cons_append, skips_cons_of_isBlank hgap.1, hmore, List.append_assoc]⟩

/-- What an attempt is made on. -/
theorem exists_of_mem_skips {gap body : List Char} (hgap : ∀ c ∈ gap, isBlank c = true)
    (hhead : ∀ c ∈ body.head?, isBlank c = false) {cs : List Char}
    (hcs : cs ∈ skips (gap ++ body)) :
    ∃ gap', gap' <:+ gap ∧ cs = gap' ++ body := by
  induction gap with
  | nil =>
    rw [List.nil_append, skips_eq_self hhead, List.mem_singleton] at hcs
    exact ⟨[], List.suffix_rfl, hcs⟩
  | cons c gap ih =>
    rw [List.forall_mem_cons] at hgap
    rw [List.cons_append, skips_cons_of_isBlank hgap.1, List.mem_append, List.mem_singleton] at hcs
    rcases hcs with hcs | rfl
    · obtain ⟨gap', hsuffix, rfl⟩ := ih hgap.2 hcs
      exact ⟨gap', hsuffix.trans (List.suffix_cons c gap), rfl⟩
    · exact ⟨c :: gap, List.suffix_rfl, rfl⟩

theorem cutShortest_blanks_append {gap body : List Char} (hgap : ∀ c ∈ gap, isBlank c = true)
    (hhead : ∀ c ∈ body.head?, isBlank c = false)
    (hcut : cutShortest (afterGap inner?) body = none) (hbody : inner? body = none) :
    cutShortest (afterGap inner?) (gap ++ body) = none := by
  induction gap with
  | nil => exact hcut
  | cons c gap ih =>
    rw [List.forall_mem_cons] at hgap
    have hhere : afterGap inner? (gap ++ body) = none := by
      by_cases hnil : gap = []
      · rw [hnil]
        exact afterGap_of_head hhead
      · rw [afterGap_append ⟨hnil, hgap.2⟩ hhead, hbody]
    rw [List.cons_append, cutShortest, hhere, ih hgap.2]
    simp

theorem search_of_cut {gap body : List Char} (hgap : ∀ c ∈ gap, isBlank c = true)
    (hhead : ∀ c ∈ body.head?, isBlank c = false) {cut : List Char × α}
    (hcut : cutShortest (afterGap inner?) body = some cut) :
    (skips (gap ++ body)).findSome? (cutShortest (afterGap inner?)) = some cut := by
  obtain ⟨more, hmore⟩ := exists_skips_append hgap body
  rw [hmore, skips_eq_self hhead, List.singleton_append, List.findSome?_cons, hcut]

theorem search_of_none {gap body : List Char} (hgap : ∀ c ∈ gap, isBlank c = true)
    (hhead : ∀ c ∈ body.head?, isBlank c = false)
    (hcut : cutShortest (afterGap inner?) body = none) (hbody : inner? body = none) :
    (skips (gap ++ body)).findSome? (cutShortest (afterGap inner?)) = none := by
  refine List.findSome?_eq_none_iff.2 fun cs hcs => ?_
  obtain ⟨gap', hsuffix, rfl⟩ := exists_of_mem_skips hgap hhead hcs
  exact cutShortest_blanks_append (fun c hc => hgap c (hsuffix.subset hc)) hhead hcut hbody

/-- Where the keyword follows the blanks at once, the third attempt takes a blank for what was
sought. -/
theorem search_of_hollow {gap body : List Char} (hgap : ∀ c ∈ gap, isBlank c = true)
    (honeLine : '\n' ∉ gap) (hhead : ∀ c ∈ body.head?, isBlank c = false)
    (hcut : cutShortest (afterGap inner?) body = none) {ending : α}
    (hbody : inner? body = some ending) :
    (skips (gap ++ body)).findSome? (cutShortest (afterGap inner?)) =
      gap.dropLast.getLast?.map fun blank => ([blank], ending) := by
  have hone (c : Char) : cutShortest (afterGap inner?) (c :: body) = none := by
    rw [cutShortest, afterGap_of_head hhead, hcut]
    simp
  rcases List.eq_nil_or_concat' gap with rfl | ⟨gap, last, rfl⟩
  · rw [List.nil_append, skips_eq_self hhead, List.findSome?_cons, hcut]
    rfl
  · rw [List.forall_mem_append, List.forall_mem_singleton] at hgap
    rw [List.dropLast_concat]
    rcases List.eq_nil_or_concat' gap with rfl | ⟨front, blank, rfl⟩
    · rw [List.nil_append, List.singleton_append, skips_cons_of_isBlank hgap.2,
        skips_eq_self hhead, List.singleton_append, List.findSome?_cons, hcut]
      simp [hone]
    · rw [List.forall_mem_append, List.forall_mem_singleton] at hgap
      have hblank : blank ≠ '\n' := fun heq => honeLine (by simp [heq])
      have hlast : afterGap inner? (last :: body) = some ending := by
        rw [← List.singleton_append, afterGap_append ⟨by simp, by simpa using hgap.2⟩ hhead, hbody]
      have htwo : cutShortest (afterGap inner?) (blank :: last :: body) =
          some ([blank], ending) := by
        rw [cutShortest, if_neg hblank, hlast]
      obtain ⟨more, hmore⟩ := exists_skips_append hgap.1.1 (blank :: last :: body)
      have hskips : skips (front ++ [blank] ++ [last] ++ body) =
          body :: (last :: body) :: (blank :: last :: body) :: more := by
        simp only [List.append_assoc, hmore, skips_cons_of_isBlank hgap.1.2,
          skips_cons_of_isBlank hgap.2, skips_eq_self hhead, List.cons_append, List.nil_append]
      rw [hskips, List.findSome?_cons, hcut]
      simp [hone, htwo]

/-- **What a search finds.**  With the first attempt it finds a cut of what follows the blanks.  If
there is none, it may take the last blank but one for what was sought. -/
theorem search_eq {gap body : List Char} (hgap : ∀ c ∈ gap, isBlank c = true)
    (honeLine : '\n' ∉ gap) (hhead : ∀ c ∈ body.head?, isBlank c = false) :
    (skips (gap ++ body)).findSome? (cutShortest (afterGap inner?)) =
      (cutShortest (afterGap inner?) body).or
        ((inner? body).bind fun ending =>
          gap.dropLast.getLast?.map fun blank => ([blank], ending)) := by
  cases hcut : cutShortest (afterGap inner?) body with
  | some cut => exact search_of_cut hgap hhead hcut
  | none =>
    cases hbody : inner? body with
    | none => exact search_of_none hgap hhead hcut hbody
    | some ending => exact search_of_hollow hgap honeLine hhead hcut hbody

end

/-! ## The last bound -/

theorem getLast?_of_suffix {cs rest : List Char} (hlast : ∀ c ∈ cs.getLast?, isBlank c = false)
    (hrest : rest <:+ cs) : ∀ c ∈ rest.getLast?, isBlank c = false := by
  intro c hc
  obtain ⟨before, rfl⟩ := hrest
  by_cases hnil : rest = []
  · rw [hnil] at hc
    cases hc
  · rw [List.getLast?_append_of_ne_nil _ hnil] at hlast
    exact hlast c hc

/-- What follows blanks in a text that does not end with one. -/
theorem tight_of_afterBlanks? {cs rest : List Char}
    (hlast : ∀ c ∈ cs.getLast?, isBlank c = false) (hrest : afterBlanks? cs = some rest) :
    Tight rest ∧ rest ≠ [] := by
  obtain ⟨gap, hgap, rfl, hhead⟩ := afterBlanks?_eq_some_iff.1 hrest
  refine ⟨⟨hhead, getLast?_of_suffix hlast (List.suffix_append gap rest)⟩, ?_⟩
  rintro rfl
  rw [List.append_nil, List.getLast?_eq_some_getLast hgap.ne_nil] at hlast
  have hblank := hlast _ rfl
  rw [hgap.isBlank _ (List.getLast_mem hgap.ne_nil)] at hblank
  cases hblank

/-- In a text that does not end with a blank, the last bound is all that follows TO and the blanks
after it. -/
theorem toBound?_eq_afterGap {cs : List Char} (hlast : ∀ c ∈ cs.getLast?, isBlank c = false)
    (honeLine : '\n' ∉ cs) : toBound? cs = afterGap toWord? cs := by
  have hassoc : afterGap toWord? cs =
      ((afterBlanks? cs).bind (afterLetters? ['T', 'O'])).bind afterBlanks? := by
    rw [Option.bind_assoc]
    rfl
  rw [hassoc, toBound?]
  cases hmatch : (afterBlanks? cs).bind (afterLetters? ['T', 'O']) with
  | none => rfl
  | some rest =>
    have hsuffix : rest <:+ cs := by
      obtain ⟨skipped, hskipped, hletters⟩ := Option.bind_eq_some_iff.1 hmatch
      obtain ⟨gap, -, rfl, -⟩ := afterBlanks?_eq_some_iff.1 hskipped
      obtain ⟨word, -, rfl⟩ := afterLetters?_eq_some_iff.1 hletters
      exact (List.suffix_append word rest).trans (List.suffix_append gap _)
    simp only [Option.bind_some]
    cases rest with
    | nil => rfl
    | cons c rest =>
      cases hc : isBlank c with
      | false => simp [properSkips, afterBlanks?, hc]
      | true =>
        have hbound : afterBlanks? (c :: rest) = some (trimLeft rest) := if_pos hc
        obtain ⟨htight, hne⟩ :=
          tight_of_afterBlanks? (getLast?_of_suffix hlast hsuffix) hbound
        have honeLine' : '\n' ∉ trimLeft rest := by
          intro hmem
          have hrest : trimLeft rest <:+ rest := List.dropWhile_suffix isBlank
          exact honeLine (hsuffix.subset (List.mem_cons_of_mem c (hrest.subset hmem)))
        have hcut := cutShortest_blanks
          { text := String.ofList (trimLeft rest)
            ne_empty := by simpa using hne
            trimmed_eq := by rw [trimmed, String.toList_ofList, trim_eq_self htight]
            oneLine := by rwa [String.toList_ofList] }
        rw [String.toList_ofList] at hcut
        -- the first attempt skips all blanks
        obtain ⟨more, hmore⟩ := exists_skips_append
          (fun _ => List.mem_takeWhile_imp : ∀ d ∈ rest.takeWhile isBlank, isBlank d = true)
          (trimLeft rest)
        rw [trimLeft, List.takeWhile_append_dropWhile, ← trimLeft, skips_eq_self htight.1] at hmore
        rw [properSkips, if_pos hc, hmore, List.singleton_append, List.findSome?_cons, hcut, hbound]
        rfl

theorem tight_of_toWord? {cs bound : List Char} (hlast : ∀ c ∈ cs.getLast?, isBlank c = false)
    (hbound : toWord? cs = some bound) : Tight bound ∧ bound ≠ [] := by
  obtain ⟨rest, hrest, hblanks⟩ := Option.bind_eq_some_iff.1 hbound
  obtain ⟨word, -, rfl⟩ := afterLetters?_eq_some_iff.1 hrest
  exact tight_of_afterBlanks? (getLast?_of_suffix hlast (List.suffix_append word rest)) hblanks

theorem tight_of_afterGap_toWord? {cs bound : List Char}
    (hlast : ∀ c ∈ cs.getLast?, isBlank c = false) (hbound : afterGap toWord? cs = some bound) :
    Tight bound ∧ bound ≠ [] := by
  obtain ⟨rest, hrest, hword⟩ := Option.bind_eq_some_iff.1 hbound
  obtain ⟨gap, -, rfl, -⟩ := afterBlanks?_eq_some_iff.1 hrest
  exact tight_of_toWord? (getLast?_of_suffix hlast (List.suffix_append gap rest)) hword

theorem suffix_of_mem_skips {cs rest : List Char} (hrest : rest ∈ skips cs) : rest <:+ cs := by
  have hsplit : cs.takeWhile isBlank ++ trimLeft cs = cs := List.takeWhile_append_dropWhile ..
  rw [← hsplit] at hrest ⊢
  obtain ⟨gap, hgap, rfl⟩ := exists_of_mem_skips (fun _ => List.mem_takeWhile_imp)
    (head?_trimLeft cs) hrest
  obtain ⟨front, hfront⟩ := hgap
  exact ⟨front, by rw [← hfront, List.append_assoc]⟩

theorem search_toBound? {cs : List Char} (hlast : ∀ c ∈ cs.getLast?, isBlank c = false)
    (honeLine : '\n' ∉ cs) :
    (skips cs).findSome? (cutShortest toBound?) =
      (skips cs).findSome? (cutShortest (afterGap toWord?)) := by
  rw [← List.head?_filterMap, ← List.head?_filterMap]
  refine congrArg List.head? (List.filterMap_congr fun rest hrest => ?_)
  refine cutShortest_congr fun ending hending => ?_
  have hsuffix : ending <:+ cs := hending.trans (suffix_of_mem_skips hrest)
  exact toBound?_eq_afterGap (getLast?_of_suffix hlast hsuffix)
    fun hmem => honeLine (hsuffix.subset hmem)

theorem ends_toBound?_iff {cs : List Char} (hlast : ∀ c ∈ cs.getLast?, isBlank c = false)
    (honeLine : '\n' ∉ cs) : Ends toBound? cs ↔ Ends (afterGap toWord?) cs := by
  refine exists_congr fun rest => and_congr_right fun hrest => ?_
  rw [toBound?_eq_afterGap (getLast?_of_suffix hlast hrest)
    fun hmem => honeLine (hrest.subset hmem)]

/-! ## Headers -/

/-- What follows `DO name =`, and the name. -/
def loopBounds? (cs : List Char) : Option (List Char × List Char) :=
  ((afterLetters? ['D', 'O'] cs).bind afterBlanks?).bind named?

/-- The condition of an IF is found after all blanks, or else it is a blank. -/
theorem ifThen?_eq {cs gap body : List Char}
    (hparts : afterLetters? ['I', 'F'] cs = some (gap ++ body)) (hgap : IsGap gap)
    (honeLine : '\n' ∉ gap) (hhead : ∀ c ∈ body.head?, isBlank c = false) :
    ifThen? cs =
      ((cutShortest then? body).or ((thenWord? body).bind fun ending =>
        gap.tail.dropLast.getLast?.map fun blank => ([blank], ending))).map fun cut =>
          .ifThen (String.ofList cut.1) := by
  obtain ⟨c, gap, rfl⟩ := List.exists_cons_of_ne_nil hgap.ne_nil
  obtain ⟨hc, hblanks⟩ := List.forall_mem_cons.1 hgap.isBlank
  have honeLine' : '\n' ∉ gap := fun hmem => honeLine (List.mem_cons_of_mem c hmem)
  rw [ifThen?, hparts, then?_eq_afterGap, List.tail_cons, ← search_eq hblanks honeLine' hhead]
  simp only [List.cons_append, properSkips, hc, if_true]

/-- The first bound of a DO is found after all blanks, or else it is a blank. -/
theorem doLoop?_eq {cs name gap body : List Char}
    (hparts : loopBounds? cs = some (name, gap ++ body)) (hgap : ∀ c ∈ gap, isBlank c = true)
    (hlast : ∀ c ∈ (gap ++ body).getLast?, isBlank c = false) (honeLine : '\n' ∉ gap ++ body)
    (hhead : ∀ c ∈ body.head?, isBlank c = false) :
    doLoop? cs =
      ((cutShortest (afterGap toWord?) body).or ((toWord? body).bind fun ending =>
        gap.dropLast.getLast?.map fun blank => ([blank], ending))).map fun cut =>
          .doLoop (String.ofList name) (String.ofList cut.1) (String.ofList cut.2) := by
  have honeLine' : '\n' ∉ gap := fun hmem => honeLine (List.mem_append_left body hmem)
  rw [doLoop?, ← loopBounds?, hparts, ← search_eq hgap honeLine' hhead,
    ← search_toBound? hlast honeLine]

theorem exists_of_ifThen? {cs : List Char} {statement : Statement}
    (hif : ifThen? cs = some statement) :
    ∃ gap body, afterLetters? ['I', 'F'] cs = some (gap ++ body) ∧ IsGap gap ∧
      ∀ c ∈ body.head?, isBlank c = false := by
  unfold ifThen? at hif
  split at hif
  · cases hif
  · next rest hrest =>
    cases hblanks : afterBlanks? rest with
    | some body =>
      obtain ⟨gap, hgap, rfl, hhead⟩ := afterBlanks?_eq_some_iff.1 hblanks
      exact ⟨gap, body, hrest, hgap, hhead⟩
    | none =>
      cases rest with
      | nil => cases hif
      | cons c rest =>
        have hc : ¬isBlank c = true := by simpa [afterBlanks?] using hblanks
        rw [properSkips, if_neg hc] at hif
        cases hif

/-- What the name of a loop and the equals sign after it look like. -/
theorem exists_of_named? {cs name rest : List Char} (hnamed : named? cs = some (name, rest)) :
    name ≠ [] ∧ name = wordOf cs ∧ ∃ spacing, (∀ c ∈ spacing, isBlank c = true) ∧
      cs = name ++ (spacing ++ '=' :: rest) := by
  unfold named? at hnamed
  split at hnamed
  · cases hnamed
  · next word rest hsign hword =>
    cases hnamed
    refine ⟨hword, rfl, (afterWord cs).takeWhile isBlank, fun _ => List.mem_takeWhile_imp, ?_⟩
    have hspacing : afterWord cs = (afterWord cs).takeWhile isBlank ++ trimLeft (afterWord cs) :=
      (List.takeWhile_append_dropWhile ..).symm
    rw [← hsign, ← hspacing, wordOf_append_afterWord]
  · cases hnamed

/-- What the beginning of a loop looks like. -/
theorem exists_of_loopBounds? {cs name rest : List Char}
    (hparts : loopBounds? cs = some (name, rest)) :
    ∃ word margin spacing, Spells ['D', 'O'] word ∧ IsGap margin ∧ name ≠ [] ∧
      (∀ c ∈ name, isWord c = true) ∧ (∀ c ∈ spacing, isBlank c = true) ∧
      cs = word ++ (margin ++ (name ++ (spacing ++ '=' :: rest))) := by
  obtain ⟨afterMargin, hmargin, hnamed⟩ := Option.bind_eq_some_iff.1 hparts
  obtain ⟨afterWord, hletters, hblanks⟩ := Option.bind_eq_some_iff.1 hmargin
  obtain ⟨word, hword, rfl⟩ := afterLetters?_eq_some_iff.1 hletters
  obtain ⟨margin, hgap, rfl, -⟩ := afterBlanks?_eq_some_iff.1 hblanks
  obtain ⟨hne, hname, spacing, hspacing, hsplit⟩ := exists_of_named? hnamed
  refine ⟨word, margin, spacing, hword, hgap, hne, ?_, hspacing, by rw [← hsplit]⟩
  rw [hname]
  exact fun _ => List.mem_takeWhile_imp

theorem suffix_of_loopBounds? {cs name rest : List Char}
    (hparts : loopBounds? cs = some (name, rest)) : rest <:+ cs := by
  obtain ⟨word, margin, spacing, -, -, -, -, -, rfl⟩ := exists_of_loopBounds? hparts
  exact ⟨word ++ (margin ++ (name ++ (spacing ++ ['=']))), by simp⟩

theorem exists_of_doLoop? {cs : List Char} {statement : Statement}
    (hdo : doLoop? cs = some statement) :
    ∃ name gap body, loopBounds? cs = some (name, gap ++ body) ∧
      (∀ c ∈ gap, isBlank c = true) ∧ ∀ c ∈ body.head?, isBlank c = false := by
  unfold doLoop? at hdo
  split at hdo
  · cases hdo
  · next name rest hrest =>
    refine ⟨name, rest.takeWhile isBlank, trimLeft rest, ?_, fun _ => List.mem_takeWhile_imp,
      head?_trimLeft rest⟩
    rw [trimLeft, List.takeWhile_append_dropWhile]
    exact hrest

/-! ## Hollow headers -/

/-- IF, blanks and THEN, and no THEN after that. -/
structure HollowIf (line : String) (gap body : List Char) : Prop where
  leadingWord_eq : leadingWord line = "IF"
  parts : afterLetters? ['I', 'F'] line.toList = some (gap ++ body)
  isGap : IsGap gap
  keyword : thenWord? body = some ()
  last : ¬Ends then? body

/-- DO with a name and an equals sign, blanks and TO, and no TO after that. -/
structure HollowDo (line : String) (gap body : List Char) : Prop where
  leadingWord_eq : leadingWord line = "DO"
  parts : ∃ name, loopBounds? line.toList = some (name, gap ++ body)
  isBlank : ∀ c ∈ gap, isBlank c = true
  keyword : (toWord? body).isSome = true
  last : ¬Ends toBound? body

/-- A text that a keyword is found at does not start with a blank, or with an equals sign. -/
theorem isWord_of_afterLetters? {letter : Char} (hletter : letter.isUpper = true)
    {letters cs rest : List Char} (hrest : afterLetters? (letter :: letters) cs = some rest) :
    ∀ c ∈ cs.head?, isWord c = true := by
  intro c hc
  obtain ⟨word, hword, rfl⟩ := afterLetters?_eq_some_iff.1 hrest
  obtain ⟨d, word, hsame, -, rfl⟩ := List.forall₂_cons_left_iff.1 hword
  cases hc
  exact isWord_of_sameLetter hletter hsame

theorem isWord_of_thenWord? {cs : List Char} (hthen : thenWord? cs = some ()) :
    ∀ c ∈ cs.head?, isWord c = true := by
  cases hrest : afterLetters? ['T', 'H', 'E', 'N'] cs with
  | none =>
    rw [thenWord?, hrest] at hthen
    cases hthen
  | some rest => exact isWord_of_afterLetters? (by decide) hrest

theorem isWord_of_toWord? {cs : List Char} (hto : (toWord? cs).isSome = true) :
    ∀ c ∈ cs.head?, isWord c = true := by
  obtain ⟨bound, hbound⟩ := Option.isSome_iff_exists.1 hto
  obtain ⟨rest, hrest, -⟩ := Option.bind_eq_some_iff.1 hbound
  exact isWord_of_afterLetters? (by decide) hrest

/-- A line whose first word is followed by blanks and another word is no assignment. -/
theorem assign?_eq_none_of_isWord {word gap rest : List Char}
    (hword : ∀ c ∈ word, isWord c = true) (hgap : IsGap gap)
    (hrest : ∀ c ∈ rest.head?, isWord c = true) : assign? (word ++ (gap ++ rest)) = none := by
  refine assign?_eq_none hword ?_ ?_
  · intro c hc
    rw [List.head?_append_of_ne_nil _ hgap.ne_nil] at hc
    exact isWord_eq_false_of_isBlank (hgap.isBlank c (List.mem_of_mem_head? hc))
  · rw [trimLeft_append_of_blanks hgap.isBlank,
      trimLeft_eq_self fun c hc => isBlank_eq_false_of_isWord (hrest c hc)]
    intro hsign
    exact absurd (hrest _ hsign) (by decide)

/-- A text that is not empty and has no blank at either end. -/
structure IsSolid (text : String) : Prop where
  trimmed_eq : trimmed text = text
  ne_empty : text ≠ ""

theorem isSolid_ofList {cs : List Char} (hcs : Tight cs ∧ cs ≠ []) :
    IsSolid (String.ofList cs) := by
  constructor
  · rw [trimmed, String.toList_ofList, trim_eq_self hcs.1]
  · simpa using hcs.2

/-- The statement on a line that starts with IF or DO. -/
theorem ofLine_of_blockOpener {line : String} (htight : trim line.toList = line.toList)
    (hword : leadingWord line ∈ blockOpeners) :
    ofLine line = (assign? line.toList).getD
      (if leadingWord line = "IF" then (ifThen? line.toList).getD (.unknown line)
      else (doLoop? line.toList).getD (.unknown line)) := by
  have hmark (mark : Char) (hmark : (mark.isAlpha || mark == '_') = false) (rest : List Char) :
      (mark :: rest).isPrefixOf line.toList = false := by
    rw [Bool.eq_false_iff]
    intro hstart
    rw [leadingWord_of_mark mark hmark htight hstart] at hword
    exact absurd hword (by decide)
  simp only [blockOpeners, List.mem_cons, List.not_mem_nil, or_false] at hword
  rw [ofLine, lineComment, hmark '-' (by decide), blockComment, hmark '/' (by decide)]
  cases assign? line.toList with
  | some statement => rcases hword with hword | hword <;> simp [hword]
  | none => rcases hword with hword | hword <;> simp [hword]

theorem exists_of_assign? {cs : List Char} {statement : Statement}
    (hassign : assign? cs = some statement) :
    ∃ name expression, statement = .assign name expression := by
  unfold assign? at hassign
  split at hassign
  · cases hassign
  · obtain ⟨body, -, rfl⟩ := Option.map_eq_some_iff.1 hassign
    exact ⟨_, _, rfl⟩

/-- A line whose statement is neither an assignment nor unknown has it from the last attempt. -/
theorem eq_some_of_getD {cs : List Char} {line : String} {found : Option Statement}
    {statement : Statement} (hline : (assign? cs).getD (found.getD (.unknown line)) = statement)
    (hassign : ∀ name expression, statement ≠ .assign name expression)
    (hunknown : ∀ text, statement ≠ .unknown text) : found = some statement := by
  cases hfirst : assign? cs with
  | some other =>
    obtain ⟨name, expression, rfl⟩ := exists_of_assign? hfirst
    rw [hfirst] at hline
    exact absurd hline.symm (hassign name expression)
  | none =>
    rw [hfirst, Option.getD_none] at hline
    cases found with
    | none => exact absurd hline.symm (hunknown line)
    | some other => exact congrArg some hline

section

variable {line : String} (htight : Tight line.toList)
include htight

theorem ifThen?_of_ofLine {condition : String} (hline : ofLine line = .ifThen condition) :
    leadingWord line = "IF" ∧ ifThen? line.toList = some (.ifThen condition) := by
  have hkind := ofWord_ofLine (trim_eq_self htight)
  rw [hline] at hkind
  cases hkind with
  | ifThen _ hword =>
    have hopener : leadingWord line ∈ blockOpeners := by simp [hword, blockOpeners]
    rw [ofLine_of_blockOpener (trim_eq_self htight) hopener, if_pos hword] at hline
    refine ⟨hword, eq_some_of_getD hline ?_ ?_⟩
    · intro _ _ heq
      cases heq
    · intro _ heq
      cases heq

theorem doLoop?_of_ofLine {name first last : String}
    (hline : ofLine line = .doLoop name first last) :
    leadingWord line = "DO" ∧ doLoop? line.toList = some (.doLoop name first last) := by
  have hkind := ofWord_ofLine (trim_eq_self htight)
  rw [hline] at hkind
  cases hkind with
  | doLoop _ _ _ hword =>
    have hopener : leadingWord line ∈ blockOpeners := by simp [hword, blockOpeners]
    rw [ofLine_of_blockOpener (trim_eq_self htight) hopener, if_neg (by simp [hword])] at hline
    refine ⟨hword, eq_some_of_getD hline ?_ ?_⟩
    · intro _ _ heq
      cases heq
    · intro _ heq
      cases heq

variable (honeLine : '\n' ∉ line.toList)
include honeLine

/-- The condition of an IF is solid, unless the header is hollow. -/
theorem isSolid_condition {condition : String} (hline : ofLine line = .ifThen condition) :
    IsSolid condition ∨ ∃ gap body, HollowIf line gap body ∧
      ∃ blank ∈ gap, condition = String.ofList [blank] := by
  obtain ⟨hword, hif⟩ := ifThen?_of_ofLine htight hline
  obtain ⟨gap, body, hparts, hgap, hhead⟩ := exists_of_ifThen? hif
  have hsuffix : gap ++ body <:+ line.toList := by
    obtain ⟨word, -, hsplit⟩ := afterLetters?_eq_some_iff.1 hparts
    exact ⟨word, hsplit.symm⟩
  have hplain : '\n' ∉ gap ++ body := fun hmem => honeLine (hsuffix.subset hmem)
  rw [List.mem_append, not_or] at hplain
  rw [ifThen?_eq hparts hgap hplain.1 hhead, Option.map_eq_some_iff] at hif
  obtain ⟨cut, hcut, hcondition⟩ := hif
  cases hcondition
  rcases Option.or_eq_some_iff.1 hcut with hfirst | ⟨hfirst, hhollow⟩
  · rw [then?_eq_afterGap] at hfirst
    exact .inl (isSolid_ofList (tight_of_cutShortest hhead hfirst))
  · obtain ⟨ending, hending, htaken⟩ := Option.bind_eq_some_iff.1 hhollow
    obtain ⟨blank, hlast, rfl⟩ := Option.map_eq_some_iff.1 htaken
    have hends : ¬Ends then? body := by
      rw [then?_eq_afterGap] at hfirst ⊢
      rw [← isSome_cutShortest_afterGap_iff hhead hplain.2, hfirst]
      exact Bool.false_ne_true
    refine .inr ⟨gap, body, ⟨hword, hparts, hgap, hending, hends⟩, blank, ?_, rfl⟩
    exact List.mem_of_mem_tail (List.mem_of_mem_dropLast (List.mem_of_getLast? hlast))

/-- The last bound of a DO is solid, and so is the first one unless the header is hollow. -/
theorem isSolid_bounds {name first last : String} (hline : ofLine line = .doLoop name first last) :
    IsSolid last ∧ (IsSolid first ∨ ∃ gap body, HollowDo line gap body ∧
      ∃ blank ∈ gap, first = String.ofList [blank]) := by
  obtain ⟨hword, hdo⟩ := doLoop?_of_ofLine htight hline
  obtain ⟨name', gap, body, hparts, hgap, hhead⟩ := exists_of_doLoop? hdo
  have hsuffix := suffix_of_loopBounds? hparts
  have hlast := getLast?_of_suffix htight.2 hsuffix
  have hbodyLast := getLast?_of_suffix hlast (List.suffix_append gap body)
  have hplain : '\n' ∉ gap ++ body := fun hmem => honeLine (hsuffix.subset hmem)
  rw [doLoop?_eq hparts hgap hlast hplain hhead, Option.map_eq_some_iff] at hdo
  obtain ⟨cut, hcut, hbounds⟩ := hdo
  cases hbounds
  rcases Option.or_eq_some_iff.1 hcut with hfirst | ⟨hfirst, hhollow⟩
  · obtain ⟨rest, rfl, -, hending, -⟩ := exists_of_cutShortest hfirst
    have hrest := getLast?_of_suffix hbodyLast (List.suffix_append cut.1 rest)
    exact ⟨isSolid_ofList (tight_of_afterGap_toWord? hrest hending),
      .inl (isSolid_ofList (tight_of_cutShortest hhead hfirst))⟩
  · obtain ⟨ending, hending, htaken⟩ := Option.bind_eq_some_iff.1 hhollow
    obtain ⟨blank, hblank, rfl⟩ := Option.map_eq_some_iff.1 htaken
    have hbodyLine : '\n' ∉ body := fun hmem => hplain (List.mem_append_right gap hmem)
    have hends : ¬Ends toBound? body := by
      rw [ends_toBound?_iff hbodyLast hbodyLine,
        ← isSome_cutShortest_afterGap_iff hhead hbodyLine, hfirst]
      exact Bool.false_ne_true
    refine ⟨isSolid_ofList (tight_of_toWord? hbodyLast hending), .inr ⟨gap, body,
      ⟨hword, ⟨name', hparts⟩, hgap, Option.isSome_of_mem hending, hends⟩, blank, ?_, rfl⟩⟩
    exact List.mem_of_mem_dropLast (List.mem_of_getLast? hblank)

/-- A hollow IF has a blank for its condition if there are three blanks, and else it is unknown. -/
theorem ofLine_hollowIf {gap body : List Char} (hhollow : HollowIf line gap body) :
    ofLine line = (gap.tail.dropLast.getLast?.map fun blank =>
      .ifThen (String.ofList [blank])).getD (.unknown line) := by
  obtain ⟨hword, hparts, hgap, hkeyword, hends⟩ := hhollow
  have hbody := isWord_of_thenWord? hkeyword
  have hhead (c : Char) (hc : c ∈ body.head?) : isBlank c = false :=
    isBlank_eq_false_of_isWord (hbody c hc)
  obtain ⟨word, hspells, hsplit⟩ := afterLetters?_eq_some_iff.1 hparts
  have hassign : assign? line.toList = none := by
    rw [hsplit]
    exact assign?_eq_none_of_isWord (hspells.isWord (Keyword.isUpper_letters .ifBlock)) hgap hbody
  rw [hsplit, List.mem_append, List.mem_append, not_or, not_or] at honeLine
  have hcut : cutShortest then? body = none := by
    rw [then?_eq_afterGap] at hends ⊢
    rwa [← isSome_cutShortest_afterGap_iff hhead honeLine.2.2, Bool.not_eq_true,
      Option.isSome_eq_false_iff, Option.isNone_iff_eq_none] at hends
  have hopener : leadingWord line ∈ blockOpeners := by simp [hword, blockOpeners]
  rw [ofLine_of_blockOpener (trim_eq_self htight) hopener, hassign, if_pos hword,
    ifThen?_eq hparts hgap honeLine.2.1 hhead, hcut, hkeyword, Option.none_or, Option.bind_some,
    Option.map_map, Option.getD_none]
  rfl

/-- A hollow DO has a blank for its first bound if there are two blanks, and else it is unknown. -/
theorem ofLine_hollowDo {gap body : List Char} (hhollow : HollowDo line gap body) :
    ∃ name last, ofLine line = (gap.dropLast.getLast?.map fun blank =>
      .doLoop name (String.ofList [blank]) last).getD (.unknown line) := by
  obtain ⟨hword, ⟨name, hparts⟩, hgap, hkeyword, hends⟩ := hhollow
  have hbody := isWord_of_toWord? hkeyword
  have hhead (c : Char) (hc : c ∈ body.head?) : isBlank c = false :=
    isBlank_eq_false_of_isWord (hbody c hc)
  obtain ⟨word, margin, spacing, hspells, hmargin, hne, hname, -, hsplit⟩ :=
    exists_of_loopBounds? hparts
  have hassign : assign? line.toList = none := by
    rw [hsplit]
    refine assign?_eq_none_of_isWord (hspells.isWord (Keyword.isUpper_letters .doBlock)) hmargin ?_
    intro c hc
    rw [List.head?_append_of_ne_nil _ hne] at hc
    exact hname c (List.mem_of_mem_head? hc)
  have hsuffix := suffix_of_loopBounds? hparts
  have hlast := getLast?_of_suffix htight.2 hsuffix
  have hplain : '\n' ∉ gap ++ body := fun hmem => honeLine (hsuffix.subset hmem)
  have hbodyLine : '\n' ∉ body := fun hmem => hplain (List.mem_append_right gap hmem)
  have hcut : cutShortest (afterGap toWord?) body = none := by
    rwa [ends_toBound?_iff (getLast?_of_suffix hlast (List.suffix_append gap body)) hbodyLine,
      ← isSome_cutShortest_afterGap_iff hhead hbodyLine, Bool.not_eq_true,
      Option.isSome_eq_false_iff, Option.isNone_iff_eq_none] at hends
  obtain ⟨bound, hbound⟩ := Option.isSome_iff_exists.1 hkeyword
  have hopener : leadingWord line ∈ blockOpeners := by simp [hword, blockOpeners]
  refine ⟨String.ofList name, String.ofList bound, ?_⟩
  rw [ofLine_of_blockOpener (trim_eq_self htight) hopener, hassign, if_neg (by simp [hword]),
    doLoop?_eq hparts hgap hlast hplain hhead, hcut, hbound, Option.none_or, Option.bind_some,
    Option.map_map, Option.getD_none]
  rfl

end

end DeckScript.Script
