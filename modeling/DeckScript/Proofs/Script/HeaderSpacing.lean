import DeckScript.Proofs.Script.Directive
import DeckScript.Proofs.Script.Headers

/-!
# Lines with longer and shorter gaps

What a line is recognised as does not depend on how long its runs of blanks are, hollow
headers aside.

All that is looked for in a line are keywords, words, blanks and a few other characters,
and these are found in the squeezed line where they are in the line itself.  The searches
for THEN and TO are no exception, as long as the header is not hollow.
-/

namespace DeckScript.Script

open Text Statement

/-! ## Steps that do not depend on the lengths of gaps -/

theorem afterLetters?_squeeze {letters : List Char} (hletters : ∀ c ∈ letters, c.isUpper = true)
    (cs : List Char) :
    afterLetters? letters (squeeze cs) = (afterLetters? letters cs).map squeeze := by
  induction letters generalizing cs with
  | nil => rfl
  | cons letter letters ih =>
    rw [List.forall_mem_cons] at hletters
    cases cs with
    | nil => rfl
    | cons c cs =>
      cases hc : isBlank c with
      | true =>
        have hnot {d : Char} (hd : isBlank d = true) : ¬sameLetter letter d = true := by
          intro hsame
          have hword := isWord_of_sameLetter hletters.1 hsame
          rw [isWord_eq_false_of_isBlank hd] at hword
          cases hword
        rw [squeeze_cons_of_isBlank hc, afterLetters?, afterLetters?, if_neg (hnot hc),
          if_neg (hnot isBlank_space)]
        rfl
      | false =>
        rw [squeeze_cons_of_not_isBlank hc, afterLetters?, afterLetters?]
        split
        · exact ih hletters.2 cs
        · rfl

theorem afterBlanks?_squeeze (cs : List Char) :
    afterBlanks? (squeeze cs) = (afterBlanks? cs).map squeeze := by
  cases cs with
  | nil => rfl
  | cons c cs =>
    cases hc : isBlank c with
    | true =>
      have htrim : trimLeft (trimLeft cs) = trimLeft cs := trimLeft_eq_self (head?_trimLeft cs)
      rw [squeeze_cons_of_isBlank hc, afterBlanks?, if_pos isBlank_space, trimLeft_squeeze, htrim,
        afterBlanks?, if_pos hc]
      rfl
    | false =>
      have hnot : ¬isBlank c = true := by simp [hc]
      rw [squeeze_cons_of_not_isBlank hc, afterBlanks?, if_neg hnot, afterBlanks?, if_neg hnot]
      rfl

theorem afterKeyword?_squeeze {letters : List Char} (hletters : ∀ c ∈ letters, c.isUpper = true)
    (cs : List Char) :
    (afterLetters? letters (squeeze cs)).bind afterBlanks? =
      ((afterLetters? letters cs).bind afterBlanks?).map squeeze := by
  rw [afterLetters?_squeeze hletters]
  cases afterLetters? letters cs with
  | none => rfl
  | some rest => exact afterBlanks?_squeeze rest

theorem named?_squeeze (cs : List Char) :
    named? (squeeze cs) = (named? cs).map fun named => (named.1, squeeze named.2) := by
  rw [named?, named?, wordOf_squeeze, afterWord_squeeze, trimLeft_squeeze]
  have hhead := head?_trimLeft (afterWord cs)
  cases hword : wordOf cs with
  | nil => rfl
  | cons c word =>
    cases hrest : trimLeft (afterWord cs) with
    | nil => rfl
    | cons d rest =>
      rw [hrest] at hhead
      rw [squeeze_cons_of_not_isBlank (hhead d rfl)]
      by_cases hd : d = '='
      · subst hd
        rfl
      · simp [hd]

theorem loopBounds?_squeeze (cs : List Char) :
    loopBounds? (squeeze cs) = (loopBounds? cs).map fun named => (named.1, squeeze named.2) := by
  rw [loopBounds?, loopBounds?, afterKeyword?_squeeze (List.all_eq_true.1 (by decide))]
  cases (afterLetters? ['D', 'O'] cs).bind afterBlanks? with
  | none => rfl
  | some rest => exact named?_squeeze rest

theorem thenWord?_squeeze (cs : List Char) : thenWord? (squeeze cs) = thenWord? cs := by
  rw [thenWord?, thenWord?, afterLetters?_squeeze (List.all_eq_true.1 (by decide))]
  cases afterLetters? ['T', 'H', 'E', 'N'] cs with
  | none => rfl
  | some rest =>
    cases rest with
    | nil => rfl
    | cons c rest =>
      cases hc : isBlank c with
      | true =>
        rw [Option.map_some, squeeze_cons_of_isBlank hc]
        simp [isWord_eq_false_of_isBlank hc]
      | false => rw [Option.map_some, squeeze_cons_of_not_isBlank hc]

theorem toWord?_squeeze (cs : List Char) : toWord? (squeeze cs) = (toWord? cs).map squeeze :=
  afterKeyword?_squeeze (Keyword.isUpper_letters .toBound) cs

section

variable {α : Type} {inner? : List Char → Option α}
  (hinner : ∀ cs, (inner? (squeeze cs)).isSome = (inner? cs).isSome)
include hinner

theorem isSome_afterGap_squeeze (cs : List Char) :
    (afterGap inner? (squeeze cs)).isSome = (afterGap inner? cs).isSome := by
  rw [afterGap, afterGap, afterBlanks?_squeeze]
  cases afterBlanks? cs with
  | none => rfl
  | some rest => exact hinner rest

/-- What is found somewhere in a text is found in the squeezed text. -/
theorem ends_squeeze (cs : List Char) :
    Ends (afterGap inner?) (squeeze cs) ↔ Ends (afterGap inner?) cs := by
  induction cs with
  | nil => exact Iff.rfl
  | cons c cs ih =>
    have hhere := isSome_afterGap_squeeze hinner (c :: cs)
    by_cases hgap : isBlank c = true ∧ cs.head?.any isBlank = true
    · -- the run of blanks goes on, and one blank less makes no difference
      have hsame : squeeze (c :: cs) = squeeze cs := by
        rw [squeeze, if_pos hgap.1, if_pos hgap.2]
      rw [hsame] at hhere ⊢
      rw [ih, ends_cons_iff, ← hhere, isSome_afterGap_squeeze hinner]
      refine (or_iff_right_of_imp fun hsome => ?_).symm
      exact ⟨cs, List.suffix_rfl, hsome⟩
    · obtain ⟨d, hd⟩ : ∃ d, squeeze (c :: cs) = d :: squeeze cs := by
        rw [squeeze]
        split
        · next hc => exact ⟨' ', if_neg fun hhead => hgap ⟨hc, hhead⟩⟩
        · exact ⟨c, rfl⟩
      rw [hd] at hhere ⊢
      rw [ends_cons_iff, ends_cons_iff, hhere, ih]

end

/-! ## Headers that are not hollow -/

/-- What follows IF and blanks. -/
def ifBody? (cs : List Char) : Option (List Char) :=
  (afterLetters? ['I', 'F'] cs).bind afterBlanks?

/-- What follows `DO name =` and blanks. -/
def doBody? (cs : List Char) : Option (List Char) :=
  (loopBounds? cs).map fun named => trimLeft named.2

theorem ifBody?_squeeze (cs : List Char) : ifBody? (squeeze cs) = (ifBody? cs).map squeeze :=
  afterKeyword?_squeeze (Keyword.isUpper_letters .ifBlock) cs

theorem doBody?_squeeze (cs : List Char) : doBody? (squeeze cs) = (doBody? cs).map squeeze := by
  rw [doBody?, doBody?, loopBounds?_squeeze, Option.map_map, Option.map_map]
  exact Option.map_congr fun named _ => trimLeft_squeeze named.2

section

variable {α : Type} (inner? : List Char → Option α)

/-- The keyword stands somewhere in the body. -/
def Complete (body? : Option (List Char)) : Prop :=
  ∃ body ∈ body?, Ends (afterGap inner?) body

/-- The keyword stands at the start of the body, and not again. -/
def Hollow (body? : Option (List Char)) : Prop :=
  ∃ body ∈ body?, (inner? body).isSome = true ∧ ¬Ends (afterGap inner?) body

variable {inner?} (hinner : ∀ cs, (inner? (squeeze cs)).isSome = (inner? cs).isSome)
include hinner

theorem complete_map_squeeze (body? : Option (List Char)) :
    Complete inner? (body?.map squeeze) ↔ Complete inner? body? := by
  cases body? with
  | none => simp [Complete]
  | some body => simp [Complete, ends_squeeze hinner]

theorem hollow_map_squeeze (body? : Option (List Char)) :
    Hollow inner? (body?.map squeeze) ↔ Hollow inner? body? := by
  cases body? with
  | none => simp [Hollow]
  | some body => simp [Hollow, ends_squeeze hinner, hinner]

end

theorem isSome_then_squeeze (cs : List Char) :
    (thenWord? (squeeze cs)).isSome = (thenWord? cs).isSome := by
  rw [thenWord?_squeeze]

theorem isSome_to_squeeze (cs : List Char) :
    (toWord? (squeeze cs)).isSome = (toWord? cs).isSome := by
  rw [toWord?_squeeze, Option.isSome_map]

/-- If the keyword is not only at the start, the first attempt of a search decides. -/
theorem isSome_search_iff {α : Type} {inner? : List Char → Option α} {gap body : List Char}
    (hhead : ∀ c ∈ body.head?, isBlank c = false) (honeLine : '\n' ∉ body)
    (hfull : (inner? body).isSome = true → Ends (afterGap inner?) body) :
    ((cutShortest (afterGap inner?) body).or ((inner? body).bind fun ending =>
      gap.dropLast.getLast?.map fun blank => ([blank], ending))).isSome = true ↔
      Ends (afterGap inner?) body := by
  rw [Option.isSome_or, Bool.or_eq_true, isSome_cutShortest_afterGap_iff hhead honeLine]
  refine or_iff_left_of_imp fun hlate => hfull ?_
  cases hbody : inner? body with
  | none =>
    rw [hbody] at hlate
    cases hlate
  | some ending => rfl

theorem isSome_ifThen?_iff {cs : List Char} (honeLine : '\n' ∉ cs)
    (hfull : ¬Hollow thenWord? (ifBody? cs)) :
    (ifThen? cs).isSome = true ↔ Complete thenWord? (ifBody? cs) := by
  have hparts {gap body : List Char} (hparts : afterLetters? ['I', 'F'] cs = some (gap ++ body))
      (hgap : IsGap gap) (hhead : ∀ c ∈ body.head?, isBlank c = false) :
      (ifThen? cs).isSome = true ↔ Ends (afterGap thenWord?) body := by
    obtain ⟨word, -, rfl⟩ := afterLetters?_eq_some_iff.1 hparts
    rw [List.mem_append, List.mem_append, not_or, not_or] at honeLine
    have hbody : ifBody? (word ++ (gap ++ body)) = some body := by
      rw [ifBody?, hparts, Option.bind_some, afterBlanks?_append hgap hhead]
    rw [ifThen?_eq hparts hgap honeLine.2.1 hhead, Option.isSome_map, then?_eq_afterGap]
    refine isSome_search_iff hhead honeLine.2.2 fun hkeyword => ?_
    by_contra hends
    exact hfull ⟨body, hbody, hkeyword, hends⟩
  constructor
  · intro hsome
    obtain ⟨statement, hif⟩ := Option.isSome_iff_exists.1 hsome
    obtain ⟨gap, body, hletters, hgap, hhead⟩ := exists_of_ifThen? hif
    refine ⟨body, ?_, (hparts hletters hgap hhead).1 hsome⟩
    rw [ifBody?, hletters, Option.bind_some, afterBlanks?_append hgap hhead]
    rfl
  · rintro ⟨body, hbody, hends⟩
    obtain ⟨rest, hletters, hblanks⟩ := Option.bind_eq_some_iff.1 hbody
    obtain ⟨gap, hgap, rfl, hhead⟩ := afterBlanks?_eq_some_iff.1 hblanks
    exact (hparts hletters hgap hhead).2 hends

theorem isSome_doLoop?_iff {cs : List Char} (hlast : ∀ c ∈ cs.getLast?, isBlank c = false)
    (honeLine : '\n' ∉ cs) (hfull : ¬Hollow toWord? (doBody? cs)) :
    (doLoop? cs).isSome = true ↔ Complete toWord? (doBody? cs) := by
  cases hbounds : loopBounds? cs with
  | none =>
    have hbody : doBody? cs = none := by rw [doBody?, hbounds]; rfl
    rw [doLoop?, ← loopBounds?, hbounds, hbody]
    simp [Complete]
  | some named =>
    obtain ⟨name, rest⟩ := named
    have hbody : doBody? cs = some (trimLeft rest) := by rw [doBody?, hbounds]; rfl
    have hsplit : rest = rest.takeWhile isBlank ++ trimLeft rest :=
      (List.takeWhile_append_dropWhile ..).symm
    rw [hsplit] at hbounds
    have hsuffix := suffix_of_loopBounds? hbounds
    have hplain : '\n' ∉ rest.takeWhile isBlank ++ trimLeft rest :=
      fun hmem => honeLine (hsuffix.subset hmem)
    rw [doLoop?_eq hbounds (fun _ => List.mem_takeWhile_imp) (getLast?_of_suffix hlast hsuffix)
      hplain (head?_trimLeft rest), Option.isSome_map, hbody,
      isSome_search_iff (head?_trimLeft rest) fun hmem => hplain (List.mem_append_right _ hmem)]
    · simp [Complete]
    · intro hkeyword
      by_contra hends
      exact hfull ⟨trimLeft rest, hbody, hkeyword, hends⟩

theorem exists_hollowIf {line : String} (hword : leadingWord line = "IF")
    (hhollow : Hollow thenWord? (ifBody? line.toList)) :
    ∃ gap body, HollowIf line gap body := by
  obtain ⟨body, hbody, hkeyword, hends⟩ := hhollow
  obtain ⟨rest, hletters, hblanks⟩ := Option.bind_eq_some_iff.1 hbody
  obtain ⟨gap, hgap, rfl, -⟩ := afterBlanks?_eq_some_iff.1 hblanks
  obtain ⟨⟨⟩, hthen⟩ := Option.isSome_iff_exists.1 hkeyword
  rw [← then?_eq_afterGap] at hends
  exact ⟨gap, body, hword, hletters, hgap, hthen, hends⟩

theorem exists_hollowDo {line : String} (hword : leadingWord line = "DO")
    (htight : Tight line.toList) (honeLine : '\n' ∉ line.toList)
    (hhollow : Hollow toWord? (doBody? line.toList)) :
    ∃ gap body, HollowDo line gap body := by
  obtain ⟨body, hbody, hkeyword, hends⟩ := hhollow
  obtain ⟨⟨name, rest⟩, hbounds, rfl⟩ := Option.map_eq_some_iff.1 hbody
  have hsuffix : trimLeft rest <:+ line.toList :=
    (List.dropWhile_suffix isBlank).trans (suffix_of_loopBounds? hbounds)
  rw [← ends_toBound?_iff (getLast?_of_suffix htight.2 hsuffix)
    fun hmem => honeLine (hsuffix.subset hmem)] at hends
  refine ⟨rest.takeWhile isBlank, trimLeft rest, hword, ⟨name, ?_⟩,
    fun _ => List.mem_takeWhile_imp, hkeyword, hends⟩
  rw [trimLeft, List.takeWhile_append_dropWhile]
  exact hbounds

/-! ## Kinds of statements -/

/-- What a statement is, apart from the texts in it. -/
inductive Statement.Kind where
  | say
  | address
  | assign
  | ifThen
  | doLoop
  | endBlock
  | comment
  | unknown
deriving DecidableEq

/-- The kind of a statement. -/
def Statement.kind : Statement → Kind
  | .say _ => .say
  | .address _ _ => .address
  | .assign _ _ => .assign
  | .ifThen _ => .ifThen
  | .doLoop _ _ _ => .doLoop
  | .endBlock => .endBlock
  | .comment _ => .comment
  | .unknown _ => .unknown

theorem kind_getD {found : Option Statement} {kind : Kind} (line : String)
    (hfound : ∀ statement ∈ found, statement.kind = kind) :
    (found.getD (.unknown line)).kind = if found.isSome then kind else .unknown := by
  cases found with
  | none => rfl
  | some statement => exact hfound statement rfl

theorem kind_map_getD {α : Type} {found : Option α} {statement : α → Statement} {kind : Kind}
    (hkind : ∀ a, (statement a).kind = kind) (line : String) :
    ((found.map statement).getD (.unknown line)).kind =
      if found.isSome then kind else .unknown := by
  rw [kind_getD line, Option.isSome_map]
  intro other hother
  obtain ⟨a, -, rfl⟩ := Option.map_eq_some_iff.1 hother
  exact hkind a

/-- The kind of a line depends on what it starts with and on which of the attempts succeed. -/
theorem kind_ofLine (line : String) :
    (ofLine line).kind =
      if lineComment.isPrefixOf line.toList then .comment
      else if blockComment.isPrefixOf line.toList then .comment
      else if leadingWord line = "SAY" then .say
      else if leadingWord line = "ADDRESS" then
        if (address? line.toList).isSome then .address else .unknown
      else if (assign? line.toList).isSome then .assign
      else if leadingWord line = "IF" then
        if (ifThen? line.toList).isSome then .ifThen else .unknown
      else if leadingWord line = "DO" then
        if (doLoop? line.toList).isSome then .doLoop else .unknown
      else if leadingWord line = "END" then .endBlock
      else .unknown := by
  have haddress : ∀ statement ∈ address? line.toList, statement.kind = .address := by
    intro statement hsome
    obtain ⟨directive, -, rfl⟩ := exists_directive_of_address? hsome
    rfl
  have hif : ∀ statement ∈ ifThen? line.toList, statement.kind = .ifThen := by
    intro statement hsome
    unfold ifThen? at hsome
    split at hsome
    · cases hsome
    · obtain ⟨cut, -, rfl⟩ := Option.map_eq_some_iff.1 hsome
      rfl
  have hdo : ∀ statement ∈ doLoop? line.toList, statement.kind = .doLoop := by
    intro statement hsome
    unfold doLoop? at hsome
    split at hsome
    · cases hsome
    · obtain ⟨cut, -, rfl⟩ := Option.map_eq_some_iff.1 hsome
      rfl
  unfold ofLine
  dsimp only
  cases hassign : assign? line.toList with
  | none =>
    simp only [apply_ite Statement.kind, kind_getD line haddress, kind_getD line hif,
      kind_getD line hdo]
    rfl
  | some statement =>
    obtain ⟨name, expression, rfl⟩ := exists_of_assign? hassign
    simp only [apply_ite Statement.kind, kind_getD line haddress]
    rfl

/-! ## Lines that differ in the lengths of gaps -/

theorem isPrefixOf_squeeze {marks : List Char} (hmarks : ∀ c ∈ marks, isBlank c = false)
    (cs : List Char) : marks.isPrefixOf (squeeze cs) = marks.isPrefixOf cs := by
  induction marks generalizing cs with
  | nil => rw [List.isPrefixOf_nil_left, List.isPrefixOf_nil_left]
  | cons mark marks ih =>
    rw [List.forall_mem_cons] at hmarks
    cases cs with
    | nil => rfl
    | cons c cs =>
      cases hc : isBlank c with
      | true =>
        have hne {d : Char} (hd : isBlank d = true) : (mark == d) = false := by
          rw [beq_eq_false_iff_ne]
          rintro rfl
          rw [hmarks.1] at hd
          cases hd
        rw [squeeze_cons_of_isBlank hc, List.isPrefixOf_cons_cons, List.isPrefixOf_cons_cons,
          hne hc, hne isBlank_space, Bool.false_and, Bool.false_and]
      | false =>
        rw [squeeze_cons_of_not_isBlank hc, List.isPrefixOf_cons_cons, List.isPrefixOf_cons_cons,
          ih hmarks.2]

/-- An assignment needs a name, an equals sign and something after it. -/
theorem isSome_assign?_iff {cs : List Char} (honeLine : '\n' ∉ cs) :
    (assign? cs).isSome = true ↔ ∃ named ∈ named? cs, named.2 ≠ [] := by
  rw [assign?]
  cases hnamed : named? cs with
  | none => simp
  | some named =>
    obtain ⟨name, rest⟩ := named
    have honeLine' : '\n' ∉ rest := by
      obtain ⟨-, -, spacing, -, rfl⟩ := exists_of_named? hnamed
      exact fun hmem => honeLine (by simp [hmem])
    have hself : rest ∈ skips rest := by
      cases rest with
      | nil => exact List.mem_singleton_self _
      | cons c rest =>
        rw [skips, List.mem_reverse, shortestSkips]
        split <;> exact List.mem_cons_self ..
    have hbody : ((skips rest).findSome? lineBody?).isSome = true ↔ rest ≠ [] := by
      rw [List.findSome?_isSome_iff]
      constructor
      · rintro ⟨body, hbody, hsome⟩ rfl
        rw [show skips [] = [[]] from rfl, List.mem_singleton] at hbody
        rw [hbody] at hsome
        cases hsome
      · intro hne
        exact ⟨rest, hself, by rw [lineBody?_eq_self hne honeLine']; rfl⟩
    rw [Option.isSome_map, hbody]
    simp

/-- A text starts with a quote, and another one comes later, but not at once. -/
def QuotesCommand (text : List Char) : Prop :=
  ∃ quoted, text = '"' :: quoted ∧ quoted.head? ≠ some '"' ∧ '"' ∈ quoted

theorem quotesCommand_cons_iff {quoted : List Char} :
    QuotesCommand ('"' :: quoted) ↔
      quoted.takeWhile (· != '"') ≠ [] ∧ quoted.dropWhile (· != '"') ≠ [] := by
  have hclosing : quoted.dropWhile (· != '"') ≠ [] ↔ '"' ∈ quoted := by
    rw [ne_eq, List.dropWhile_eq_nil_iff]
    simp
  have hcommand : '"' ∈ quoted →
      (quoted.takeWhile (· != '"') ≠ [] ↔ quoted.head? ≠ some '"') := by
    cases quoted with
    | nil => simp
    | cons c quoted => simp [List.takeWhile_cons]
  have hsame : QuotesCommand ('"' :: quoted) ↔ quoted.head? ≠ some '"' ∧ '"' ∈ quoted := by
    simp [QuotesCommand]
  rw [hsame, hclosing]
  exact and_congr_left fun hmem => (hcommand hmem).symm

theorem quotesCommand_squeeze {text : List Char} :
    QuotesCommand (squeeze text) ↔ QuotesCommand text := by
  have hhead (quoted : List Char) :
      (squeeze quoted).head? = some '"' ↔ quoted.head? = some '"' := by
    rw [List.head?_eq_some_iff, List.head?_eq_some_iff]
    simp only [squeeze_eq_cons_iff isBlank_quote]
    simp
  constructor
  · rintro ⟨quoted', htext, hfirst, hlater⟩
    obtain ⟨quoted, rfl, rfl⟩ := (squeeze_eq_cons_iff isBlank_quote).1 htext
    rw [ne_eq, hhead] at hfirst
    exact ⟨quoted, rfl, hfirst, (mem_squeeze_iff isBlank_quote).1 hlater⟩
  · rintro ⟨quoted, rfl, hfirst, hlater⟩
    rw [ne_eq, ← hhead] at hfirst
    exact ⟨squeeze quoted, squeeze_cons_of_not_isBlank isBlank_quote quoted, hfirst,
      (mem_squeeze_iff isBlank_quote).2 hlater⟩

/-- A directive needs an address and a command between quotes. -/
theorem isSome_address?_iff {cs : List Char} :
    (address? cs).isSome = true ↔
      ∃ rest ∈ (afterLetters? ['A', 'D', 'D', 'R', 'E', 'S', 'S'] cs).bind afterBlanks?,
        ∃ text ∈ (afterLetters? ['S', 'L', 'I', 'D', 'E', 'S'] rest).bind afterBlanks?,
          QuotesCommand text := by
  rw [address?]
  cases (afterLetters? ['A', 'D', 'D', 'R', 'E', 'S', 'S'] cs).bind afterBlanks? with
  | none => simp
  | some rest =>
    cases hrest : (afterLetters? ['S', 'L', 'I', 'D', 'E', 'S'] rest).bind afterBlanks? with
    | none => simp [hrest]
    | some text =>
      by_cases hquote : ∃ quoted, text = '"' :: quoted
      · obtain ⟨quoted, rfl⟩ := hquote
        simp only [hrest, Option.mem_some_iff, exists_eq_left', quotesCommand_cons_iff]
        split
        · next hcommand => exact iff_of_true rfl hcommand
        · next hcommand => exact iff_of_false Bool.false_ne_true hcommand
      · have hnot : ¬QuotesCommand text := by
          rintro ⟨quoted, htext, -⟩
          exact hquote ⟨quoted, htext⟩
        simp only [hrest, Option.mem_some_iff, exists_eq_left', hnot, iff_false]
        split
        · next quoted heq => exact absurd ⟨quoted, Option.some.inj heq⟩ hquote
        · simp

theorem isSome_address?_squeeze (cs : List Char) :
    (address? (squeeze cs)).isSome = (address? cs).isSome := by
  have haddress := @afterKeyword?_squeeze ['A', 'D', 'D', 'R', 'E', 'S', 'S']
    (Keyword.isUpper_letters .address) cs
  have hslides := @afterKeyword?_squeeze ['S', 'L', 'I', 'D', 'E', 'S']
    (Keyword.isUpper_letters .slides)
  rw [Bool.eq_iff_iff, isSome_address?_iff, isSome_address?_iff, haddress]
  cases (afterLetters? ['A', 'D', 'D', 'R', 'E', 'S', 'S'] cs).bind afterBlanks? with
  | none => simp
  | some rest =>
    simp only [Option.map_some, Option.mem_some_iff, exists_eq_left', hslides]
    cases (afterLetters? ['S', 'L', 'I', 'D', 'E', 'S'] rest).bind afterBlanks? with
    | none => simp
    | some text => simp [quotesCommand_squeeze]

section

variable {line line' : String} (hsame : squeeze line.toList = squeeze line'.toList)
include hsame

theorem leadingWord_congr (htight : Tight line.toList) (htight' : Tight line'.toList) :
    leadingWord line = leadingWord line' := by
  unfold leadingWord
  rw [trim_eq_self htight, trim_eq_self htight']
  cases hcs : line.toList with
  | nil =>
    rw [hcs] at hsame
    rw [squeeze_eq_nil_iff.1 hsame.symm]
  | cons c cs =>
    have hc : isBlank c = false := htight.1 c (by rw [hcs]; rfl)
    rw [hcs, squeeze_cons_of_not_isBlank hc] at hsame
    obtain ⟨cs', hcs', hrest⟩ := (squeeze_eq_cons_iff hc).1 hsame.symm
    rw [hcs']
    dsimp only
    rw [← wordOf_squeeze cs, ← wordOf_squeeze cs', hrest]

theorem isSome_assign?_congr (honeLine : '\n' ∉ line.toList) (honeLine' : '\n' ∉ line'.toList) :
    (assign? line.toList).isSome = (assign? line'.toList).isSome := by
  have hnamed (cs : List Char) : (∃ named ∈ named? cs, named.2 ≠ []) ↔
      ∃ named ∈ named? (squeeze cs), named.2 ≠ [] := by
    rw [named?_squeeze]
    cases named? cs with
    | none => simp
    | some named => simp [squeeze_eq_nil_iff]
  rw [Bool.eq_iff_iff, isSome_assign?_iff honeLine, isSome_assign?_iff honeLine', hnamed, hsame,
    ← hnamed]

theorem isSome_ifThen?_congr (hword : leadingWord line = "IF") (honeLine : '\n' ∉ line.toList)
    (honeLine' : '\n' ∉ line'.toList) (hsolid : ∀ gap body, ¬HollowIf line gap body) :
    (ifThen? line.toList).isSome = (ifThen? line'.toList).isSome := by
  have hbody : (ifBody? line.toList).map squeeze = (ifBody? line'.toList).map squeeze := by
    rw [← ifBody?_squeeze, hsame, ifBody?_squeeze]
  have hfull : ¬Hollow thenWord? (ifBody? line.toList) := by
    intro hhollow
    obtain ⟨gap, body, h⟩ := exists_hollowIf hword hhollow
    exact hsolid gap body h
  have hfull' : ¬Hollow thenWord? (ifBody? line'.toList) := by
    rwa [← hollow_map_squeeze isSome_then_squeeze, ← hbody, hollow_map_squeeze isSome_then_squeeze]
  rw [Bool.eq_iff_iff, isSome_ifThen?_iff honeLine hfull, isSome_ifThen?_iff honeLine' hfull',
    ← complete_map_squeeze isSome_then_squeeze, hbody, complete_map_squeeze isSome_then_squeeze]

variable (htight : Tight line.toList) (htight' : Tight line'.toList)
  (honeLine : '\n' ∉ line.toList) (honeLine' : '\n' ∉ line'.toList)
include htight htight' honeLine honeLine'

theorem isSome_doLoop?_congr (hword : leadingWord line = "DO")
    (hsolid : ∀ gap body, ¬HollowDo line gap body) :
    (doLoop? line.toList).isSome = (doLoop? line'.toList).isSome := by
  have hbody : (doBody? line.toList).map squeeze = (doBody? line'.toList).map squeeze := by
    rw [← doBody?_squeeze, hsame, doBody?_squeeze]
  have hfull : ¬Hollow toWord? (doBody? line.toList) := by
    intro hhollow
    obtain ⟨gap, body, h⟩ := exists_hollowDo hword htight honeLine hhollow
    exact hsolid gap body h
  have hfull' : ¬Hollow toWord? (doBody? line'.toList) := by
    rwa [← hollow_map_squeeze isSome_to_squeeze, ← hbody, hollow_map_squeeze isSome_to_squeeze]
  rw [Bool.eq_iff_iff, isSome_doLoop?_iff htight.2 honeLine hfull,
    isSome_doLoop?_iff htight'.2 honeLine' hfull', ← complete_map_squeeze isSome_to_squeeze,
    hbody, complete_map_squeeze isSome_to_squeeze]

/-- Lines that differ only in the lengths of their gaps are of the same kind, unless they are hollow
headers. -/
theorem kind_congr (hif : ∀ gap body, ¬HollowIf line gap body)
    (hdo : ∀ gap body, ¬HollowDo line gap body) : (ofLine line).kind = (ofLine line').kind := by
  have hmark {marks : List Char} (hmarks : ∀ c ∈ marks, isBlank c = false) :
      marks.isPrefixOf line.toList = marks.isPrefixOf line'.toList := by
    rw [← isPrefixOf_squeeze hmarks, hsame, isPrefixOf_squeeze hmarks]
  have haddress : (address? line.toList).isSome = (address? line'.toList).isSome := by
    rw [← isSome_address?_squeeze, hsame, isSome_address?_squeeze]
  rw [kind_ofLine, kind_ofLine, hmark (unbroken_of_any (by decide)),
    hmark (unbroken_of_any (by decide)), haddress,
    isSome_assign?_congr hsame honeLine honeLine', ← leadingWord_congr hsame htight htight']
  by_cases hword : leadingWord line = "IF"
  · rw [isSome_ifThen?_congr hsame hword honeLine honeLine' hif]
    simp only [if_pos hword]
  · by_cases hword' : leadingWord line = "DO"
    · rw [isSome_doLoop?_congr hsame htight htight' honeLine honeLine' hword' hdo]
      simp only [if_neg hword]
    · simp only [if_neg hword, if_neg hword']

end

/-! ## The main statement -/

/-- Two blanks are enough for one of them to have another one after it. -/
theorem isSome_getLast?_dropLast_iff {gap : List Char} :
    gap.dropLast.getLast?.isSome = true ↔ 2 ≤ gap.length := by
  rw [List.getLast?_isSome, ne_eq, ← List.length_eq_zero_iff, List.length_dropLast]
  omega

/-- A gap in a trimmed line lies inside it, so the line stays trimmed when the gap changes. -/
theorem tight_change {before gap gap' after : List Char} (hgap : IsGap gap)
    (htight : Tight (before ++ (gap ++ after))) : Tight (before ++ (gap' ++ after)) := by
  have hbefore : before ≠ [] := by
    rintro rfl
    obtain ⟨c, gap, rfl⟩ := List.exists_cons_of_ne_nil hgap.ne_nil
    have hc := htight.1 c rfl
    rw [hgap.isBlank c (List.mem_cons_self ..)] at hc
    cases hc
  have hafter : after ≠ [] := by
    rintro rfl
    have hlast := htight.2 (gap.getLast hgap.ne_nil) (by
      rw [List.append_nil, List.getLast?_append_of_ne_nil _ hgap.ne_nil]
      exact List.getLast?_eq_some_getLast hgap.ne_nil)
    rw [hgap.isBlank _ (List.getLast_mem hgap.ne_nil)] at hlast
    cases hlast
  obtain ⟨hhead, hlast⟩ := htight
  rw [List.head?_append_of_ne_nil _ hbefore] at hhead
  rw [← List.append_assoc, List.getLast?_append_of_ne_nil _ hafter] at hlast
  constructor
  · rwa [List.head?_append_of_ne_nil _ hbefore]
  · rwa [← List.append_assoc, List.getLast?_append_of_ne_nil _ hafter]

theorem HollowIf.ifBody?_eq {line : String} {gap body : List Char}
    (hhollow : HollowIf line gap body) : ifBody? line.toList = some body := by
  have hhead (c : Char) (hc : c ∈ body.head?) : isBlank c = false :=
    isBlank_eq_false_of_isWord (isWord_of_thenWord? hhollow.keyword c hc)
  rw [ifBody?, hhollow.parts, Option.bind_some, afterBlanks?_append hhollow.isGap hhead]

/-- **Headers and their blanks.**  On a trimmed line, the condition of an IF and the bounds of a DO
have no blanks around them and are not empty, unless the header is hollow; then a blank is taken for
what is missing, if the header has three or two of them, and else the line is unknown.  A line that
is no hollow header stays of its kind when a gap in it becomes longer or shorter. -/
theorem ofLine_header {line : String} (htrimmed : trimmed line = line)
    (honeLine : '\n' ∉ line.toList) :
    (∀ condition, ofLine line = .ifThen condition →
      IsSolid condition ∨ ∃ gap body, HollowIf line gap body ∧
        ∃ blank ∈ gap, condition = String.ofList [blank]) ∧
    (∀ name first last, ofLine line = .doLoop name first last →
      IsSolid last ∧ (IsSolid first ∨ ∃ gap body, HollowDo line gap body ∧
        ∃ blank ∈ gap, first = String.ofList [blank])) ∧
    (∀ gap body, HollowIf line gap body →
      (ofLine line).kind = if 3 ≤ gap.length then .ifThen else .unknown) ∧
    (∀ gap body, HollowDo line gap body →
      (ofLine line).kind = if 2 ≤ gap.length then .doLoop else .unknown) ∧
    ∀ before gap gap' after, line.toList = before ++ (gap ++ after) → IsGap gap → IsGap gap' →
      '\n' ∉ gap' → (∀ gap body, ¬HollowIf line gap body ∧ ¬HollowDo line gap body) →
      (ofLine (String.ofList (before ++ (gap' ++ after)))).kind = (ofLine line).kind := by
  have htight := tight_of_trimmed htrimmed
  refine ⟨?_, ?_, ?_, ?_, ?_⟩
  · intro condition hline
    exact isSolid_condition htight honeLine hline
  · intro name first last hline
    exact isSolid_bounds htight honeLine hline
  · intro gap body hhollow
    have hlength : 2 ≤ gap.tail.length ↔ 3 ≤ gap.length := by
      rw [List.length_tail]
      omega
    have hkind (blank : Char) : (Statement.ifThen (String.ofList [blank])).kind = .ifThen := rfl
    rw [ofLine_hollowIf htight honeLine hhollow, kind_map_getD hkind]
    simp only [isSome_getLast?_dropLast_iff, hlength]
  · intro gap body hhollow
    obtain ⟨name, last, hline⟩ := ofLine_hollowDo htight honeLine hhollow
    have hkind (blank : Char) :
        (Statement.doLoop name (String.ofList [blank]) last).kind = .doLoop := rfl
    rw [hline, kind_map_getD hkind]
    simp only [isSome_getLast?_dropLast_iff]
  · intro before gap gap' after hline hgap hgap' hplain hsolid
    have hsame : squeeze line.toList =
        squeeze (String.ofList (before ++ (gap' ++ after))).toList := by
      rw [String.toList_ofList, hline, squeeze_change hgap hgap']
    have htight' : Tight (String.ofList (before ++ (gap' ++ after))).toList := by
      rw [String.toList_ofList]
      exact tight_change hgap (hline ▸ htight)
    have honeLine' : '\n' ∉ (String.ofList (before ++ (gap' ++ after))).toList := by
      rw [hline] at honeLine
      simp only [List.mem_append, not_or, String.toList_ofList] at honeLine ⊢
      exact ⟨honeLine.1, hplain, honeLine.2.2⟩
    exact (kind_congr hsame htight htight' honeLine honeLine' (fun gap body => (hsolid gap body).1)
      fun gap body => (hsolid gap body).2).symm

/-- A longer gap after the IF makes no difference. -/
theorem ofLine_header_longer :
    (∀ gap body, ¬HollowIf "IF a THEN" gap body ∧ ¬HollowDo "IF a THEN" gap body) ∧
      (ofLine "IF \t a THEN").kind = (ofLine "IF a THEN").kind := by
  have hsolid (gap body : List Char) :
      ¬HollowIf "IF a THEN" gap body ∧ ¬HollowDo "IF a THEN" gap body := by
    constructor
    · intro hhollow
      have hbody : ifBody? "IF a THEN".toList = some ['a', ' ', 'T', 'H', 'E', 'N'] := by decide
      obtain rfl := Option.some.inj (hbody.symm.trans hhollow.ifBody?_eq)
      exact absurd hhollow.keyword (by decide)
    · intro hhollow
      exact absurd hhollow.leadingWord_eq (by decide)
  obtain ⟨-, -, -, -, hchange⟩ := @ofLine_header "IF a THEN" (by decide) (by decide)
  have hsame := hchange ['I', 'F'] [' '] [' ', '\t', ' '] ['a', ' ', 'T', 'H', 'E', 'N'] (by decide)
    (by decide) (by decide) (by decide) hsolid
  exact ⟨hsolid, hsame⟩

/-- With three blanks between IF and THEN, or with two between the equals sign and TO, a blank is
taken for what is missing, and with fewer of them the header is not recognised. -/
theorem not_forall_ofLine_header :
    ¬(∀ line condition, trimmed line = line → '\n' ∉ line.toList →
      ofLine line = .ifThen condition → IsSolid condition) ∧
    ¬(∀ line name first last, trimmed line = line → '\n' ∉ line.toList →
      ofLine line = .doLoop name first last → IsSolid first ∧ IsSolid last) ∧
    ¬∀ gap gap' after, trimmed (String.ofList (['I', 'F'] ++ (gap ++ after))) =
        String.ofList (['I', 'F'] ++ (gap ++ after)) →
      '\n' ∉ gap ++ after → IsGap gap → IsGap gap' → '\n' ∉ gap' →
      (ofLine (String.ofList (['I', 'F'] ++ (gap' ++ after)))).kind =
        (ofLine (String.ofList (['I', 'F'] ++ (gap ++ after)))).kind := by
  refine ⟨fun hall => ?_, fun hall => ?_, fun hall => ?_⟩
  · have hsolid := hall "IF   THEN" " " (by decide) (by decide) (by decide)
    exact absurd hsolid.trimmed_eq (by decide)
  · have hsolid := hall "DO i =  TO 5" "i" " " "5" (by decide) (by decide) (by decide)
    exact absurd hsolid.1.trimmed_eq (by decide)
  · have hkind := hall [' ', ' ', ' '] [' '] ['T', 'H', 'E', 'N'] (by decide)
      (by decide) (by decide) (by decide) (by decide)
    exact absurd hkind (by decide)

end DeckScript.Script
