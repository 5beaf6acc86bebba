import DeckScript.Proofs.Script.Program

/-!
# Printed lines are recognised

`ofLine_print` says that every line of a printed program is read back as the statement
it was printed from, and `leadingWord_print` and its consequences say how the search
for the END of a block sees it.

A line is recognised from left to right, and most steps have only one way to go: the
keyword is there in some spelling, one space follows, and then a text that starts with
another character than a blank.  The exceptions are the two searches for the end of a
text, THEN after a condition and TO after the first bound of a loop.  They take the
first place that fits, so it has to be shown that no earlier place does
(`hasWord_of_match`).
-/

namespace DeckScript.Script

open Text Statement

/-! ## Skipping blanks -/

theorem skips_eq_self {cs : List Char} (hhead : ∀ c ∈ cs.head?, isBlank c = false) :
    skips cs = [cs] := by
  cases cs with
  | nil => rfl
  | cons c cs => simp [skips, shortestSkips, hhead c (by simp)]

theorem skips_space {cs : List Char} (hhead : ∀ c ∈ cs.head?, isBlank c = false) :
    skips (' ' :: cs) = [cs, ' ' :: cs] := by
  have hshortest : shortestSkips cs = [cs] := by
    simpa [skips] using congrArg List.reverse (skips_eq_self hhead)
  simp [skips, shortestSkips, hshortest]

theorem properSkips_space {cs : List Char} (hhead : ∀ c ∈ cs.head?, isBlank c = false) :
    properSkips (' ' :: cs) = [cs] := by
  simp [properSkips, skips_eq_self hhead]

theorem afterBlanks?_space {cs : List Char} (hhead : ∀ c ∈ cs.head?, isBlank c = false) :
    afterBlanks? (' ' :: cs) = some cs := by
  simp [afterBlanks?, trimLeft_eq_self hhead]

theorem afterBlanks?_append {gap cs : List Char} (hgap : IsGap gap)
    (hhead : ∀ c ∈ cs.head?, isBlank c = false) : afterBlanks? (gap ++ cs) = some cs := by
  obtain ⟨c, gap, rfl⟩ := List.exists_cons_of_ne_nil hgap.ne_nil
  obtain ⟨hc, hblanks⟩ := List.forall_mem_cons.1 hgap.isBlank
  rw [List.cons_append, afterBlanks?, if_pos hc, trimLeft_append_of_blanks hblanks,
    trimLeft_eq_self hhead]

/-- All blanks are skipped. -/
theorem afterBlanks?_eq_some_iff {cs rest : List Char} :
    afterBlanks? cs = some rest ↔
      ∃ gap, IsGap gap ∧ cs = gap ++ rest ∧ ∀ c ∈ rest.head?, isBlank c = false := by
  constructor
  · intro hrest
    cases cs with
    | nil => cases hrest
    | cons c cs =>
      rw [afterBlanks?] at hrest
      split at hrest
      · next hc =>
        cases hrest
        have hblanks : ∀ d ∈ cs.takeWhile isBlank, isBlank d = true :=
          fun _ => List.mem_takeWhile_imp
        refine ⟨c :: cs.takeWhile isBlank, ⟨List.cons_ne_nil _ _, ?_⟩, ?_, head?_trimLeft cs⟩
        · exact List.forall_mem_cons.2 ⟨hc, hblanks⟩
        · rw [trimLeft, List.cons_append, List.takeWhile_append_dropWhile]
      · cases hrest
  · rintro ⟨gap, hgap, rfl, hhead⟩
    exact afterBlanks?_append hgap hhead

/-! ## Keywords in any spelling -/

/-- The characters of the word are the given capital letters in some case. -/
def Spells (letters word : List Char) : Prop :=
  List.Forall₂ (fun letter c => sameLetter letter c = true) letters word

theorem afterLetters?_eq_some_iff {letters cs rest : List Char} :
    afterLetters? letters cs = some rest ↔ ∃ word, Spells letters word ∧ cs = word ++ rest := by
  constructor
  · intro hrest
    induction letters generalizing cs with
    | nil =>
      cases hrest
      exact ⟨[], .nil, rfl⟩
    | cons letter letters ih =>
      cases cs with
      | nil => cases hrest
      | cons c cs =>
        rw [afterLetters?] at hrest
        split at hrest
        · next hsame =>
          obtain ⟨word, hword, rfl⟩ := ih hrest
          exact ⟨c :: word, .cons hsame hword, rfl⟩
        · cases hrest
  · rintro ⟨word, hword, rfl⟩
    induction hword with
    | nil => rfl
    | cons hsame _ ih => rw [List.cons_append, afterLetters?, if_pos hsame, ih]

theorem isWord_of_sameLetter {letter c : Char} (hletter : letter.isUpper = true)
    (hsame : sameLetter letter c = true) : isWord c = true := by
  simp only [sameLetter, Bool.or_eq_true, Bool.and_eq_true, beq_iff_eq] at hsame
  rcases hsame with (rfl | ⟨-, rfl⟩) | ⟨-, rfl | rfl⟩
  · exact isWord_of_isAlpha (isAlpha_of_isUpper_toUpper hletter)
  · decide +kernel
  · decide +kernel
  · decide +kernel

/-- Keywords are made of word characters. -/
theorem Spells.isWord {letters word : List Char} (hword : Spells letters word)
    (hletters : ∀ c ∈ letters, c.isUpper = true) :
    ∀ c ∈ word, isWord c = true := by
  induction hword with
  | nil => exact List.forall_mem_nil _
  | cons hsame _ ih =>
    rw [List.forall_mem_cons] at hletters
    exact List.forall_mem_cons.2 ⟨isWord_of_sameLetter hletters.1 hsame, ih hletters.2⟩

theorem afterLetters?_append {letters word : List Char}
    (hword : word.map Char.toUpper = letters) (rest : List Char) :
    afterLetters? letters (word ++ rest) = some rest := by
  subst hword
  induction word with
  | nil => rfl
  | cons c word ih => simp [afterLetters?, sameLetter, ih]

/-- Apart from S and I, the letters of a keyword match only their two cases. -/
theorem toUpper_of_sameLetter {letter c : Char} (hletter : letter ∉ ['S', 'I', ' '])
    (hsame : sameLetter letter c = true) : c.toUpper = letter := by
  simp only [List.mem_cons, List.not_mem_nil, or_false, not_or] at hletter
  simpa [sameLetter, hletter.1, hletter.2.1] using hsame

/-- A keyword that is found in a text followed by a space lies within the text. -/
theorem exists_append_of_afterLetters? {letters : List Char}
    (hletters : ∀ letter ∈ letters, letter ∉ ['S', 'I', ' ']) {cs rest after : List Char}
    (hafter : afterLetters? letters (cs ++ ' ' :: rest) = some after) :
    ∃ word tail, cs = word ++ tail ∧ word.map Char.toUpper = letters ∧
      after = tail ++ ' ' :: rest := by
  induction letters generalizing cs with
  | nil => exact ⟨[], cs, rfl, rfl, by simpa [afterLetters?] using hafter.symm⟩
  | cons letter letters ih =>
    have hletter := hletters letter (List.mem_cons_self ..)
    cases cs with
    | nil =>
      -- the space matches no letter
      simp only [List.nil_append, afterLetters?] at hafter
      split at hafter
      · next hsame =>
        have hspace : ' ' = letter := toUpper_of_sameLetter hletter hsame
        simp [← hspace] at hletter
      · cases hafter
    | cons c cs =>
      simp only [List.cons_append, afterLetters?] at hafter
      split at hafter
      · next hsame =>
        obtain ⟨word, tail, rfl, hword, rfl⟩ :=
          ih (fun other hother => hletters other (List.mem_cons_of_mem _ hother)) hafter
        refine ⟨c :: word, tail, rfl, ?_, rfl⟩
        rw [List.map_cons, toUpper_of_sameLetter hletter hsame, hword]
      · cases hafter

/-! ## The first place that fits -/

/-- A cut is made at the first place whose rest is recognised. -/
theorem cutShortest_append {α : Type} {ending? : List Char → Option α} {cs rest : List Char}
    {ending : α} (hne : cs ≠ []) (honeLine : '\n' ∉ cs) (hrest : ending? rest = some ending)
    (hearlier : ∀ first second, cs = first ++ second → first ≠ [] → second ≠ [] →
      ending? (second ++ rest) = none) :
    cutShortest ending? (cs ++ rest) = some (cs, ending) := by
  induction cs with
  | nil => exact absurd rfl hne
  | cons c cs ih =>
    have hc : c ≠ '\n' := fun heq => honeLine (by simp [heq])
    cases cs with
    | nil => simp [cutShortest, hc, hrest]
    | cons d cs =>
      have hhere : ending? (d :: cs ++ rest) = none :=
        hearlier [c] (d :: cs) rfl (by simp) (by simp)
      have hthere : cutShortest ending? (d :: cs ++ rest) = some (d :: cs, ending) := by
        refine ih (by simp) (fun hmem => honeLine (List.mem_cons_of_mem _ hmem)) ?_
        intro first second hsplit _ hsecond
        exact hearlier (c :: first) second (by simp [hsplit]) (by simp) hsecond
      rw [List.cons_append, cutShortest, if_neg hc, hhere]
      simp only [hthere, Option.map_some]

/-- Skipping the blanks at the start of a text that ends with another character stops within
the text, right after a blank. -/
theorem exists_append_of_afterBlanks? {cs rest after : List Char}
    (hlast : ∀ c ∈ cs.getLast?, isBlank c = false) (hne : cs ≠ [])
    (hafter : afterBlanks? (cs ++ rest) = some after) :
    ∃ before blank tail, cs = before ++ blank :: tail ∧ isBlank blank = true ∧
      after = tail ++ rest := by
  induction cs with
  | nil => exact absurd rfl hne
  | cons c cs ih =>
    have hc : isBlank c = true := by
      by_contra hnot
      simp [afterBlanks?, hnot] at hafter
    cases cs with
    | nil => simp [hlast c (by simp)] at hc
    | cons d cs =>
      simp only [List.cons_append, afterBlanks?, hc, if_true] at hafter
      by_cases hd : isBlank d = true
      · -- the blanks go on
        have hnext : afterBlanks? (d :: cs ++ rest) = some after := by
          rw [← hafter]
          simp [afterBlanks?, trimLeft, hd]
        obtain ⟨before, blank, tail, hsplit, hblank, rfl⟩ :=
          ih (fun e he => hlast e (by simpa using he)) (by simp) hnext
        exact ⟨c :: before, blank, tail, by simp [hsplit], hblank, rfl⟩
      · refine ⟨[], c, d :: cs, rfl, hc, ?_⟩
        simpa [trimLeft, hd] using hafter.symm

/-- Where blanks and a keyword are found inside a text, the text has the keyword as a word. -/
theorem hasWord_of_match {letters : List Char}
    (hletters : ∀ letter ∈ letters, letter ∉ ['S', 'I', ' ']) {first second rest after : List Char}
    (hlast : ∀ c ∈ second.getLast?, isBlank c = false) (hne : second ≠ [])
    (hmatch : (afterBlanks? (second ++ ' ' :: rest)).bind (afterLetters? letters) = some after)
    (hend : ∀ c ∈ after.head?, isWord c = false) : hasWord letters (first ++ second) = true := by
  obtain ⟨skipped, hskipped, hletter⟩ := Option.bind_eq_some_iff.mp hmatch
  obtain ⟨before, blank, others, rfl, hblank, rfl⟩ :=
    exists_append_of_afterBlanks? hlast hne hskipped
  obtain ⟨word, tail, rfl, hword, rfl⟩ := exists_append_of_afterLetters? hletters hletter
  have hlength : word.length = letters.length := by rw [← hword, List.length_map]
  have htail : tail.head?.any isWord = false := by
    cases tail with
    | nil => rfl
    | cons c tail => simpa using hend c (by simp)
  simp only [hasWord, List.any_eq_true, List.mem_tails]
  refine ⟨blank :: (word ++ tail), ⟨first ++ before, by simp⟩, ?_⟩
  simp [startsWithWord, hblank, ← hlength, hword, htail]

/-! ## Texts and keywords of a program -/

theorem Phrase.tight (phrase : Phrase) : Tight phrase.text.toList := by
  have htrim : trim phrase.text.toList = phrase.text.toList := by
    rw [← toList_trimmed, phrase.trimmed_eq]
  exact trim_eq_self_iff.mp htrim

theorem Phrase.toList_ne_nil (phrase : Phrase) : phrase.text.toList ≠ [] := by
  simpa using phrase.ne_empty

theorem VariableName.toList_ne_nil (name : VariableName) : name.text.toList ≠ [] := by
  simpa using name.ne_empty

theorem Keyword.isUpper_letters (keyword : Keyword) :
    ∀ letter ∈ keyword.letters, letter.isUpper = true := by
  rw [← List.all_eq_true]
  cases keyword <;> decide

namespace LineStyle

variable (style : LineStyle)

theorem isAlpha_of_mem_spell (keyword : Keyword) {c : Char} (hc : c ∈ style.spell keyword) :
    c.isAlpha = true := by
  have hcapital : c.toUpper ∈ keyword.letters := by
    rw [← style.spell_capitals keyword]
    exact List.mem_map_of_mem hc
  exact isAlpha_of_isUpper_toUpper (keyword.isUpper_letters _ hcapital)

theorem isWord_of_mem_spell (keyword : Keyword) {c : Char} (hc : c ∈ style.spell keyword) :
    isWord c = true :=
  isWord_of_isAlpha (style.isAlpha_of_mem_spell keyword hc)

theorem length_spell (keyword : Keyword) :
    (style.spell keyword).length = keyword.letters.length := by
  rw [← style.spell_capitals keyword, List.length_map]

theorem spell_ne_nil (keyword : Keyword) : style.spell keyword ≠ [] := by
  rw [← List.length_pos_iff, style.length_spell]
  cases keyword <;> decide

theorem tight_spell (keyword : Keyword) : Tight (style.spell keyword) :=
  tight_of_isWord fun _ hc => style.isWord_of_mem_spell keyword hc

theorem upper_spell (keyword : Keyword) : upper (style.spell keyword) = keyword.letters := by
  rw [upper_eq_map_toUpper fun _ hc => style.isAlpha_of_mem_spell keyword hc,
    style.spell_capitals]

theorem afterLetters?_spell (keyword : Keyword) (rest : List Char) :
    afterLetters? keyword.letters (style.spell keyword ++ rest) = some rest :=
  afterLetters?_append (style.spell_capitals keyword) rest

end LineStyle

/-! ## Leading words -/

theorem leadingWord_eq {line : String} {c : Char} {word rest : List Char}
    (hline : trim line.toList = c :: word ++ rest) (hword : ∀ d ∈ word, isWord d = true)
    (hrest : ∀ d ∈ rest.head?, isWord d = false) :
    leadingWord line =
      if c.isAlpha || c == '_' then String.ofList (upper (c :: word)) else "" := by
  simp only [leadingWord, hline, List.cons_append, wordOf_append hword hrest]

theorem leadingWord_spell (style : LineStyle) (keyword : Keyword) (rest : List Char)
    {line : String} (hline : trim line.toList = style.spell keyword ++ rest)
    (hrest : ∀ c ∈ rest.head?, isWord c = false) :
    leadingWord line = String.ofList keyword.letters := by
  obtain ⟨c, word, hspell⟩ := List.exists_cons_of_ne_nil (style.spell_ne_nil keyword)
  have hword : ∀ d ∈ word, isWord d = true := by
    intro d hd
    exact style.isWord_of_mem_spell keyword (by simp [hspell, hd])
  have hc : c.isAlpha = true := style.isAlpha_of_mem_spell keyword (by simp [hspell])
  rw [hspell] at hline
  rw [leadingWord_eq hline hword hrest, ← hspell, style.upper_spell]
  simp [hc]

/-- A line that starts with the name of a variable does not look like any other statement. -/
theorem leadingWord_name (name : VariableName) {line : String} {rest : List Char}
    (hline : trim line.toList = name.text.toList ++ rest)
    (hrest : ∀ c ∈ rest.head?, isWord c = false) : leadingWord line ∉ reservedWords := by
  obtain ⟨c, word, hname⟩ := List.exists_cons_of_ne_nil name.toList_ne_nil
  have hword : ∀ d ∈ word, isWord d = true := by
    intro d hd
    exact name.isWord d (by simp [hname, hd])
  rw [hname] at hline
  rw [leadingWord_eq hline hword hrest]
  split
  · rw [← hname]
    exact name.notReserved
  · decide

/-! ## Parts of statements -/

theorem named?_append (name : VariableName) (rest : List Char) :
    named? (name.text.toList ++ ' ' :: '=' :: rest) = some (name.text.toList, rest) := by
  have hhead : ∀ c ∈ (' ' :: '=' :: rest).head?, isWord c = false := by simp
  have htrim : trimLeft (' ' :: '=' :: rest) = '=' :: rest := by
    simp [trimLeft, show isBlank '=' = false by decide]
  rw [named?, wordOf_append name.isWord hhead, afterWord_append name.isWord hhead, htrim]
  obtain ⟨c, word, hname⟩ := List.exists_cons_of_ne_nil name.toList_ne_nil
  simp [hname]

/-- A line whose first word is not followed by an equals sign is no assignment. -/
theorem assign?_eq_none {word rest : List Char} (hword : ∀ c ∈ word, isWord c = true)
    (hrest : ∀ c ∈ rest.head?, isWord c = false)
    (hsign : (trimLeft rest).head? ≠ some '=') : assign? (word ++ rest) = none := by
  have hnamed : named? (word ++ rest) = none := by
    rw [named?, wordOf_append hword hrest, afterWord_append hword hrest]
    split
    · rfl
    · next heq => simp [heq] at hsign
    · rfl
  simp [assign?, hnamed]

theorem lineBody?_eq_self {cs : List Char} (hne : cs ≠ []) (honeLine : '\n' ∉ cs) :
    lineBody? cs = some cs := by
  have hall : ∀ c ∈ cs, (c != '\n') = true := by
    intro c hc
    simpa using fun heq : c = '\n' => honeLine (heq ▸ hc)
  have htake : cs.takeWhile (· != '\n') = cs := List.takeWhile_eq_self_iff.mpr hall
  have hdrop : cs.dropWhile (· != '\n') = [] := List.dropWhile_eq_nil_iff.mpr hall
  simp [lineBody?, htake, hdrop, hne]

theorem assign?_print (name : VariableName) (expression : Phrase) :
    assign? (name.text.toList ++ ' ' :: '=' :: ' ' :: expression.text.toList) =
      some (.assign name.text expression.text) := by
  have hbody := lineBody?_eq_self expression.toList_ne_nil expression.oneLine
  rw [assign?, named?_append]
  simp [skips_space expression.tight.1, hbody]

/-! ### Conditions -/

theorem then?_print (style : LineStyle) : then? (' ' :: style.spell .thenBlock) = some () := by
  have hblanks := afterBlanks?_space (style.tight_spell .thenBlock).1
  have hletters : afterLetters? ['T', 'H', 'E', 'N'] (style.spell .thenBlock) = some [] := by
    simpa [Keyword.letters] using style.afterLetters?_spell .thenBlock []
  simp [then?, hblanks, hletters]

theorem cutShortest_then (style : LineStyle) (condition : Condition) :
    cutShortest then? (condition.text.toList ++ ' ' :: style.spell .thenBlock) =
      some (condition.text.toList, ()) := by
  refine cutShortest_append condition.toList_ne_nil condition.oneLine (then?_print style) ?_
  intro first second hsplit _ hsecond
  have hlast : ∀ c ∈ second.getLast?, isBlank c = false := by
    intro c hc
    refine condition.tight.2 c ?_
    rw [hsplit, List.getLast?_append_of_ne_nil _ hsecond]
    exact hc
  -- a THEN found earlier would be a word of the condition
  rw [← Option.not_isSome_iff_eq_none, Option.isSome_iff_exists]
  rintro ⟨⟨⟩, hfound⟩
  have hword : hasWord ['T', 'H', 'E', 'N'] (first ++ second) = true := by
    unfold then? at hfound
    split at hfound
    · cases hfound
    · next hmatch => exact hasWord_of_match (by simp) hlast hsecond hmatch (by simp)
    · next c _ hmatch =>
      refine hasWord_of_match (by simp) hlast hsecond hmatch ?_
      intro d hd
      obtain rfl : c = d := by simpa using hd
      by_contra hnot
      simp [hnot] at hfound
  rw [← hsplit, condition.noThen] at hword
  cases hword

theorem ifThen?_print (style : LineStyle) (condition : Condition) :
    ifThen? (style.spell .ifBlock ++
        ' ' :: (condition.text.toList ++ ' ' :: style.spell .thenBlock)) =
      some (.ifThen condition.text) := by
  have hskips := properSkips_space
    (condition.tight.head?_append condition.toList_ne_nil (' ' :: style.spell .thenBlock))
  rw [ifThen?, ← Keyword.letters, style.afterLetters?_spell]
  simp [hskips, cutShortest_then]

/-! ### Loops -/

/-- Only the whole text leaves nothing but blanks. -/
theorem cutShortest_blanks (phrase : Phrase) :
    cutShortest blanks? phrase.text.toList = some (phrase.text.toList, ()) := by
  have hcut : cutShortest blanks? (phrase.text.toList ++ []) = some (phrase.text.toList, ()) := by
    refine cutShortest_append phrase.toList_ne_nil phrase.oneLine (by simp [blanks?]) ?_
    intro first second hsplit _ hsecond
    have hlast := phrase.tight.2
    rw [hsplit, List.getLast?_append_of_ne_nil _ hsecond, List.getLast?_eq_some_getLast hsecond]
      at hlast
    have hnot : ¬ (second.all isBlank = true) := by
      intro hall
      have := List.all_eq_true.mp hall _ (List.getLast_mem hsecond)
      rw [hlast _ rfl] at this
      cases this
    simpa [blanks?] using hnot
  simpa using hcut

theorem toBound?_print (style : LineStyle) (last : Phrase) :
    toBound? (' ' :: (style.spell .toBound ++ ' ' :: last.text.toList)) = some last.text.toList := by
  have hblanks := afterBlanks?_space
    ((style.tight_spell .toBound).head?_append (style.spell_ne_nil .toBound)
      (' ' :: last.text.toList))
  rw [toBound?, hblanks, ← Keyword.letters, Option.bind_some, style.afterLetters?_spell]
  simp [properSkips_space last.tight.1, cutShortest_blanks]

theorem cutShortest_to (style : LineStyle) (first : FirstBound) (last : Phrase) :
    cutShortest toBound?
        (first.text.toList ++ ' ' :: (style.spell .toBound ++ ' ' :: last.text.toList)) =
      some (first.text.toList, last.text.toList) := by
  refine cutShortest_append first.toList_ne_nil first.oneLine (toBound?_print style last) ?_
  intro before second hsplit _ hsecond
  have hlast : ∀ c ∈ second.getLast?, isBlank c = false := by
    intro c hc
    refine first.tight.2 c ?_
    rw [hsplit, List.getLast?_append_of_ne_nil _ hsecond]
    exact hc
  -- a TO found earlier would be followed by a blank, and so be a word of the bound
  rw [← Option.not_isSome_iff_eq_none, Option.isSome_iff_exists]
  rintro ⟨bound, hfound⟩
  have hword : hasWord ['T', 'O'] (before ++ second) = true := by
    unfold toBound? at hfound
    split at hfound
    · cases hfound
    · next after hmatch =>
      refine hasWord_of_match (by simp) hlast hsecond hmatch ?_
      cases after with
      | nil => simp
      | cons c after =>
        have hblank : isBlank c = true := by
          by_contra hnot
          simp [properSkips, hnot] at hfound
        simpa using isWord_eq_false_of_isBlank hblank
  rw [← hsplit, first.noTo] at hword
  cases hword

theorem doLoop?_print (style : LineStyle) (name : VariableName) (first : FirstBound)
    (last : Phrase) :
    doLoop? (style.spell .doBlock ++
        ' ' :: (name.text.toList ++ ' ' :: '=' :: ' ' ::
          (first.text.toList ++ ' ' :: (style.spell .toBound ++ ' ' :: last.text.toList)))) =
      some (.doLoop name.text first.text last.text) := by
  have hblanks := afterBlanks?_space ((tight_of_isWord name.isWord).head?_append
    name.toList_ne_nil (' ' :: '=' :: ' ' ::
      (first.text.toList ++ ' ' :: (style.spell .toBound ++ ' ' :: last.text.toList))))
  have hskips := skips_space (first.tight.head?_append first.toList_ne_nil
    (' ' :: (style.spell .toBound ++ ' ' :: last.text.toList)))
  rw [doLoop?, ← Keyword.letters, style.afterLetters?_spell, Option.bind_some, hblanks,
    Option.bind_some, named?_append]
  simp [hskips, cutShortest_to]

/-! ### Directives -/

theorem address?_print (style : LineStyle) (command : QuotedCommand) :
    address? (style.spell .address ++
        ' ' :: (style.spell .slides ++ ' ' :: '"' :: (command.text.toList ++ ['"']))) =
      some (.address slidesAddress command.text) := by
  have hblanks := afterBlanks?_space ((style.tight_spell .slides).head?_append
    (style.spell_ne_nil .slides) (' ' :: '"' :: (command.text.toList ++ ['"'])))
  have hblanks' : afterBlanks? (' ' :: '"' :: (command.text.toList ++ ['"'])) =
      some ('"' :: (command.text.toList ++ ['"'])) :=
    afterBlanks?_space (by simp)
  have htake : (style.spell .slides ++ ' ' :: '"' :: (command.text.toList ++ ['"'])).take 6 =
      style.spell .slides :=
    List.take_left' (style.length_spell .slides)
  have hall : ∀ c ∈ command.text.toList, (c != '"') = true := by
    intro c hc
    simpa using fun heq : c = '"' => command.unquoted (heq ▸ hc)
  have hcommand : (command.text.toList ++ ['"']).takeWhile (· != '"') = command.text.toList := by
    simp [List.takeWhile_append_of_pos hall]
  have hquote : (command.text.toList ++ ['"']).dropWhile (· != '"') = ['"'] := by
    simp [List.dropWhile_append_of_pos hall]
  rw [address?, show ['A', 'D', 'D', 'R', 'E', 'S', 'S'] = Keyword.letters .address from rfl,
    style.afterLetters?_spell, Option.bind_some, hblanks]
  simp only [show ['S', 'L', 'I', 'D', 'E', 'S'] = Keyword.letters .slides from rfl,
    style.afterLetters?_spell, Option.bind_some, hblanks', hcommand, hquote, htake,
    style.upper_spell]
  simp [command.ne_empty, slidesAddress, Keyword.letters]

/-! ## Whole lines -/

namespace ProgramLine

theorem tight_body (style : LineStyle) (line : ProgramLine) : Tight (line.body style) := by
  have hspell (keyword : Keyword) (middle : List Char) {last : List Char} (hlast : Tight last)
      (hne : last ≠ []) : Tight (style.spell keyword ++ middle ++ last) :=
    (style.tight_spell keyword).append (style.spell_ne_nil keyword) middle hlast hne
  cases line with
  | say expression =>
    simpa [body] using hspell .say [' '] expression.tight expression.toList_ne_nil
  | assign name expression =>
    simpa [body] using (tight_of_isWord name.isWord).append name.toList_ne_nil [' ', '=', ' ']
      expression.tight expression.toList_ne_nil
  | address command =>
    have hquote : Tight ['"'] := tight_of_forall (by simp)
    simpa [body] using hspell .address
      (' ' :: (style.spell .slides ++ ' ' :: '"' :: command.text.toList)) hquote (by simp)
  | ifThen condition =>
    simpa [body] using hspell .ifBlock (' ' :: (condition.text.toList ++ [' ']))
      (style.tight_spell .thenBlock) (style.spell_ne_nil .thenBlock)
  | doLoop name first last =>
    simpa [body] using hspell .doBlock
      (' ' :: (name.text.toList ++ ' ' :: '=' :: ' ' ::
        (first.text.toList ++ ' ' :: (style.spell .toBound ++ [' ']))))
      last.tight last.toList_ne_nil
  | endBlock => exact style.tight_spell .endBlock

/-- Indentation disappears under trimming. -/
theorem trim_print (style : LineStyle) (line : ProgramLine) :
    trim (line.print style).toList = line.body style := by
  rw [print, String.toList_ofList, trim_append_of_blanks style.indent_isBlank,
    trim_eq_self (line.tight_body style)]

/-- How a line starts: with a keyword, or with a name that looks like none. -/
theorem leadingWord_print (style : LineStyle) (line : ProgramLine) (text : String)
    (htext : trim text.toList = line.body style) :
    match line with
    | say _ => leadingWord text = "SAY"
    | assign _ _ => leadingWord text ∉ reservedWords
    | address _ => leadingWord text = "ADDRESS"
    | ifThen _ => leadingWord text = "IF"
    | doLoop _ _ _ => leadingWord text = "DO"
    | endBlock => leadingWord text = "END" := by
  cases line with
  | say expression => exact leadingWord_spell style .say _ htext (by simp)
  | assign name expression => exact leadingWord_name name htext (by simp)
  | address command => exact leadingWord_spell style .address _ htext (by simp)
  | ifThen condition => exact leadingWord_spell style .ifBlock _ htext (by simp)
  | doLoop name first last => exact leadingWord_spell style .doBlock _ htext (by simp)
  | endBlock =>
    exact leadingWord_spell style .endBlock [] (by simpa [body] using htext) (by simp)

/-- Whether the line opens a block. -/
def opens : ProgramLine → Bool
  | ifThen _ => true
  | doLoop _ _ _ => true
  | _ => false

/-- Whether the line closes a block. -/
def closes : ProgramLine → Bool
  | endBlock => true
  | _ => false

theorem opensBlock_print (style : LineStyle) (line : ProgramLine) :
    opensBlock (line.print style) = line.opens := by
  have hword := leadingWord_print style line _ (line.trim_print style)
  cases line <;> simp only at hword <;>
    simp_all [opensBlock, blockOpeners, opens, reservedWords]

theorem closesBlock_print (style : LineStyle) (line : ProgramLine) :
    closesBlock (line.print style) = line.closes := by
  have hword := leadingWord_print style line _ (line.trim_print style)
  cases line <;> simp only at hword <;>
    simp_all [closesBlock, closes, reservedWords]

/-- A printed line is no comment: it starts with a letter or another character of a word. -/
theorem not_comment (style : LineStyle) (line : ProgramLine) :
    lineComment.isPrefixOf (line.body style) = false ∧
      blockComment.isPrefixOf (line.body style) = false := by
  obtain ⟨c, rest, hbody, hc⟩ : ∃ c rest, line.body style = c :: rest ∧ isWord c = true := by
    have hfirst {word : List Char} (hne : word ≠ []) (hword : ∀ c ∈ word, isWord c = true)
        (rest : List Char) : ∃ c rest', word ++ rest = c :: rest' ∧ isWord c = true := by
      obtain ⟨c, word, rfl⟩ := List.exists_cons_of_ne_nil hne
      exact ⟨c, word ++ rest, rfl, hword c (List.mem_cons_self ..)⟩
    have hspell (keyword : Keyword) := hfirst (style.spell_ne_nil keyword)
      fun _ hc => style.isWord_of_mem_spell keyword hc
    cases line with
    | say expression => exact hspell .say _
    | assign name expression => exact hfirst name.toList_ne_nil name.isWord _
    | address command => exact hspell .address _
    | ifThen condition => exact hspell .ifBlock _
    | doLoop name first last => exact hspell .doBlock _
    | endBlock => simpa [body] using hspell .endBlock []
  have hdash : c ≠ '-' := by rintro rfl; exact absurd hc (by decide)
  have hslash : c ≠ '/' := by rintro rfl; exact absurd hc (by decide)
  simp [hbody, lineComment, blockComment, List.isPrefixOf, hdash.symm, hslash.symm]

/-- The lines that open and close blocks are no assignments. -/
theorem assign?_body_eq_none (style : LineStyle) {line : ProgramLine}
    (hblock : line.opens = true ∨ line.closes = true) : assign? (line.body style) = none := by
  have hspell (keyword : Keyword) (rest : List Char) (hrest : ∀ c ∈ rest.head?, isWord c = false)
      (hsign : (trimLeft rest).head? ≠ some '=') : assign? (style.spell keyword ++ rest) = none :=
    assign?_eq_none (fun _ hc => style.isWord_of_mem_spell keyword hc) hrest hsign
  have hspace {first : List Char} (htight : Tight first) (hne : first ≠ []) (rest : List Char) :
      (trimLeft (' ' :: (first ++ rest))).head? = first.head? := by
    rw [← List.singleton_append, trimLeft_append_of_blanks (by simp),
      trimLeft_eq_self (htight.head?_append hne rest), List.head?_append_of_ne_nil _ hne]
  cases line with
  | ifThen condition =>
    refine hspell .ifBlock _ (by simp) ?_
    rw [hspace condition.tight condition.toList_ne_nil]
    exact condition.notAssignment
  | doLoop name first last =>
    refine hspell .doBlock _ (by simp) ?_
    rw [hspace (tight_of_isWord name.isWord) name.toList_ne_nil]
    intro hhead
    have := name.isWord _ (List.mem_of_mem_head? hhead)
    exact absurd this (by decide)
  | endBlock => simpa [body] using hspell .endBlock [] (by simp) (by simp [trimLeft])
  | say | assign | address => simp [opens, closes] at hblock

/-- **Printed lines are recognised.**  In any spelling and under any indentation, a line is read
back as the statement it was printed from. -/
theorem ofLine_print (style : LineStyle) (line : ProgramLine) :
    Statement.ofLine (trimmed (line.print style)) = line.statement := by
  have htext : trimmed (line.print style) = String.ofList (line.body style) := by
    rw [trimmed, trim_print]
  have hword := leadingWord_print style line (String.ofList (line.body style))
    (by rw [String.toList_ofList, trim_eq_self (line.tight_body style)])
  have hnone := line.assign?_body_eq_none style
  obtain ⟨hline, hblock⟩ := line.not_comment style
  rw [htext, Statement.ofLine, String.toList_ofList]
  simp only [hline, hblock, Bool.false_eq_true, if_false]
  cases line with
  | say expression =>
    have hdrop : (style.spell .say ++ ' ' :: expression.text.toList).drop 3 =
        ' ' :: expression.text.toList := List.drop_left' (style.length_spell .say)
    have htrim : trim (' ' :: expression.text.toList) = expression.text.toList := by
      rw [← List.singleton_append, trim_append_of_blanks (by simp), trim_eq_self expression.tight]
    simp only at hword
    rw [hword, if_pos rfl, body, hdrop, htrim, String.ofList_toList]
    rfl
  | assign name expression =>
    simp only [reservedWords, List.mem_cons, not_or] at hword
    simp only [hword.1, hword.2.1, if_false]
    rw [body, assign?_print]
    rfl
  | address command =>
    simp only at hword
    rw [hword, if_neg (by decide), if_pos rfl, body, address?_print]
    rfl
  | ifThen condition =>
    simp only at hword
    simp only [hword, hnone (Or.inl rfl)]
    rw [body, ifThen?_print]
    rfl
  | doLoop name first last =>
    simp only at hword
    simp only [hword, hnone (Or.inl rfl)]
    rw [body, doLoop?_print]
    rfl
  | endBlock =>
    simp only at hword
    simp only [hword, hnone (Or.inr rfl)]
    rfl

end ProgramLine

end DeckScript.Script
