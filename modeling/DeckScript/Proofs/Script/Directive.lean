import Mathlib.Data.List.Forall2
import DeckScript.Proofs.Script.Levels
import DeckScript.Proofs.Script.Recognition

/-!
# Directives and their address

A line and the router both accept the address of the slides in any letter case, but each
has its own notion of it.  The line compares letters, and there the long s is an S and the
dotless and the dotted i are both an I.  The router compares upper-case forms, and the
capital dotted I is its own upper-case form.

So the two agree on every address but the one with a dot on its I.  `ofLine_eq_address_iff`
says which lines are directives, `Directive.target_eq` which address they have, and
`route_of_ofLine_address` puts these together: the router runs the command of a directive
unless the address is dotted, and then it knows no such address.
-/

namespace DeckScript.Script

open Text Statement

/-! ## Letters in upper case -/

theorem upperChar_of_sameLetter {letter c : Char} (hletter : letter.isUpper = true)
    (hsame : sameLetter letter c = true) (hdot : c ≠ 'İ') : Case.upperChar c = [letter] := by
  simp only [sameLetter, Bool.or_eq_true, Bool.and_eq_true, beq_iff_eq] at hsame
  rcases hsame with (rfl | ⟨rfl, rfl⟩) | ⟨rfl, rfl | rfl⟩
  · exact if_pos (toNat_lt_of_isAlpha (isAlpha_of_isUpper_toUpper hletter))
  · decide +kernel
  · decide +kernel
  · exact absurd rfl hdot

/-- The capital dotted I counts as an I and as no other letter. -/
theorem eq_of_sameLetter_dotted {letter : Char} (hletter : letter.isUpper = true)
    (hsame : sameLetter letter 'İ' = true) : letter = 'I' := by
  simp only [sameLetter, Bool.or_eq_true, Bool.and_eq_true, beq_iff_eq] at hsame
  rcases hsame with (rfl | ⟨-, hlong⟩) | ⟨rfl, -⟩
  · exact absurd hletter (by decide)
  · exact absurd hlong (by decide)
  · rfl

namespace Spells

variable {letters word : List Char}

theorem dotted_notMem (hword : Spells letters word) (hletters : ∀ c ∈ letters, c.isUpper = true)
    (hI : 'I' ∉ letters) : 'İ' ∉ word := by
  induction hword with
  | nil => exact List.not_mem_nil
  | cons hsame _ ih =>
    rw [List.forall_mem_cons] at hletters
    rw [List.mem_cons, not_or] at hI ⊢
    refine ⟨?_, ih hletters.2 hI.2⟩
    rintro rfl
    exact hI.1 (eq_of_sameLetter_dotted hletters.1 hsame).symm

theorem upper_eq (hword : Spells letters word) (hletters : ∀ c ∈ letters, c.isUpper = true)
    (hdot : 'İ' ∉ word) : upper word = letters := by
  induction hword with
  | nil => rfl
  | cons hsame _ ih =>
    rw [List.forall_mem_cons] at hletters
    rw [List.mem_cons, not_or] at hdot
    have hrest := ih hletters.2 hdot.2
    rw [upper] at hrest ⊢
    rw [List.flatMap_cons, upperChar_of_sameLetter hletters.1 hsame (Ne.symm hdot.1), hrest]
    rfl

end Spells

/-! ## Directives as they are written -/

/-- A line that sends a command to the slides. -/
structure Directive where
  keyword : List Char
  gap : List Char
  address : List Char
  margin : List Char
  command : List Char
  rest : List Char
  keyword_spells : Spells (Keyword.letters .address) keyword
  gap_isGap : IsGap gap
  address_spells : Spells (Keyword.letters .slides) address
  margin_isGap : IsGap margin
  command_ne_nil : command ≠ []
  command_unquoted : '"' ∉ command

namespace Directive

/-- The line; whatever follows the closing quote belongs to it. -/
def text (directive : Directive) : String :=
  String.ofList (directive.keyword ++ (directive.gap ++ (directive.address ++
    (directive.margin ++ '"' :: (directive.command ++ '"' :: directive.rest)))))

/-- The address that the line is read with. -/
def target (directive : Directive) : String :=
  String.ofList (upper directive.address)

/-- The I of the address is written with a dot. -/
def IsDotted (directive : Directive) : Prop :=
  'İ' ∈ directive.address

instance (directive : Directive) : Decidable directive.IsDotted :=
  inferInstanceAs (Decidable ('İ' ∈ directive.address))

variable (directive : Directive)

theorem isWord_keyword : ∀ c ∈ directive.keyword, isWord c = true :=
  directive.keyword_spells.isWord (Keyword.isUpper_letters _)

theorem isWord_address : ∀ c ∈ directive.address, isWord c = true :=
  directive.address_spells.isWord (Keyword.isUpper_letters _)

/-- The line starts with a letter of ASCII. -/
theorem exists_keyword_eq_cons : ∃ c word, directive.keyword = c :: word ∧ c.isAlpha = true := by
  obtain ⟨c, word, hsame, -, hkeyword⟩ := List.forall₂_cons_left_iff.1 directive.keyword_spells
  have hcapital : c.toUpper = 'A' := toUpper_of_sameLetter (by decide) hsame
  exact ⟨c, word, hkeyword, isAlpha_of_isUpper_toUpper (by rw [hcapital]; decide)⟩

theorem leadingWord_text : leadingWord directive.text = "ADDRESS" := by
  obtain ⟨c, word, hkeyword, hc⟩ := directive.exists_keyword_eq_cons
  have hword : ∀ d ∈ c :: word, isWord d = true := hkeyword ▸ directive.isWord_keyword
  obtain ⟨blank, gap, hgap⟩ := List.exists_cons_of_ne_nil directive.gap_isGap.ne_nil
  have hblank : isBlank blank = true := directive.gap_isGap.isBlank _ (by simp [hgap])
  have hupper : upper (c :: word) = Keyword.letters .address := by
    rw [← hkeyword]
    refine directive.keyword_spells.upper_eq (Keyword.isUpper_letters _) ?_
    exact directive.keyword_spells.dotted_notMem (Keyword.isUpper_letters _) (by decide)
  -- trimming goes no further than the closing quote
  have htrim : trim directive.text.toList = c :: word ++ (blank :: gap ++ (directive.address ++
      (directive.margin ++ '"' :: (directive.command ++ '"' :: trimRight directive.rest)))) := by
    have hleft : trimLeft directive.text.toList = directive.text.toList := by
      rw [text, String.toList_ofList, hkeyword]
      exact trimLeft_eq_self fun d hd => by
        cases hd
        exact isBlank_eq_false_of_isWord (hword _ (List.mem_cons_self ..))
    have hright := trimRight_append_cons isBlank_quote (directive.keyword ++ (directive.gap ++
      (directive.address ++ (directive.margin ++ '"' :: directive.command)))) directive.rest
    rw [trim, hleft, text, String.toList_ofList, ← hkeyword, ← hgap]
    simpa only [List.append_assoc, List.cons_append] using hright
  rw [leadingWord_eq htrim (List.forall_mem_cons.1 hword).2, hupper, hc]
  · rfl
  · intro d hd
    cases hd
    exact isWord_eq_false_of_isBlank hblank

theorem address?_text :
    address? directive.text.toList =
      some (.address directive.target (String.ofList directive.command)) := by
  have hlength : directive.address.length = 6 := by
    rw [← directive.address_spells.length_eq]
    rfl
  have hhead (rest : List Char) : ∀ c ∈ (directive.address ++ rest).head?, isBlank c = false := by
    refine (tight_of_isWord directive.isWord_address).head?_append ?_ rest
    rw [← List.length_pos_iff, hlength]
    decide
  have hkeyword (rest : List Char) :
      afterLetters? ['A', 'D', 'D', 'R', 'E', 'S', 'S'] (directive.keyword ++ rest) = some rest :=
    afterLetters?_eq_some_iff.2 ⟨_, directive.keyword_spells, rfl⟩
  have haddress (rest : List Char) :
      afterLetters? ['S', 'L', 'I', 'D', 'E', 'S'] (directive.address ++ rest) = some rest :=
    afterLetters?_eq_some_iff.2 ⟨_, directive.address_spells, rfl⟩
  have hall : ∀ c ∈ directive.command, (c != '"') = true := by
    intro c hc
    rw [bne_iff_ne]
    rintro rfl
    exact directive.command_unquoted hc
  have htake (rest : List Char) : (directive.address ++ rest).take 6 = directive.address :=
    List.take_left' hlength
  have hcommand : (directive.command ++ '"' :: directive.rest).takeWhile (· != '"') =
      directive.command := by
    rw [List.takeWhile_append_of_pos hall, List.takeWhile_cons_of_neg (by simp), List.append_nil]
  have hclosing : (directive.command ++ '"' :: directive.rest).dropWhile (· != '"') ≠ [] := by
    rw [List.dropWhile_append_of_pos hall, List.dropWhile_cons_of_neg (by simp)]
    exact List.cons_ne_nil _ _
  rw [text, String.toList_ofList, address?, hkeyword, Option.bind_some,
    afterBlanks?_append directive.gap_isGap (hhead _)]
  simp only [haddress, Option.bind_some, htake]
  rw [afterBlanks?_append directive.margin_isGap fun c hc => by cases hc; exact isBlank_quote]
  simp only [hcommand]
  rw [if_pos ⟨directive.command_ne_nil, hclosing⟩]
  rfl

end Directive

/-- What a line has to look like to be read as a directive. -/
theorem exists_directive_of_address? {line : String} {statement : Statement}
    (hline : address? line.toList = some statement) :
    ∃ directive : Directive, line = directive.text ∧
      statement = .address directive.target (String.ofList directive.command) := by
  unfold address? at hline
  split at hline
  · cases hline
  · next rest hrest =>
    split at hline
    · next quoted hquoted =>
      dsimp only at hline
      split at hline
      · next hcommand =>
        obtain ⟨afterKeyword, hkeyword, hgap⟩ := Option.bind_eq_some_iff.1 hrest
        obtain ⟨afterAddress, haddress, hmargin⟩ := Option.bind_eq_some_iff.1 hquoted
        obtain ⟨keyword, keyword_spells, hline'⟩ := afterLetters?_eq_some_iff.1 hkeyword
        obtain ⟨gap, gap_isGap, rfl, -⟩ := afterBlanks?_eq_some_iff.1 hgap
        obtain ⟨address, address_spells, rfl⟩ := afterLetters?_eq_some_iff.1 haddress
        obtain ⟨margin, margin_isGap, rfl, -⟩ := afterBlanks?_eq_some_iff.1 hmargin
        -- the first quote after the opening one closes the command
        obtain ⟨closing, after, hafter⟩ := List.exists_cons_of_ne_nil hcommand.2
        obtain rfl : closing = '"' := by
          have hclosing := List.head?_dropWhile_not (· != '"') quoted
          rw [hafter, List.head?_cons] at hclosing
          simpa using hclosing
        have hsplit : quoted = quoted.takeWhile (· != '"') ++ '"' :: after := by
          rw [← hafter, List.takeWhile_append_dropWhile]
        have hunquoted : '"' ∉ quoted.takeWhile (· != '"') := by
          intro hquote
          exact absurd (List.mem_takeWhile_imp hquote) (by simp)
        refine ⟨⟨keyword, gap, address, margin, _, after, keyword_spells, gap_isGap,
          address_spells, margin_isGap, hcommand.1, hunquoted⟩, ?_, ?_⟩
        · rw [Directive.text, ← hsplit, ← hline', String.ofList_toList]
        · have htake : (address ++ (margin ++ '"' :: quoted)).take 6 = address :=
            List.take_left' address_spells.length_eq.symm
          cases hline
          rw [htake, Directive.target]
      · cases hline
    · cases hline

theorem address?_of_ofLine {line target command : String}
    (hline : ofLine line = .address target command) :
    address? line.toList = some (.address target command) := by
  unfold ofLine at hline
  dsimp only at hline
  split at hline
  · cases hline
  · split at hline
    · cases hline
    · split at hline
      · cases hline
      · split at hline
        · cases haddress : address? line.toList with
          | none =>
            rw [haddress] at hline
            cases hline
          | some statement =>
            rw [haddress] at hline
            exact congrArg some hline
        · next hother =>
          -- no other leading word makes a directive
          exfalso
          split at hline
          · next statement hassign =>
            unfold assign? at hassign
            split at hassign
            · cases hassign
            · obtain ⟨body, -, rfl⟩ := Option.map_eq_some_iff.1 hassign
              cases hline
          · split at hline
            · next hword =>
              have hkind := ofWord_ifThen? hword
              rw [hline] at hkind
              cases hkind with
              | address _ _ haddress => exact hother haddress
            · split at hline
              · next hword =>
                have hkind := ofWord_doLoop? hword
                rw [hline] at hkind
                cases hkind with
                | address _ _ haddress => exact hother haddress
              · split at hline
                · cases hline
                · cases hline

/-- The directives are the lines of that form. -/
theorem ofLine_eq_address_iff {line target command : String} :
    Statement.ofLine line = .address target command ↔
      ∃ directive : Directive, line = directive.text ∧ target = directive.target ∧
        command = String.ofList directive.command := by
  constructor
  · intro hline
    have haddress := address?_of_ofLine hline
    obtain ⟨directive, hdirective, heq⟩ := exists_directive_of_address? haddress
    cases heq
    exact ⟨directive, hdirective, rfl, rfl⟩
  · rintro ⟨directive, rfl, rfl, rfl⟩
    obtain ⟨c, word, hkeyword, hc⟩ := directive.exists_keyword_eq_cons
    have hmark (mark : Char) (hmark : mark.isAlpha = false) (rest : List Char) :
        (mark :: rest).isPrefixOf directive.text.toList = false := by
      have hne : mark ≠ c := fun heq => by
        rw [heq, hc] at hmark
        cases hmark
      rw [Directive.text, String.toList_ofList, hkeyword, List.cons_append,
        List.isPrefixOf_cons_cons, beq_false_of_ne hne, Bool.false_and]
    rw [Statement.ofLine, lineComment, hmark '-' (by decide), blockComment,
      hmark '/' (by decide), directive.leadingWord_text, directive.address?_text]
    rfl

/-! ## Routing -/

/-- The address with a dot on its I. -/
def dottedAddress : String := "SLİDES"

theorem Directive.target_eq (directive : Directive) :
    directive.target = if directive.IsDotted then dottedAddress else slidesAddress := by
  -- the I stands between letters that cannot be dotted
  obtain ⟨first, c, last, hfirst, hc, hlast, haddress⟩ : ∃ first c last,
      Spells ['S', 'L'] first ∧ sameLetter 'I' c = true ∧ Spells ['D', 'E', 'S'] last ∧
        directive.address = first ++ c :: last := by
    obtain ⟨c, last, hc, hlast, hrest⟩ :=
      List.forall₂_cons_left_iff.1 (List.forall₂_drop 2 directive.address_spells)
    refine ⟨_, c, last, List.forall₂_take 2 directive.address_spells, hc, hlast, ?_⟩
    rw [← hrest, List.take_append_drop]
  have hletters {letters : List Char} (hcapitals : letters.all Char.isUpper = true) :
      ∀ c ∈ letters, c.isUpper = true := List.all_eq_true.1 hcapitals
  have hfirst' := hfirst.dotted_notMem (hletters (by decide)) (by decide)
  have hlast' := hlast.dotted_notMem (hletters (by decide)) (by decide)
  have hdotted : directive.IsDotted ↔ c = 'İ' := by
    rw [IsDotted, haddress, List.mem_append, List.mem_cons]
    simp only [hfirst', hlast', false_or, or_false, eq_comm]
  have hupper : upper directive.address =
      ['S', 'L'] ++ (Case.upperChar c ++ ['D', 'E', 'S']) := by
    rw [haddress, upper_append, hfirst.upper_eq (hletters (by decide)) hfirst', upper,
      List.flatMap_cons, ← upper, hlast.upper_eq (hletters (by decide)) hlast']
  rw [target, hupper]
  by_cases hdot : c = 'İ'
  · subst hdot
    rw [if_pos (hdotted.2 rfl)]
    decide +kernel
  · rw [if_neg fun h => hdot (hdotted.1 h), upperChar_of_sameLetter (by decide) hc hdot]
    rfl

section

variable {σ : Type} (run : String → σ → CommandResult × σ) (command : String) (state : σ)

theorem route_slidesAddress : route (some run) slidesAddress command state = run command state :=
  if_pos (by decide)

theorem route_dottedAddress :
    route (some run) dottedAddress command state =
      (.failure .unknown ("Unknown address: " ++ dottedAddress), state) :=
  if_neg (by decide +kernel)

end

/-- **A directive is run unless its address is dotted.**  A line that is read as a directive has
the address of the slides between its keyword and its command, in letters of any case.  Unless the I
is written as `İ`, the router hands the command to `run` as it stands between the quotes; if it is,
the router knows no such address, and `run` is not called. -/
theorem route_of_ofLine_address {line target command : String}
    (hline : Statement.ofLine line = .address target command) {σ : Type}
    (run : String → σ → CommandResult × σ) (state : σ) :
    ∃ directive : Directive, line = directive.text ∧ command = String.ofList directive.command ∧
      (¬directive.IsDotted → target = slidesAddress ∧
        route (some run) target command state = run command state) ∧
      (directive.IsDotted → target = dottedAddress ∧
        route (some run) target command state =
          (.failure .unknown ("Unknown address: " ++ dottedAddress), state)) := by
  obtain ⟨directive, hdirective, htarget, hcommand⟩ := ofLine_eq_address_iff.1 hline
  rw [directive.target_eq] at htarget
  refine ⟨directive, hdirective, hcommand, ?_, ?_⟩
  · intro hplain
    rw [if_neg hplain] at htarget
    refine ⟨htarget, ?_⟩
    rw [htarget, route_slidesAddress]
  · intro hdotted
    rw [if_pos hdotted] at htarget
    refine ⟨htarget, ?_⟩
    rw [htarget, route_dottedAddress]

/-- A `run` that counts its calls. -/
def countCalls (command : String) (calls : Nat) : CommandResult × Nat :=
  (.ok command, calls + 1)

/-- The long s and the dotless i are no obstacle. -/
theorem route_of_ofLine_address_plain :
    Statement.ofLine "address ſlıdes  \"list-slides\"" = .address slidesAddress "list-slides" ∧
      route (some countCalls) slidesAddress "list-slides" 0 = (.ok "list-slides", 1) := by
  have hline : Statement.ofLine "address ſlıdes  \"list-slides\"" =
      .address slidesAddress "list-slides" := by
    decide +kernel
  obtain ⟨directive, -, -, hplain, hdotted⟩ := route_of_ofLine_address hline countCalls 0
  have hnot : ¬directive.IsDotted := fun h => absurd (hdotted h).1 (by decide)
  exact ⟨hline, (hplain hnot).2⟩

/-- The command of a directive with a dotted address does not reach `run`. -/
theorem not_forall_route_of_ofLine_address :
    ¬∀ line target command, Statement.ofLine line = .address target command →
      ∀ (run : String → Nat → CommandResult × Nat) (calls : Nat),
        route (some run) target command calls = run command calls := by
  intro hall
  have hline : Statement.ofLine "ADDRESS SLİDES \"list-slides\"" =
      .address dottedAddress "list-slides" := by
    decide +kernel
  have hrun := hall _ _ _ hline countCalls 0
  rw [route_dottedAddress] at hrun
  exact absurd (congrArg Prod.snd hrun) (by decide)

end DeckScript.Script
