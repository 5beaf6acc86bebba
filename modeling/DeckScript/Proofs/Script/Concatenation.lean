import Mathlib.Data.List.Forall2
import Mathlib.Data.List.Infix
import DeckScript.Proofs.Number.Pattern
import DeckScript.Proofs.Text.Pieces
import DeckScript.Proofs.Value.Moderate

/-!
# Joined operands

An expression is not cut into tokens.  Its text as a whole is compared with the forms of
a literal, a number and a variable, and only then cut at every `||`.  A `Chain` is a text
put together from operands on purpose: literals, numbers and names with `||` and any
blanks between them.  Its value is what its operands print, one after the other
(`evaluate_chain`), so neither do the earlier forms take hold of the whole text, nor does
a cut fall anywhere but at an operator that was meant.

Operands are expressions in turn.  `evaluateWithin` evaluates them as such, down to a
given depth, and one level is enough for every text: what stands between two cuts has no
operator of its own (`not_hasOperator_of_mem_operands`).
-/

namespace DeckScript.Script.Expression

open Text

/-! ## Cutting -/

/-- Somewhere in the text stands an operator. -/
def HasOperator (cs : List Char) : Prop :=
  joinOperator.toList <:+: cs

instance (cs : List Char) : Decidable (HasOperator cs) :=
  inferInstanceAs (Decidable (joinOperator.toList <:+: cs))

theorem toList_joinOperator : joinOperator.toList = ['|', '|'] := rfl

theorem not_hasOperator_nil : ¬HasOperator [] := by
  decide

theorem hasOperator_cons_iff {c : Char} {cs : List Char} :
    HasOperator (c :: cs) ↔ c = '|' ∧ cs.head? = some '|' ∨ HasOperator cs := by
  have hstart : joinOperator.toList <+: c :: cs ↔ c = '|' ∧ cs.head? = some '|' := by
    rw [toList_joinOperator, List.cons_prefix_cons, List.singleton_prefix_iff_head?_eq_some]
    exact and_congr_left fun _ => eq_comm
  rw [HasOperator, List.infix_cons_iff, hstart]
  rfl

/-- An operator lies on one side of any other character. -/
theorem hasOperator_append_cons_iff {c : Char} (hc : c ≠ '|') {first second : List Char} :
    HasOperator (first ++ c :: second) ↔ HasOperator first ∨ HasOperator second := by
  induction first with
  | nil => simp [hasOperator_cons_iff, hc, not_hasOperator_nil]
  | cons d first ih =>
    have hhead : (first ++ c :: second).head? = some '|' ↔ first.head? = some '|' := by
      cases first with
      | nil => simp [hc]
      | cons => rfl
    rw [List.cons_append, hasOperator_cons_iff, hasOperator_cons_iff, ih, hhead, or_assoc]

/-- One bar alone makes no operator. -/
theorem not_hasOperator_concat_of_notMem {cs : List Char} (hcs : '|' ∉ cs) :
    ¬HasOperator (cs ++ ['|']) := by
  induction cs with
  | nil => decide
  | cons c cs ih =>
    rw [List.mem_cons, not_or] at hcs
    rw [List.cons_append, hasOperator_cons_iff]
    rintro (⟨hc, -⟩ | hoperator)
    · exact hcs.1 hc.symm
    · exact ih hcs.2 hoperator

theorem operands_ne_nil (cs : List Char) : operands cs ≠ [] := by
  fun_cases operands cs <;> simp

theorem operands_cons {c : Char} {cs : List Char} (hcs : ¬(c = '|' ∧ cs.head? = some '|')) :
    ∃ operand rest, operands cs = operand :: rest ∧
      operands (c :: cs) = (c :: operand) :: rest := by
  obtain ⟨operand, rest, hoperands⟩ := List.exists_cons_of_ne_nil (operands_ne_nil cs)
  refine ⟨operand, rest, hoperands, ?_⟩
  rw [operands]
  · simp only [hoperands]
  · rintro more rfl rfl
    exact hcs ⟨rfl, rfl⟩

/-- A cut is made at the first operator. -/
theorem operands_append {operand : List Char} (hoperand : ¬HasOperator (operand ++ ['|']))
    (rest : List Char) : operands (operand ++ '|' :: '|' :: rest) = operand :: operands rest := by
  induction operand with
  | nil => rfl
  | cons c operand ih =>
    rw [List.cons_append, hasOperator_cons_iff, not_or] at hoperand
    have hhead : (operand ++ '|' :: '|' :: rest).head? = (operand ++ ['|']).head? := by
      cases operand <;> rfl
    rw [← hhead] at hoperand
    obtain ⟨first, others, hfirst, hoperands⟩ := operands_cons hoperand.1
    rw [ih hoperand.2] at hfirst
    cases hfirst
    rw [List.cons_append, hoperands]

theorem operands_eq_singleton {cs : List Char} (hcs : ¬HasOperator cs) : operands cs = [cs] := by
  induction cs with
  | nil => rfl
  | cons c cs ih =>
    rw [hasOperator_cons_iff, not_or] at hcs
    obtain ⟨first, others, hfirst, hoperands⟩ := operands_cons hcs.1
    rw [ih hcs.2] at hfirst
    cases hfirst
    exact hoperands

/-- The first operand starts as the text does. -/
theorem head?_of_operands_eq_cons {cs operand : List Char} {rest : List (List Char)}
    (hoperands : operands cs = operand :: rest) : ∀ c ∈ operand.head?, cs.head? = some c := by
  intro c hc
  cases cs with
  | nil =>
    cases hoperands
    cases hc
  | cons d cs =>
    by_cases hbars : d = '|' ∧ cs.head? = some '|'
    · obtain ⟨rfl, hhead⟩ := hbars
      cases cs with
      | nil => cases hhead
      | cons e cs =>
        cases hhead
        cases hoperands
        cases hc
    · obtain ⟨first, others, -, hcons⟩ := operands_cons hbars
      cases hcons.symm.trans hoperands
      exact hc

/-- No operand has an operator of its own. -/
theorem not_hasOperator_of_mem_operands (cs : List Char) :
    ∀ operand ∈ operands cs, ¬HasOperator operand := by
  fun_induction operands cs with
  | case1 => exact List.forall_mem_singleton.2 not_hasOperator_nil
  | case2 cs ih => exact List.forall_mem_cons.2 ⟨not_hasOperator_nil, ih⟩
  | case3 c cs _ hnil => exact absurd hnil (operands_ne_nil cs)
  | case4 c cs hbars first rest hcons ih =>
    rw [hcons, List.forall_mem_cons] at ih
    refine List.forall_mem_cons.2 ⟨?_, ih.2⟩
    rw [hasOperator_cons_iff]
    rintro (⟨hc, hhead⟩ | hoperator)
    · have hcs := head?_of_operands_eq_cons hcons _ hhead
      obtain ⟨more, hmore⟩ := List.head?_eq_some_iff.1 hcs
      exact hbars more hc hmore
    · exact ih.1 hoperator

/-- Nothing but the operators is lost in cutting. -/
theorem intercalate_operands (cs : List Char) :
    List.intercalate joinOperator.toList (operands cs) = cs := by
  fun_induction operands cs with
  | case1 => rfl
  | case2 cs ih =>
    obtain ⟨first, rest, hcons⟩ := List.exists_cons_of_ne_nil (operands_ne_nil cs)
    rw [hcons] at ih ⊢
    rw [List.intercalate_cons_cons, ih, toList_joinOperator]
    rfl
  | case3 c cs _ hnil => exact absurd hnil (operands_ne_nil cs)
  | case4 c cs hbars first rest hcons ih =>
    rw [hcons] at ih
    cases rest with
    | nil =>
      rw [List.intercalate_singleton] at ih ⊢
      rw [ih]
    | cons second rest =>
      rw [List.intercalate_cons_cons] at ih ⊢
      rw [← ih]
      simp only [List.cons_append]

/-- A text with an operator has at least two operands. -/
theorem exists_operands_of_hasOperator {cs : List Char} (hcs : HasOperator cs) :
    ∃ first second rest, operands cs = first :: second :: rest := by
  obtain ⟨first, rest, hcons⟩ := List.exists_cons_of_ne_nil (operands_ne_nil cs)
  cases rest with
  | cons second rest => exact ⟨first, second, rest, hcons⟩
  | nil =>
    have hwhole := intercalate_operands cs
    rw [hcons, List.intercalate_singleton] at hwhole
    subst hwhole
    exact absurd hcs (not_hasOperator_of_mem_operands _ _ (hcons ▸ List.mem_singleton_self _))

/-! ## Operands as they are written -/

/-- An operand that can stand between operators. -/
inductive Operand where
  /-- A text between quotes of one kind; quotes of the other may be part of it. -/
  | literal (quote : Char) (content : List Char) (isQuote : quote = '"' ∨ quote = '\x27')
      (unquoted : quote ∉ content) (uncut : ¬HasOperator content)
  | number (numeral : List Char) (isNumeral : Numeral.IsNumeral numeral)
  | name (word : List Char) (ne_nil : word ≠ []) (isWord : ∀ c ∈ word, isWord c = true)

namespace Operand

/-- The operand as it is written. -/
def text : Operand → List Char
  | literal quote content _ _ _ => quote :: (content ++ [quote])
  | number numeral _ => numeral
  | name word _ _ => word

/-- What stands between the quotes of a literal. -/
def content? : Operand → Option (List Char)
  | literal _ content _ _ _ => some content
  | _ => none

theorem text_ne_nil (operand : Operand) : operand.text ≠ [] := by
  cases operand with
  | literal => exact List.cons_ne_nil _ _
  | number numeral isNumeral => exact isNumeral.ne_nil
  | name word ne_nil isWord => exact ne_nil

theorem tight_text (operand : Operand) : Tight operand.text := by
  cases operand with
  | literal quote content isQuote unquoted uncut =>
    have hquote : isBlank quote = false := by rcases isQuote with rfl | rfl <;> decide
    exact (tight_singleton hquote).append (by simp) content (tight_singleton hquote) (by simp)
  | number numeral isNumeral =>
    exact tight_of_forall fun c hc => (isNumeral.isPart c hc).isBlank_eq_false
  | name word ne_nil isWord => exact tight_of_isWord isWord

/-- The next cut after an operand falls at the operator that follows it. -/
theorem not_hasOperator_padded (operand : Operand) {before after : List Char}
    (hbefore : ∀ c ∈ before, isBlank c = true) (hafter : ∀ c ∈ after, isBlank c = true) :
    ¬HasOperator (before ++ operand.text ++ after ++ ['|']) := by
  have hgap {gap : List Char} (hgap : ∀ c ∈ gap, isBlank c = true) : '|' ∉ gap :=
    fun hbar => absurd (hgap _ hbar) (by decide)
  -- a number or a name has no bars at all
  have hplain {cs : List Char} (hcs : '|' ∉ cs) : ¬HasOperator (before ++ cs ++ after ++ ['|']) :=
    not_hasOperator_concat_of_notMem (by simp [hgap hbefore, hcs, hgap hafter])
  cases operand with
  | literal quote content isQuote unquoted uncut =>
    have hquote : quote ≠ '|' := by rcases isQuote with rfl | rfl <;> decide
    have hsplit : before ++ text (.literal quote content isQuote unquoted uncut) ++ after ++ ['|'] =
        before ++ quote :: (content ++ quote :: (after ++ ['|'])) := by
      simp [text]
    rw [hsplit, hasOperator_append_cons_iff hquote, hasOperator_append_cons_iff hquote]
    rintro (hoperator | hoperator | hoperator)
    · exact not_hasOperator_concat_of_notMem (hgap hbefore)
        (hoperator.trans (List.infix_append' [] _ _))
    · exact uncut hoperator
    · exact not_hasOperator_concat_of_notMem (hgap hafter) hoperator
  | number numeral isNumeral =>
    exact hplain fun hbar => absurd (isNumeral.isPart _ hbar) (by decide)
  | name word ne_nil isWord => exact hplain fun hbar => absurd (isWord _ hbar) (by decide)

theorem not_hasOperator_indented (operand : Operand) {gap : List Char}
    (hgap : ∀ c ∈ gap, isBlank c = true) : ¬HasOperator (gap ++ operand.text) := by
  have hpadded := @not_hasOperator_padded operand gap [] hgap (by simp)
  rw [List.append_nil] at hpadded
  exact fun hoperator => hpadded (hoperator.trans (List.prefix_append _ _).isInfix)

end Operand

/-! ## The value of an operand -/

theorem closedBy?_append {quote : Char} {content : List Char} (hcontent : quote ∉ content)
    (rest : List Char) :
    closedBy? quote (content ++ quote :: rest) = if rest = [] then some content else none := by
  have hall : ∀ c ∈ content, (c != quote) = true := by
    intro c hc
    rw [bne_iff_ne]
    rintro rfl
    exact hcontent hc
  rw [closedBy?, List.dropWhile_append_of_pos hall, List.takeWhile_append_of_pos hall,
    List.dropWhile_cons_of_neg (by simp), List.takeWhile_cons_of_neg (by simp), List.append_nil]
  simp only [List.cons.injEq, true_and]

theorem literal?_cons_of_isQuote {quote : Char} (hquote : quote = '"' ∨ quote = '\x27')
    (cs : List Char) : literal? (quote :: cs) = closedBy? quote cs := by
  rcases hquote with rfl | rfl <;> rfl

theorem literal?_cons_of_ne {c : Char} (hc : ¬(c = '"' ∨ c = '\x27')) (cs : List Char) :
    literal? (c :: cs) = none := by
  rw [not_or] at hc
  unfold literal?
  split
  · next heq =>
    cases heq
    exact absurd rfl hc.1
  · next heq =>
    cases heq
    exact absurd rfl hc.2
  · rfl

/-- A text that starts with an operand and goes on is no literal: one that starts with a quote has
its second quote before the end. -/
theorem Operand.literal?_append (operand : Operand) {rest : List Char} (hrest : rest ≠ []) :
    literal? (operand.text ++ rest) = none := by
  have hplain {cs : List Char} (hne : cs ≠ []) (hcs : '"' ∉ cs ∧ '\x27' ∉ cs) :
      literal? (cs ++ rest) = none := by
    obtain ⟨c, cs, rfl⟩ := List.exists_cons_of_ne_nil hne
    refine literal?_cons_of_ne ?_ _
    rintro (rfl | rfl)
    · exact hcs.1 (List.mem_cons_self ..)
    · exact hcs.2 (List.mem_cons_self ..)
  cases operand with
  | literal quote content isQuote unquoted uncut =>
    rw [text, List.cons_append, literal?_cons_of_isQuote isQuote, List.append_assoc,
      List.singleton_append, closedBy?_append unquoted, if_neg hrest]
  | number numeral isNumeral =>
    refine hplain isNumeral.ne_nil ⟨fun hquote => ?_, fun hquote => ?_⟩
    · exact absurd (isNumeral.isPart _ hquote) (by decide)
    · exact absurd (isNumeral.isPart _ hquote) (by decide)
  | name word ne_nil isWord =>
    refine hplain ne_nil ⟨fun hquote => ?_, fun hquote => ?_⟩
    · exact absurd (isWord _ hquote) (by decide)
    · exact absurd (isWord _ hquote) (by decide)

/-- Blanks around an operand play no role. -/
theorem Operand.operandValue_padded (vars : Variables) (operand : Operand)
    {before after : List Char} (hbefore : ∀ c ∈ before, isBlank c = true)
    (hafter : ∀ c ∈ after, isBlank c = true) :
    operandValue vars (before ++ operand.text ++ after) = operandValue vars operand.text := by
  unfold operandValue
  rw [trim_between_blanks hbefore hafter]

theorem operandValue_literal (vars : Variables) {quote : Char} {content : List Char}
    (isQuote : quote = '"' ∨ quote = '\x27') (unquoted : quote ∉ content)
    (uncut : ¬HasOperator content) :
    operandValue vars (Operand.literal quote content isQuote unquoted uncut).text =
      .text (String.ofList content) := by
  have hliteral : literal? (quote :: (content ++ [quote])) = some content := by
    rw [literal?_cons_of_isQuote isQuote, closedBy?_append unquoted, if_pos rfl]
  rw [operandValue, trim_eq_self (Operand.tight_text _)]
  simp only [Operand.text, atom?, hliteral, Option.getD_some]

/-- Without an operator an expression is one operand. -/
theorem evaluate_eq_operandValue (vars : Variables) {cs : List Char} (hcs : ¬HasOperator cs) :
    evaluate vars (String.ofList cs) = .ok (operandValue vars cs) := by
  have htrim : ¬HasOperator (trim cs) := fun hoperator => hcs (hoperator.trans (trim_isInfix cs))
  rw [evaluate, operandValue, String.toList_ofList, operands_eq_singleton htrim]
  cases atom? vars (trim cs) with
  | some value => rfl
  | none => rfl

/-- Operands can be printed if the integers among the variables can. -/
theorem isWritable_operandValue {vars : Variables}
    (hvars : ∀ name value, vars.get? name = some value → value.isWritable = true)
    (cs : List Char) : (operandValue vars cs).isWritable = true := by
  unfold operandValue
  dsimp only
  cases hatom : atom? vars (trim cs) with
  | none => exact (Value.isModerate_text _).isWritable
  | some value =>
    unfold atom? at hatom
    split at hatom
    · cases hatom
      exact (Value.isModerate_text _).isWritable
    · split at hatom
      · next numeral hnumeral =>
        cases hatom
        exact (Numeral.isModerate_value hnumeral).isWritable
      · exact hvars _ _ hatom

/-! ## Chains of operands -/

/-- An operator with the blanks around it and the operand that follows. -/
structure Link where
  before : List Char
  after : List Char
  operand : Operand
  before_blank : ∀ c ∈ before, isBlank c = true
  after_blank : ∀ c ∈ after, isBlank c = true

/-- At least two operands, joined by operators, with blanks around each of them. -/
structure Chain where
  margin : List Char
  first : Operand
  links : List Link
  rest : List Char
  links_ne_nil : links ≠ []
  margin_blank : ∀ c ∈ margin, isBlank c = true
  rest_blank : ∀ c ∈ rest, isBlank c = true

namespace Chain

/-- Links as they are written. -/
def tail (links : List Link) : List Char :=
  links.flatMap fun link => link.before ++ '|' :: '|' :: (link.after ++ link.operand.text)

/-- The expression. -/
def text (chain : Chain) : String :=
  String.ofList (chain.margin ++ (chain.first.text ++ tail chain.links) ++ chain.rest)

/-- The operands in order. -/
def members (chain : Chain) : List Operand :=
  chain.first :: chain.links.map Link.operand

/-- What stands between the operators, up to the first one `ahead`. -/
def pieces (ahead : List Char) : List Link → List (List Char)
  | [] => [ahead]
  | link :: links => (ahead ++ link.before) :: pieces (link.after ++ link.operand.text) links

theorem tail_cons (link : Link) (links : List Link) :
    tail (link :: links) =
      link.before ++ '|' :: '|' :: (link.after ++ link.operand.text ++ tail links) := by
  simp [tail]

theorem operands_tail (operand : Operand) {gap : List Char} (hgap : ∀ c ∈ gap, isBlank c = true)
    (links : List Link) :
    operands (gap ++ operand.text ++ tail links) = pieces (gap ++ operand.text) links := by
  induction links generalizing operand gap with
  | nil =>
    rw [tail, List.flatMap_nil, pieces, List.append_nil]
    exact operands_eq_singleton (operand.not_hasOperator_indented hgap)
  | cons link links ih =>
    have hcut := operands_append (operand.not_hasOperator_padded hgap link.before_blank)
      (link.after ++ link.operand.text ++ tail links)
    rw [tail_cons, pieces, ← ih link.operand link.after_blank, ← hcut]
    simp only [List.append_assoc]

theorem map_operandValue_pieces (vars : Variables) (operand : Operand) {gap : List Char}
    (hgap : ∀ c ∈ gap, isBlank c = true) (links : List Link) :
    (pieces (gap ++ operand.text) links).map (operandValue vars) =
      (operand :: links.map Link.operand).map fun operand => operandValue vars operand.text := by
  induction links generalizing operand gap with
  | nil =>
    have hvalue := @Operand.operandValue_padded vars operand gap [] hgap (by simp)
    rw [List.append_nil] at hvalue
    simp only [pieces, List.map_cons, List.map_nil, hvalue]
  | cons link links ih =>
    rw [pieces, List.map_cons, ih link.operand link.after_blank,
      operand.operandValue_padded vars hgap link.before_blank]
    rfl

/-- No form but that of joined operands fits a chain. -/
theorem atom?_eq_none {vars : Variables}
    (hnames : ∀ name value, vars.get? name = some value → ∀ c ∈ name.toList, isWord c = true)
    (chain : Chain) : atom? vars (chain.first.text ++ tail chain.links) = none := by
  obtain ⟨link, links, hlinks⟩ := List.exists_cons_of_ne_nil chain.links_ne_nil
  have hbar : '|' ∈ chain.first.text ++ tail chain.links := by
    simp [hlinks, tail_cons]
  have hliteral : literal? (chain.first.text ++ tail chain.links) = none := by
    refine chain.first.literal?_append ?_
    simp [hlinks, tail_cons]
  have hnumber : Numeral.ofText? (chain.first.text ++ tail chain.links) = none := by
    rw [Option.eq_none_iff_forall_not_mem]
    intro numeral hnumeral
    obtain ⟨text, htext, hwhole⟩ := Numeral.exists_of_ofText? hnumeral
    have hpart : '|' ∈ text := by
      rcases hwhole with hwhole | hwhole
      · exact hwhole ▸ hbar
      · simpa [hwhole] using hbar
    exact absurd (htext.isPart _ hpart) (by decide)
  rw [atom?, hliteral, hnumber]
  dsimp only
  rw [Option.eq_none_iff_forall_not_mem]
  intro value hvalue
  have hword := hnames _ _ hvalue '|' (by rwa [String.toList_ofList])
  exact absurd hword (by decide)

end Chain

/-! ## Evaluating a chain -/

/-- What values print, one after the other. -/
def printAll (values : List Value) : Except NumberError String := do
  let texts ← values.mapM Value.display
  return String.join texts

theorem joined_eq_printAll (vars : Variables) (operands : List (List Char)) :
    joined vars operands = printAll (operands.map (operandValue vars)) := by
  induction operands with
  | nil => rfl
  | cons operand rest ih =>
    rw [joined, ih, List.map_cons, printAll, printAll, List.mapM_cons]
    simp only [bind_assoc, pure_bind, String.join_cons]

theorem printAll_eq_ok {values : List Value} {texts : List String}
    (h : List.Forall₂ (fun value text => value.display = .ok text) values texts) :
    printAll values = .ok (String.join texts) := by
  have hmapM : values.mapM Value.display = .ok texts := by
    induction h with
    | nil => rfl
    | cons hfirst _ ih =>
      rw [List.mapM_cons, hfirst, ih]
      rfl
  rw [printAll, hmapM]
  rfl

/-- An expression that has an operator and no other form is cut there. -/
theorem evaluate_eq_printAll {vars : Variables} {expression : String}
    (hatom : atom? vars (trim expression.toList) = none)
    (hoperator : HasOperator (trim expression.toList)) :
    evaluate vars expression =
      (printAll ((operands (trim expression.toList)).map (operandValue vars))).map .text := by
  obtain ⟨first, second, rest, hoperands⟩ := exists_operands_of_hasOperator hoperator
  rw [evaluate, hatom, ← joined_eq_printAll, hoperands]

/-- What an operand prints: the text of its value, which is the content of a literal as it
stands. -/
structure Prints (vars : Variables) (operand : Operand) (text : String) : Prop where
  display : ∃ value, evaluate vars (String.ofList operand.text) = .ok value ∧
    value.display = .ok text
  verbatim : ∀ content, operand.content? = some content → text = String.ofList content

theorem Operand.exists_prints {vars : Variables}
    (hvars : ∀ name value, vars.get? name = some value → value.isWritable = true)
    (operand : Operand) :
    ∃ text, Prints vars operand text ∧ (operandValue vars operand.text).display = .ok text := by
  have huncut : ¬HasOperator operand.text := @not_hasOperator_indented operand [] (by simp)
  have hdisplay : (operandValue vars operand.text).display =
      .ok (operandValue vars operand.text).displayText :=
    if_pos (isWritable_operandValue hvars _)
  refine ⟨_, ⟨⟨_, evaluate_eq_operandValue vars huncut, hdisplay⟩, ?_⟩, hdisplay⟩
  intro content hcontent
  cases operand with
  | literal quote content isQuote unquoted uncut =>
    cases hcontent
    rw [operandValue_literal]
    rfl
  | number => cases hcontent
  | name => cases hcontent

theorem Chain.trim_text (chain : Chain) :
    trim chain.text.toList = chain.first.text ++ tail chain.links := by
  -- the text ends with its last operand
  obtain ⟨links, last, hlinks⟩ : ∃ links last, chain.links = links ++ [last] :=
    ⟨_, _, (List.dropLast_append_getLast chain.links_ne_nil).symm⟩
  have htail : tail chain.links =
      tail links ++ last.before ++ '|' :: '|' :: last.after ++ last.operand.text := by
    simp [hlinks, tail]
  have htight : Tight (chain.first.text ++ tail chain.links) := by
    rw [htail, ← List.append_assoc]
    exact chain.first.tight_text.append chain.first.text_ne_nil _ last.operand.tight_text
      last.operand.text_ne_nil
  rw [text, String.toList_ofList, trim_between_blanks chain.margin_blank chain.rest_blank,
    trim_eq_self htight]

/-- A chain evaluates to what its operands print. -/
theorem Chain.evaluate_text {vars : Variables}
    (hnames : ∀ name value, vars.get? name = some value → ∀ c ∈ name.toList, isWord c = true)
    (hvars : ∀ name value, vars.get? name = some value → value.isWritable = true)
    (chain : Chain) :
    ∃ texts, List.Forall₂ (Prints vars) chain.members texts ∧
      evaluate vars chain.text = .ok (.text (String.join texts)) := by
  have hpieces := @operands_tail chain.first [] (by simp) chain.links
  have hvalues := @map_operandValue_pieces vars chain.first [] (by simp) chain.links
  rw [List.nil_append] at hpieces hvalues
  -- the operands one by one, with what each of them prints
  obtain ⟨texts, htexts⟩ : ∃ texts, List.Forall₂ (fun operand text => Prints vars operand text ∧
      (operandValue vars operand.text).display = .ok text) chain.members texts := by
    induction chain.members with
    | nil => exact ⟨[], .nil⟩
    | cons operand rest ih =>
      obtain ⟨text, htext⟩ := operand.exists_prints hvars
      obtain ⟨texts, htexts⟩ := ih
      exact ⟨text :: texts, .cons htext htexts⟩
  refine ⟨texts, htexts.imp fun _ _ h => h.1, ?_⟩
  have hoperator : HasOperator (trim chain.text.toList) := by
    obtain ⟨link, links, hlinks⟩ := List.exists_cons_of_ne_nil chain.links_ne_nil
    rw [chain.trim_text, hlinks, tail_cons, HasOperator, toList_joinOperator]
    exact ⟨chain.first.text ++ link.before, link.after ++ link.operand.text ++ tail links,
      by simp⟩
  have hprinted : printAll ((operands (trim chain.text.toList)).map (operandValue vars)) =
      .ok (String.join texts) := by
    rw [chain.trim_text, hpieces, hvalues]
    exact printAll_eq_ok (List.forall₂_map_left_iff.2 (htexts.imp fun _ _ h => h.2))
  rw [evaluate_eq_printAll (by rw [chain.trim_text]; exact chain.atom?_eq_none hnames) hoperator,
    hprinted]
  rfl

/-! ## Operands as expressions -/

/-- The value of an expression whose operands are evaluated as expressions in turn, down to the
given depth; `none` if there are operands beyond it. -/
def evaluateWithin (vars : Variables) : Nat → String → Option (Except NumberError Value)
  | depth, expression =>
    match atom? vars (trim expression.toList) with
    | some value => some (.ok value)
    | none =>
      if HasOperator (trim expression.toList) then
        match depth with
        | 0 => none
        | depth + 1 => do
          let values ← (operands (trim expression.toList)).mapM fun operand =>
            evaluateWithin vars depth (String.ofList operand)
          return do
            let values ← values.mapM id
            (printAll values).map .text
      else some (.ok (.text (String.ofList (trim expression.toList))))

theorem evaluateWithin_of_not_hasOperator (vars : Variables) (depth : Nat) {cs : List Char}
    (hcs : ¬HasOperator cs) :
    evaluateWithin vars depth (String.ofList cs) = some (.ok (operandValue vars cs)) := by
  have htrim : ¬HasOperator (trim cs) := fun hoperator => hcs (hoperator.trans (trim_isInfix cs))
  rw [evaluateWithin.eq_def, operandValue]
  dsimp only
  rw [String.toList_ofList]
  cases atom? vars (trim cs) with
  | some value => rfl
  | none =>
    dsimp only
    rw [if_neg htrim]
    rfl

theorem mapM_evaluateWithin (vars : Variables) (depth : Nat) {operands : List (List Char)}
    (hoperands : ∀ operand ∈ operands, ¬HasOperator operand) :
    (operands.mapM fun operand => evaluateWithin vars depth (String.ofList operand)) =
      some (operands.map fun operand => .ok (operandValue vars operand)) := by
  induction operands with
  | nil => rfl
  | cons operand rest ih =>
    rw [List.forall_mem_cons] at hoperands
    rw [List.mapM_cons, evaluateWithin_of_not_hasOperator vars depth hoperands.1, ih hoperands.2]
    rfl

theorem mapM_id_map_ok (vars : Variables) (operands : List (List Char)) :
    (operands.map fun operand => (.ok (operandValue vars operand) : Except NumberError Value)).mapM
      id = .ok (operands.map (operandValue vars)) := by
  induction operands with
  | nil => rfl
  | cons operand rest ih =>
    rw [List.map_cons, List.mapM_cons, ih]
    rfl

/-- One level is enough: operands have no operands of their own. -/
theorem evaluateWithin_one (vars : Variables) (expression : String) :
    evaluateWithin vars 1 expression = some (evaluate vars expression) := by
  rw [evaluateWithin]
  cases hatom : atom? vars (trim expression.toList) with
  | some value => rw [evaluate, hatom]
  | none =>
    dsimp only
    by_cases hoperator : HasOperator (trim expression.toList)
    · have hoperands := mapM_evaluateWithin vars 0
        (not_hasOperator_of_mem_operands (trim expression.toList))
      rw [if_pos hoperator, hoperands, evaluate_eq_printAll hatom hoperator]
      simp only [Option.bind_eq_bind, Option.bind_some, mapM_id_map_ok]
      rfl
    · have hone := operands_eq_singleton hoperator
      rw [if_neg hoperator, evaluate, hatom, hone]

/-! ## The main statement -/

/-- **Joining is homomorphic.**  If the names of variables are words and their integers can be
written, a chain of operands evaluates to what the operands print on their own, one after the
other, and a literal among them prints its content as it stands.  Whatever the expression, cutting
loses nothing but the operators and leaves none, so operands can be evaluated as expressions and
one level of this is enough. -/
theorem evaluate_chain (vars : Variables) :
    ((∀ name value, vars.get? name = some value →
        (∀ c ∈ name.toList, isWord c = true) ∧ value.isWritable = true) →
      ∀ chain : Chain, ∃ texts, List.Forall₂ (Prints vars) chain.members texts ∧
        evaluate vars chain.text = .ok (.text (String.join texts))) ∧
    ∀ expression : String,
      List.intercalate joinOperator.toList (operands (trim expression.toList)) =
          trim expression.toList ∧
        (∀ operand ∈ operands (trim expression.toList), ¬HasOperator operand) ∧
        evaluateWithin vars 1 expression = some (evaluate vars expression) := by
  constructor
  · intro hvars chain
    exact chain.evaluate_text (fun name value hvalue => (hvars name value hvalue).1)
      fun name value hvalue => (hvars name value hvalue).2
  · intro expression
    exact ⟨intercalate_operands _, not_hasOperator_of_mem_operands _,
      evaluateWithin_one vars expression⟩

/-- The variable `x`, which is 7. -/
def sevenVariable : Variables :=
  Table.empty.insert "x" (.int 7)

/-- The expression `'x |' ||x|| "it's"`. -/
def Chain.sample : Chain where
  margin := "".toList
  first := .literal '\x27' "x |".toList (by decide) (by decide) (by decide)
  links :=
    [⟨" ".toList, "".toList, .name ['x'] (by decide) (List.all_eq_true.1 (by decide)),
       List.all_eq_true.1 (by decide), List.all_eq_true.1 (by decide)⟩,
     ⟨"".toList, " ".toList, .literal '"' "it's".toList (by decide) (by decide) (by decide),
       List.all_eq_true.1 (by decide), List.all_eq_true.1 (by decide)⟩]
  rest := "".toList
  links_ne_nil := List.cons_ne_nil _ _
  margin_blank := List.all_eq_true.1 (by decide)
  rest_blank := List.all_eq_true.1 (by decide)

/-- The variable is replaced between the operators, and not in the literal. -/
theorem evaluate_chain_sample :
    evaluate sevenVariable "'x |' ||x|| \"it's\"" = .ok (.text "x |7it's") := by
  have hseven : (Value.int 7).IsModerate :=
    Value.isModerate_int (Number.lt_writeLimit (n := 1) (by decide) (by decide))
  have hvars (name : String) (value : Value) (hvalue : sevenVariable.get? name = some value) :
      (∀ c ∈ name.toList, isWord c = true) ∧ value.isWritable = true := by
    rw [sevenVariable, Table.get?_insert] at hvalue
    split at hvalue
    · next hname =>
      cases hvalue
      exact ⟨hname ▸ List.all_eq_true.1 (by decide), hseven.isWritable⟩
    · cases hvalue
  have htext : Chain.sample.text = "'x |' ||x|| \"it's\"" := by decide
  obtain ⟨texts, hprints, hvalue⟩ := (evaluate_chain sevenVariable).1 hvars Chain.sample
  simp only [Chain.sample, Chain.members, List.map_cons, List.map_nil,
    List.forall₂_cons_left_iff, List.forall₂_nil_left_iff] at hprints
  obtain ⟨first, _, hfirst, ⟨second, _, hsecond, ⟨third, _, hthird, rfl, rfl⟩, rfl⟩, rfl⟩ := hprints
  obtain ⟨value, hevaluate, hdisplay⟩ := hsecond.display
  have hx : evaluate sevenVariable (String.ofList ['x']) = .ok (.int 7) := by
    rw [evaluate_eq_operandValue _ (by decide)]
    rfl
  obtain rfl : Value.int 7 = value := Except.ok.inj (hx.symm.trans hevaluate)
  obtain rfl : (Value.int 7).displayText = second :=
    Except.ok.inj (hseven.display.symm.trans hdisplay)
  rw [← htext, hvalue, hfirst.verbatim _ rfl, hthird.verbatim _ rfl]
  rfl

end DeckScript.Script.Expression
