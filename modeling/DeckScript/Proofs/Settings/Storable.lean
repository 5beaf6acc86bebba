import DeckScript.Proofs.Script.Program
import DeckScript.Proofs.Table
import DeckScript.Proofs.Text.Lowercase
import DeckScript.Settings.Basic

/-!
# Documents that a file can hold

Not every document survives being written and read.  A name with an equals sign would be
cut there, a hash would start a comment, and a name in brackets would be a header.
`Document.Storable` says what a document needs: names and values without such characters,
names in lower case, the lines of a value without blanks around them, and no line that a
setting is written on is a header.

Changes to a document keep this if their texts are harmless (`Change`), and they are never
refused.
-/

namespace DeckScript.Settings

open Text

/-! ## Headers -/

theorem beforeLastBracket?_eq_none_iff {cs : List Char} :
    beforeLastBracket? cs = none ↔ ']' ∉ cs := by
  induction cs with
  | nil => simp [beforeLastBracket?]
  | cons c cs ih =>
    rw [beforeLastBracket?, List.mem_cons, not_or, ← ih]
    cases beforeLastBracket? cs with
    | some inner => simp
    | none =>
      by_cases hc : c = ']'
      · simp [hc]
      · simp [hc, Ne.symm hc]

/-- A line is a header if it starts with a bracket and has a closing one, but not right after the
opening one and nowhere else. -/
theorem header?_eq_none_iff {cs : List Char} :
    header? cs = none ↔ ∀ rest, cs = '[' :: rest → ']' ∉ rest.tail := by
  constructor
  · rintro hnone rest rfl
    cases rest with
    | nil => simp
    | cons c rest =>
      rw [List.tail_cons, ← beforeLastBracket?_eq_none_iff]
      cases hinner : beforeLastBracket? rest with
      | none => rfl
      | some inner => simp [header?, beforeLastBracket?, hinner] at hnone
  · intro hrest
    unfold header?
    split
    · next rest =>
      have hbracket := hrest rest rfl
      cases rest with
      | nil => rfl
      | cons c rest =>
        have hnone : beforeLastBracket? rest = none := beforeLastBracket?_eq_none_iff.2 hbracket
        rw [beforeLastBracket?, hnone]
        by_cases hc : c = ']' <;> simp [hc]
    · rfl

/-- The start of a line that is no header is none either. -/
theorem header?_eq_none_of_prefix {start cs : List Char} (hstart : start <+: cs)
    (hnone : header? cs = none) : header? start = none := by
  obtain ⟨more, rfl⟩ := hstart
  rw [header?_eq_none_iff] at hnone ⊢
  rintro rest rfl hbracket
  refine hnone (rest ++ more) rfl ?_
  cases rest with
  | nil => cases hbracket
  | cons c rest => exact List.mem_append_left _ hbracket

theorem header?_of_head?_ne {cs : List Char} (hhead : cs.head? ≠ some '[') : header? cs = none := by
  rw [header?_eq_none_iff]
  rintro rest rfl
  exact absurd rfl hhead

/-- A bracket at the beginning is the same in lower case. -/
theorem header?_lower_append {name : List Char} (hne : name ≠ []) (hhead : name.head? ≠ some '[')
    (rest : List Char) : header? (lower name ++ rest) = none := by
  refine header?_of_head?_ne ?_
  rw [List.head?_append_of_ne_nil _ (mt lower_eq_nil_iff.1 hne)]
  intro hbracket
  exact hhead (Case.mem_head?_lowerAfter hbracket (by decide))

theorem beforeLastBracket?_concat (cs : List Char) :
    beforeLastBracket? (cs ++ [']']) = some cs := by
  induction cs with
  | nil => rfl
  | cons c cs ih => rw [List.cons_append, beforeLastBracket?, ih]

/-- The name in a header is read back. -/
theorem header?_brackets {name : List Char} (hne : name ≠ []) :
    header? ('[' :: (name ++ [']'])) = some name := by
  obtain ⟨c, rest, rfl⟩ := List.exists_cons_of_ne_nil hne
  rw [header?, beforeLastBracket?_concat]

theorem mem_of_beforeLastBracket? {cs inner : List Char} (h : beforeLastBracket? cs = some inner) :
    ∀ c ∈ inner, c ∈ cs := by
  induction cs generalizing inner with
  | nil => cases h
  | cons c cs ih =>
    rw [beforeLastBracket?] at h
    split at h
    · next inner' hinner =>
      cases h
      intro d hd
      exact (List.mem_cons.1 hd).elim (fun heq => heq ▸ List.mem_cons_self ..)
        fun hd => List.mem_cons_of_mem _ (ih hinner d hd)
    · split at h
      · cases h
        intro d hd
        cases hd
      · cases h

theorem mem_of_header? {cs name : List Char} (h : header? cs = some name) :
    name ≠ [] ∧ ∀ c ∈ name, c ∈ cs := by
  unfold header? at h
  split at h
  · next rest =>
    split at h
    · cases h
    · next hname =>
      refine ⟨?_, fun c hc => List.mem_cons_of_mem _ (mem_of_beforeLastBracket? h c hc)⟩
      rintro rfl
      exact hname h
  · cases h

/-! ## Storable texts -/

/-- A text without line ends and without characters that start comments. -/
def Plain (cs : List Char) : Prop :=
  ∀ c ∈ cs, c ∉ ['\n', '\r', '#', ';']

instance (cs : List Char) : Decidable (Plain cs) :=
  decidable_of_iff ((cs.all fun c => decide (c ∉ ['\n', '\r', '#', ';'])) = true) (by simp [Plain])

theorem Plain.mono {cs ds : List Char} (hcs : Plain cs) (hsubset : ∀ c ∈ ds, c ∈ cs) : Plain ds :=
  fun c hc => hcs c (hsubset c hc)

theorem Plain.lower {cs : List Char} (hcs : Plain cs) : Plain (lower cs) := by
  intro c hc hbreaks
  have hcodes : ∀ c ∈ ['\n', '\r', '#', ';'], isStructural c = true :=
    List.all_eq_true.1 (by decide)
  exact hcs c (mem_of_mem_lower hc (hcodes c hbreaks)) hbreaks

theorem Plain.oneLine {cs : List Char} (hcs : Plain cs) : '\n' ∉ cs :=
  fun hmem => hcs '\n' hmem (by decide)

/-- A name that a setting can have in a file. -/
structure StorableName (name : List Char) : Prop where
  ne_nil : name ≠ []
  tight : Tight name
  plain : Plain name
  uncut : '=' ∉ name ∧ ':' ∉ name
  lower_eq : lower name = name

/-- A name becomes storable in lower case. -/
theorem StorableName.of_lower {name : List Char} (hne : name ≠ []) (htight : Tight name)
    (hplain : Plain name) (huncut : '=' ∉ name ∧ ':' ∉ name) :
    StorableName (lower name) where
  ne_nil := mt lower_eq_nil_iff.1 hne
  tight := htight.lower
  plain := hplain.lower
  uncut :=
    ⟨fun hequals => huncut.1 (mem_of_mem_lower hequals (by decide)),
      fun hcolon => huncut.2 (mem_of_mem_lower hcolon (by decide))⟩
  lower_eq := lower_lower name

/-- What stands between the name and the value of a setting. -/
def equalsSign : List Char := [' ', '=', ' ']

/-- Lines that a setting of the given name can have in a file. -/
structure StorableLines (name : String) (lines : List (List Char)) : Prop where
  isName : StorableName name.toList
  line : ∀ line ∈ lines, Tight line ∧ Plain line
  noHeader : ∃ first ∈ lines.head?, header? (name.toList ++ equalsSign ++ first) = none

/-- A value that a setting of the given name can have in a file. -/
structure StorableSetting (name value : String) : Prop where
  lines : StorableLines name (Script.cutLines value.toList)
  trimmed : trimRight value.toList = value.toList

/-- A name that a section can have in a file. -/
structure StorablePlace (name : String) : Prop where
  ne_empty : name ≠ ""
  ne_default : name ≠ Document.defaultName
  plain : Plain name.toList

/-- A document that a file can hold. -/
structure Storable (document : Document) : Prop where
  defaults : document.defaults.Every StorableSetting
  sections : document.sections.Every fun name settings =>
    StorablePlace name ∧ settings.Every StorableSetting

theorem Storable.empty : Storable {} :=
  ⟨.empty _, .empty _⟩

/-! ## Changes -/

/-- A change of a setting to a value without line ends, comments and references. -/
structure Change where
  place : String
  name : String
  value : String
  isPlace : StorablePlace place
  name_ne_empty : name ≠ ""
  name_trimmed : trimmed name = name
  name_plain : Plain name.toList
  name_uncut : '=' ∉ name.toList ∧ ':' ∉ name.toList
  name_noBracket : name.toList.head? ≠ some '['
  value_trimmed : trimmed value = value
  value_plain : Plain value.toList
  value_noPercent : '%' ∉ value.toList

/-- Makes the changes one after the other. -/
def setAll : List Change → Attempt Settings SettingsError Unit
  | [] => pure ()
  | change :: rest => do
    set change.place change.name change.value
    setAll rest

theorem dropEscapes_eq_self {cs : List Char} (hcs : '%' ∉ cs) : dropEscapes cs = cs := by
  fun_induction dropEscapes cs with
  | case1 => rfl
  | case2 cs ih => exact absurd (List.mem_cons_self ..) hcs
  | case3 c cs _ ih => rw [ih fun h => hcs (List.mem_cons_of_mem _ h)]

theorem dropReferences_eq_self {cs : List Char} (hcs : '%' ∉ cs) : dropReferences cs = cs := by
  fun_induction dropReferences cs with
  | case1 => rfl
  | case2 => exact absurd (List.mem_cons_self ..) hcs
  | case3 => exact absurd (List.mem_cons_self ..) hcs
  | case4 c cs _ ih => rw [ih fun h => hcs (List.mem_cons_of_mem _ h)]

theorem checkValue_eq_ok {value : String} (hvalue : '%' ∉ value.toList) :
    checkValue value = .ok () := by
  have hnone : value.toList.findIdx? (· == '%') = none := by
    rw [List.findIdx?_eq_none_iff]
    rintro c hc
    rw [beq_eq_false_iff_ne]
    rintro rfl
    exact hvalue hc
  rw [checkValue, dropEscapes_eq_self hvalue, dropReferences_eq_self hvalue, hnone]

namespace Change

variable (change : Change) {settings : Settings}

theorem name_ne_nil : change.name.toList ≠ [] := by
  simpa using change.name_ne_empty

/-- What the change writes can be stored. -/
theorem storableSetting : StorableSetting (lowercase change.name) change.value := by
  have htight := tight_of_trimmed change.value_trimmed
  have hcut := Script.cutLines_eq_singleton change.value_plain.oneLine
  refine ⟨⟨?_, ?_, change.value.toList, ?_, ?_⟩, trimRight_eq_self htight.2⟩
  · rw [toList_lowercase]
    exact .of_lower change.name_ne_nil (tight_of_trimmed change.name_trimmed) change.name_plain
      change.name_uncut
  · rw [hcut]
    intro line hline
    rw [List.mem_singleton.1 hline]
    exact ⟨htight, change.value_plain⟩
  · rw [hcut]
    rfl
  · rw [toList_lowercase, List.append_assoc]
    exact header?_lower_append change.name_ne_nil change.name_noBracket _

theorem run_ensureSection (hstorable : Storable settings.document) :
    ∃ next own, (ensureSection change.place).run settings = (.ok (), next) ∧
      next.document.sections.get? change.place = some own ∧ Storable next.document := by
  rw [ensureSection, Attempt.run_bind, Attempt.run_get]
  dsimp only
  rw [Document.hasSection, Table.contains]
  cases hown : settings.document.sections.get? change.place with
  | some own => exact ⟨settings, own, rfl, hown, hstorable⟩
  | none =>
    rw [if_neg (by simp), if_neg change.isPlace.ne_default]
    refine ⟨_, .empty, rfl, by simp, hstorable.defaults, ?_⟩
    exact hstorable.sections.insert ⟨change.isPlace, .empty _⟩

/-- The document with the change made in a section that is there. -/
theorem storable_put {document : Document} {own : Table String} (hstorable : Storable document)
    (hown : document.sections.get? change.place = some own) :
    Storable (put change.place (lowercase change.name) change.value document) := by
  have hplace : change.place.isEmpty = false := by
    simpa using change.isPlace.ne_empty
  have hsettings := (hstorable.sections.get? hown).2.insert change.storableSetting
  rw [put, hplace, hown]
  exact ⟨hstorable.defaults, hstorable.sections.insert ⟨change.isPlace, hsettings⟩⟩

/-- A change is made, and the document can still be stored. -/
theorem run_set (hstorable : Storable settings.document) :
    ∃ next, (set change.place change.name change.value).run settings = (.ok (), next) ∧
      Storable next.document := by
  obtain ⟨middle, own, hrun, hown, hmiddle⟩ := change.run_ensureSection hstorable
  have hput := change.storable_put hmiddle hown
  generalize hdocument : put change.place (lowercase change.name) change.value middle.document =
    document at hput
  refine ⟨⟨document, some document.write⟩, ?_, hput⟩
  rw [set, Attempt.run_bind, hrun, checkValue_eq_ok change.value_noPercent, ← hdocument]
  rfl

end Change

/-- All changes are made, and the document can still be stored. -/
theorem run_setAll (changes : List Change) {settings : Settings}
    (hstorable : Storable settings.document) :
    ∃ next, (setAll changes).run settings = (.ok (), next) ∧ Storable next.document := by
  induction changes generalizing settings with
  | nil => exact ⟨settings, rfl, hstorable⟩
  | cons first rest ih =>
    obtain ⟨middle, hrun, hmiddle⟩ := first.run_set hstorable
    obtain ⟨next, hrest, hnext⟩ := ih hmiddle
    refine ⟨next, ?_, hnext⟩
    rw [setAll, Attempt.run_bind, hrun]
    exact hrest

end DeckScript.Settings
