import DeckScript.Proofs.Settings.RefusedChange
import DeckScript.Proofs.Settings.RoundTrip

/-!
# Changed settings after loading them again

A change is checked for percent signs but not for marks of comments, and its value is
written as it is.  Loaded again, the value ends where a comment starts: it is the same
exactly if none of its marks is free (`get?_load_set`).

Whether the file can be loaded again is up to the names that were there before.  A free mark
in one of them was passed over because of a comment further on in its line, and comments are
not saved, so `ClearNames` asks for names without free marks.
-/

namespace DeckScript.Settings

open Text

/-! ## Texts without references -/

theorem pieces_of_notMem {cs : List Char} (hcs : '%' ∉ cs) : pieces cs = cs.map .char := by
  fun_induction pieces cs with
  | case1 => rfl
  | case2 cs ih => exact absurd (List.mem_cons_self ..) hcs
  | case3 cs name rest htail ih => exact absurd (List.mem_cons_self ..) hcs
  | case4 cs htail => exact absurd (List.mem_cons_self ..) hcs
  | case5 cs _ _ => exact absurd (List.mem_cons_self ..) hcs
  | case6 c cs _ _ _ ih => rw [ih fun h => hcs (List.mem_cons_of_mem _ h), List.map_cons]

theorem expandPieces_chars (scope : Scope) (expandText : String → Except SettingsError (List Char))
    (cs : List Char) : expandPieces scope expandText (cs.map .char) = .ok cs := by
  induction cs with
  | nil => rfl
  | cons c cs ih =>
    rw [List.map_cons, expandPieces, ih]
    rfl

/-- A text without percent signs is looked up as it is. -/
theorem get?_of_raw? {settings : Settings} {place name text : String}
    (hraw : settings.document.raw? place (lowercase name) = some text)
    (htext : '%' ∉ text.toList) : settings.get? place name = .ok (some text) := by
  have hexpand (scope : Scope) (levels : Nat) :
      expand scope (levels + 1) text = .ok text.toList := by
    rw [expand, pieces_of_notMem htext, expandPieces_chars]
  simp only [get?, hraw, expanded, scope, referenceLevels, hexpand, Except.map,
    String.ofList_toList]

/-! ## The document after a change -/

/-- The setting is written in its section, which is there or comes last. -/
theorem put_withSection {place : String} (hne : place ≠ "") (option value : String)
    (document : Document) :
    put place option value (document.withSection place) =
      { document with
        sections := document.sections.insert place
          (((document.sections.get? place).getD .empty).insert option value) } := by
  have hplace : place.isEmpty = false := by simpa using hne
  rw [put, hplace, Document.get?_withSection]
  dsimp only
  unfold Document.withSection
  split
  · rfl
  · rw [Table.insert_insert]

theorem raw?_put_withSection {place : String} (hne : place ≠ "") (option value : String)
    (document : Document) :
    (put place option value (document.withSection place)).raw? place option = some value := by
  rw [put_withSection hne]
  simp [Document.raw?, Document.ownSettings?]

theorem Restorable.put_withSection {document : Document} (hrestorable : Restorable document)
    {place option value : String} (hplace : RestorablePlace place)
    (hsetting : RestorableSetting option value) :
    Restorable (put place option value (document.withSection place)) := by
  have hown : ((document.sections.get? place).getD .empty).Every RestorableSetting := by
    cases hget : document.sections.get? place with
    | none => exact .empty _
    | some own => exact (hrestorable.sections.get? hget).2
  rw [Settings.put_withSection hplace.legible.ne_empty]
  exact ⟨hrestorable.defaults, hrestorable.sections.insert ⟨hplace, hown.insert hsetting⟩⟩

/-! ## What is left of a setting -/

theorem get?_rereadSettings (settings : Table String) (name : String) :
    (rereadSettings settings).get? name = (settings.get? name).map (rereadValue name) := by
  obtain ⟨entries⟩ := settings
  show Table.findEntry name (entries.map _) = (Table.findEntry name entries).map _
  induction entries with
  | nil => rfl
  | cons setting rest ih =>
    by_cases hname : setting.1 = name
    · simp [Table.findEntry, hname]
    · simp [Table.findEntry, hname, ih]

/-- A setting that is left was there before. -/
theorem raw?_reread (document : Document) (place option : String) :
    (reread document).raw? place option =
      (document.raw? place option).map (rereadValue option) := by
  have hown : (reread document).ownSettings? place =
      (document.ownSettings? place).map rereadSettings := by
    rw [Document.ownSettings?, Document.ownSettings?, reread, Table.get?_map]
    cases document.sections.get? place with
    | some own => rfl
    | none =>
      dsimp only [Option.map_none]
      split <;> rfl
  rw [Document.raw?, Document.raw?, hown]
  cases document.ownSettings? place with
  | none => rfl
  | some own =>
    dsimp only [Option.map_some]
    rw [get?_rereadSettings]
    cases own.get? option with
    | some value => rfl
    | none => exact get?_rereadSettings document.defaults option

/-- A beginning of a value in one line is left, and all of it only if no mark is free. -/
theorem RestorableSetting.rereadValue_spec {name value : String}
    (hsetting : RestorableSetting name value) (honeLine : '\n' ∉ value.toList) :
    (rereadValue name value).toList <+: value.toList ∧
      (rereadValue name value = value ↔ isClear true value.toList = true) := by
  have hcut := Script.cutLines_eq_singleton honeLine
  have hlines := hsetting.legible.lines
  have hvalue : Tight value.toList := (hlines.line _ (by rw [hcut]; simp)).1
  obtain ⟨hbegins, htight, hwhole⟩ := rereadFirst_spec hlines.isName hsetting.clear hvalue
  have hreread : (rereadValue name value).toList = rereadFirst name.toList value.toList := by
    rw [rereadValue, hcut, String.toList_ofList]
    exact trimRight_eq_self htight.2
  rw [← String.toList_inj, hreread]
  exact ⟨hbegins, hwhole⟩

/-! ## Words -/

/-- A word: letters, digits and underscores, and at least one of them. -/
structure Word (text : String) : Prop where
  ne_empty : text ≠ ""
  isWord : ∀ c ∈ text.toList, isWord c = true

instance (text : String) : Decidable (Word text) :=
  decidable_of_iff (text ≠ "" ∧ text.toList.all isWord = true)
    ⟨fun h => ⟨h.1, List.all_eq_true.1 h.2⟩, fun h => ⟨h.ne_empty, List.all_eq_true.2 h.isWord⟩⟩

namespace Word

variable {text : String}

theorem notMem (hword : Word text) {c : Char} (hc : Text.isWord c = false) : c ∉ text.toList := by
  intro hmem
  rw [hword.isWord c hmem] at hc
  cases hc

theorem plain (hword : Word text) : Plain text.toList := by
  intro c hc hbreaks
  have hcodes : ['\n', '\r', '#', ';'].any Text.isWord = false := by decide
  exact hword.notMem (by simpa using List.any_eq_false.1 hcodes c hbreaks) hc

theorem restorablePlace (hword : Word text) (hdefault : text ≠ Document.defaultName) :
    RestorablePlace text :=
  StorablePlace.restorable ⟨hword.ne_empty, hdefault, hword.plain⟩

/-- A word can name a setting, whatever marks are in the value. -/
theorem restorableSetting (hword : Word text) {value : String} (hvalue : trimmed value = value)
    (honeLine : OneLine value.toList) : RestorableSetting (lowercase text) value := by
  have hne : text.toList ≠ [] := by simpa using hword.ne_empty
  have hname : StorableName (lower text.toList) :=
    .of_lower hne (tight_of_isWord hword.isWord) hword.plain
      ⟨hword.notMem (by decide), hword.notMem (by decide)⟩
  have hbracket : text.toList.head? ≠ some '[' := fun hhead =>
    hword.notMem (by decide) (List.mem_of_mem_head? hhead)
  have htight := tight_of_trimmed hvalue
  have hcut := Script.cutLines_eq_singleton honeLine.1
  rw [← toList_lowercase] at hname
  refine ⟨⟨⟨hname.legible, ?_, value.toList, ?_, ?_⟩, trimRight_eq_self htight.2⟩,
    hname.plain.isClear true⟩
  · rw [hcut]
    intro line hline
    rw [List.mem_singleton.1 hline]
    exact ⟨htight, honeLine⟩
  · rw [hcut]
    rfl
  · rw [toList_lowercase, List.append_assoc]
    exact header?_lower_append hne hbracket _

end Word

/-! ## Loading again -/

/-- No mark in a name would start a comment in the line that the name is written on. -/
structure ClearNames (document : Document) : Prop where
  defaults : ∀ name ∈ document.defaults.names, isClear true name.toList = true
  sections : ∀ entry ∈ document.sections.entries, isClear false entry.1.toList = true ∧
    ∀ name ∈ entry.2.names, isClear true name.toList = true

theorem legible_of_load {file : Option String} {settings : Settings}
    (hload : load file = .ok settings) : Legible settings.document := by
  cases file with
  | none =>
    cases hload
    exact .empty
  | some text =>
    rw [load] at hload
    cases hread : read text with
    | error error => rw [hread] at hload; cases hload
    | ok document =>
      rw [hread] at hload
      cases hload
      exact legible_of_read hread

theorem Legible.restorable {document : Document} (hlegible : Legible document)
    (hclear : ClearNames document) : Restorable document := by
  have hrestorable {settings : Table String} (hsettings : settings.Every LegibleSetting)
      (hnames : ∀ name ∈ settings.names, isClear true name.toList = true) :
      settings.Every RestorableSetting :=
    ⟨hsettings.nodup, fun setting hsetting =>
      ⟨hsettings.holds setting hsetting, hnames _ (List.mem_map_of_mem hsetting)⟩⟩
  refine ⟨hrestorable hlegible.defaults hclear.defaults, hlegible.sections.nodup, ?_⟩
  intro entry hentry
  obtain ⟨hplace, hsettings⟩ := hlegible.sections.holds entry hentry
  obtain ⟨hname, hnames⟩ := hclear.sections entry hentry
  exact ⟨⟨hplace, hname⟩, hrestorable hsettings hnames⟩

section

variable {settings : Settings} {place name value : String}

/-- A change is made, and what is left of the value is looked up after loading it again. -/
theorem exists_run_set (hrestorable : Restorable settings.document) (hplace : RestorablePlace place)
    (hsetting : RestorableSetting (lowercase name) value) (honeLine : '\n' ∉ value.toList)
    (hpercent : '%' ∉ value.toList) :
    ∃ changed reloaded, (set place name value).run settings = (.ok (), changed) ∧
      changed.get? place name = .ok (some value) ∧ load changed.file = .ok reloaded ∧
      reloaded.get? place name = .ok (some (rereadValue (lowercase name) value)) := by
  have hchanged := hrestorable.put_withSection hplace hsetting
  have hraw := raw?_put_withSection hplace.legible.ne_empty (lowercase name) value settings.document
  have hset := run_set settings place name value
  rw [if_neg fun hreserved => hplace.legible.ne_default hreserved.2,
    checkValue_eq_ok hpercent] at hset
  dsimp only at hset
  generalize put place (lowercase name) value (settings.document.withSection place) = document
    at hchanged hraw hset
  refine ⟨_, ⟨reread document, some document.write⟩, hset, get?_of_raw? hraw hpercent, ?_, ?_⟩
  · rw [load, hchanged.read_write]
    rfl
  · apply get?_of_raw?
    · rw [raw?_reread, hraw]
      rfl
    · exact fun hmem => hpercent ((hsetting.rereadValue_spec honeLine).1.subset hmem)

/-- **A changed setting after loading it again.**  Settings are loaded from a file, or from none,
and a setting is changed to a text in one line without percent signs.  The change is made, and the
file can be loaded again if no mark of a name in it is free.  What is then looked up is a
beginning of the text, and all of it exactly if none of its marks is at its beginning or after a
blank. -/
theorem get?_load_set {file : Option String} (hload : load file = .ok settings)
    (hclear : ClearNames settings.document) (hplace : Word place)
    (hdefault : place ≠ Document.defaultName) (hname : Word name) (hvalue : trimmed value = value)
    (honeLine : OneLine value.toList) (hpercent : '%' ∉ value.toList) :
    ∃ changed reloaded left,
      (set place name value).run settings = (.ok (), changed) ∧
      changed.get? place name = .ok (some value) ∧
      load changed.file = .ok reloaded ∧
      reloaded.get? place name = .ok (some left) ∧
      left.toList <+: value.toList ∧ (left = value ↔ isClear true value.toList = true) := by
  have hsetting := hname.restorableSetting hvalue honeLine
  obtain ⟨changed, reloaded, hset, hget, hreload, hleft⟩ :=
    exists_run_set ((legible_of_load hload).restorable hclear) (hplace.restorablePlace hdefault)
      hsetting honeLine.1 hpercent
  obtain ⟨hbegins, hwhole⟩ := hsetting.rereadValue_spec honeLine.1
  exact ⟨changed, reloaded, _, hset, hget, hreload, hleft, hbegins, hwhole⟩

end

/-- A hash that follows a letter is kept. -/
theorem get?_load_set_hash :
    load (some stemFile) = .ok stemSettings ∧
      ∃ changed reloaded,
        (set "COMMANDS" "Neu" "C# slide").run stemSettings = (.ok (), changed) ∧
        load changed.file = .ok reloaded ∧
        reloaded.get? "COMMANDS" "Neu" = .ok (some "C# slide") := by
  have hclear : ClearNames stemSettings.document := ⟨by decide, by decide⟩
  have hplace : Word "COMMANDS" := by decide
  have hname : Word "Neu" := by decide
  have hvalue : trimmed "C# slide" = "C# slide" := by decide
  obtain ⟨changed, reloaded, left, hset, -, hreload, hget, -, hwhole⟩ :=
    get?_load_set load_stemFile hclear hplace (by decide) hname hvalue (by decide) (by decide)
  obtain rfl : left = "C# slide" := hwhole.2 (by decide)
  exact ⟨load_stemFile, changed, reloaded, hset, hreload, hget⟩

/-- A name with a free semicolon.  The second hash comes in an earlier turn than this semicolon, but
it is not saved, and then the name is cut. -/
def markedFile : String := "[S]\np;q;# ;r=v #c\n"

-- the condition on names is needed: the saved file cannot be loaded
example :
    ∃ settings, load (some markedFile) = .ok settings ∧
      (load ((set "T" "k" "x").run settings).2.file).toOption.isNone = true := by
  let marked : Settings := ⟨{ sections := ⟨[("S", ⟨[("p;q;# ;r", "v")]⟩)]⟩ }, some markedFile⟩
  have hload : load (some markedFile) = .ok marked := by cbv
  have hlost : (load ((set "T" "k" "x").run marked).2.file).toOption.isNone = true := by cbv
  exact ⟨marked, hload, hlost⟩

/-- Not every accepted value is the same after loading it again. -/
theorem not_forall_get?_load_set :
    ¬∀ (file : Option String) (settings : Settings) (place name value : String),
      load file = .ok settings → Word place → place ≠ Document.defaultName → Word name →
      trimmed value = value → OneLine value.toList → '%' ∉ value.toList →
      ∃ changed reloaded, (set place name value).run settings = (.ok (), changed) ∧
        changed.get? place name = .ok (some value) ∧ load changed.file = .ok reloaded ∧
        reloaded.get? place name = .ok (some value) := by
  intro h
  have hplace : Word "S" := by decide
  have hname : Word "k" := by decide
  have hsetting : RestorableSetting (lowercase "k") "a #b" :=
    hname.restorableSetting (by decide) (by decide)
  have hunsaved : Restorable unsaved.document := ⟨.empty _, .empty _⟩
  obtain ⟨changed, reloaded, hset, -, hreload, hleft⟩ :=
    exists_run_set hunsaved (hplace.restorablePlace (by decide)) hsetting (by decide) (by decide)
  obtain ⟨changed', reloaded', hset', -, hreload', hget⟩ := h none unsaved "S" "k" "a #b" rfl
    hplace (by decide) hname (by decide) (by decide) (by decide)
  obtain rfl : changed = changed' := congrArg Prod.snd (hset.symm.trans hset')
  obtain rfl : reloaded = reloaded' := Except.ok.inj (hreload.symm.trans hreload')
  have hsame : rereadValue (lowercase "k") "a #b" = "a #b" :=
    Option.some.inj (Except.ok.inj (hleft.symm.trans hget))
  exact absurd ((hsetting.rereadValue_spec (by decide)).2.1 hsame) (by decide)

end DeckScript.Settings
