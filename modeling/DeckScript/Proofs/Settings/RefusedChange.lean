import DeckScript.Proofs.Table
import DeckScript.Settings.Basic

/-!
# Changes that are refused

A change adds its section, writes its value and saves the file, in this order, and nothing
is taken back.  So a change whose section has the reserved name leaves no trace, while one
whose value is refused leaves behind the section that it has added.  The section is empty
and comes last (`run_set_failed`).  There are no other refusals: that the file can be written
is taken for granted.

What stems from it later is bounded by `AlikeBut`: of two documents that are alike but for
a section, each change is refused or made in both alike, and they stay alike but for this
section.  A saved file can thus have the section, or have it at another place, but all else
in it is what it would be without the refused change (`runAll_alike`).
-/

namespace DeckScript

namespace Document

/-- The document with a section of this name; a new one is empty and comes last. -/
def withSection (document : Document) (name : String) : Document :=
  if document.hasSection name then document
  else { document with sections := document.sections.insert name .empty }

theorem hasSection_eq_false_iff {document : Document} {name : String} :
    document.hasSection name = false ↔ document.sections.get? name = none := by
  rw [hasSection, Table.contains, Option.isSome_eq_false_iff, Option.isNone_iff_eq_none]

@[simp] theorem defaults_withSection (document : Document) (name : String) :
    (document.withSection name).defaults = document.defaults := by
  unfold withSection
  split <;> rfl

/-- The section is there, with the settings that it had. -/
theorem get?_withSection (document : Document) (name : String) :
    (document.withSection name).sections.get? name =
      some ((document.sections.get? name).getD .empty) := by
  unfold withSection
  split
  · next hsection =>
    obtain ⟨own, hown⟩ := Option.isSome_iff_exists.1 hsection
    rw [hown, Option.getD_some]
  · next hsection =>
    rw [Bool.not_eq_true, hasSection_eq_false_iff] at hsection
    rw [hsection, Option.getD_none, Table.get?_insert, if_pos rfl]

theorem get?_withSection_of_ne (document : Document) {name other : String} (hother : other ≠ name) :
    (document.withSection name).sections.get? other = document.sections.get? other := by
  unfold withSection
  split
  · rfl
  · rw [Table.get?_insert, if_neg hother]

theorem write_withSection {document : Document} {name : String}
    (hnew : document.sections.get? name = none) :
    (document.withSection name).write = document.write ++ "[" ++ name ++ "]\n\n" := by
  have hsections : (document.withSection name).sections.entries =
      document.sections.entries ++ [(name, .empty)] := by
    rw [withSection, hasSection_eq_false_iff.2 hnew, if_neg Bool.false_ne_true,
      Table.insert_of_get?_eq_none hnew]
  have hlast : writeSection name .empty = "[" ++ name ++ "]\n\n" := by
    apply String.toList_injective
    simp [writeSection, Table.empty]
  rw [write, write, hsections, defaults_withSection, List.map_append, String.join_append]
  simp [hlast, String.append_assoc]

end Document

namespace Settings

/-! ## What a change does -/

theorem run_ensureSection (settings : Settings) (name : String) :
    (ensureSection name).run settings =
      if settings.document.sections.get? name = none ∧ name = Document.defaultName then
        (.error (.reservedSection name), settings)
      else (.ok (), { settings with document := settings.document.withSection name }) := by
  rw [ensureSection, Attempt.run_bind, Attempt.run_get]
  dsimp only
  cases hown : settings.document.sections.get? name with
  | some own =>
    have hsection : settings.document.hasSection name = true := by
      rw [Document.hasSection, Table.contains, hown, Option.isSome_some]
    simp [Document.withSection, hsection]
  | none =>
    have hsection := Document.hasSection_eq_false_iff.2 hown
    by_cases hdefault : name = Document.defaultName
    · rw [if_neg (by rw [hsection]; exact Bool.false_ne_true), if_pos hdefault,
        if_pos ⟨rfl, hdefault⟩, Attempt.run_fail]
    · simp [hsection, hdefault, Document.withSection]

/-- A change is refused because of its section, or because of its value, or it is made. -/
theorem run_set (settings : Settings) (place name value : String) :
    (set place name value).run settings =
      if settings.document.sections.get? place = none ∧ place = Document.defaultName then
        (.error (.reservedSection place), settings)
      else
        let document := settings.document.withSection place
        let changed := put place (Text.lowercase name) value document
        match checkValue value with
        | .error error => (.error error, { settings with document })
        | .ok () => (.ok (), ⟨changed, some changed.write⟩) := by
  rw [set, Attempt.run_bind, run_ensureSection]
  by_cases hreserved :
      settings.document.sections.get? place = none ∧ place = Document.defaultName
  · rw [if_pos hreserved, if_pos hreserved]
  · rw [if_neg hreserved, if_neg hreserved]
    cases checkValue value with
    | error error => rfl
    | ok => rfl

/-! ## Documents alike but for a section -/

/-- The documents have the same defaults and, but for one section, the same sections in the same
order.  This section may be missing in one of them if it is empty in the other. -/
structure AlikeBut (place : String) (first second : Document) : Prop where
  defaults : first.defaults = second.defaults
  others : first.sections.without place = second.sections.without place
  own : (first.sections.get? place).getD .empty = (second.sections.get? place).getD .empty

namespace AlikeBut

variable {place : String} {first second : Document}

theorem refl (place : String) (document : Document) : AlikeBut place document document :=
  ⟨rfl, rfl, rfl⟩

theorem get?_eq (h : AlikeBut place first second) {other : String} (hother : other ≠ place) :
    first.sections.get? other = second.sections.get? other := by
  rw [← Table.get?_without_of_ne _ hother, h.others, Table.get?_without_of_ne _ hother]

theorem without_withSection (document : Document) (name : String) :
    (document.withSection name).sections.without name = document.sections.without name := by
  unfold Document.withSection
  split
  · rfl
  · exact Table.without_insert_self _ _ _

/-- An empty section makes no other difference. -/
theorem withSection_self (place : String) (document : Document) :
    AlikeBut place document (document.withSection place) where
  defaults := (document.defaults_withSection place).symm
  others := (without_withSection document place).symm
  own := by rw [Document.get?_withSection, Option.getD_some]

/-- Adding a section keeps documents alike. -/
theorem withSection (h : AlikeBut place first second) (name : String) :
    AlikeBut place (first.withSection name) (second.withSection name) := by
  have hdefaults : (first.withSection name).defaults = (second.withSection name).defaults := by
    rw [Document.defaults_withSection, Document.defaults_withSection, h.defaults]
  by_cases hname : name = place
  · subst hname
    refine ⟨hdefaults, ?_, ?_⟩
    · rw [without_withSection, without_withSection, h.others]
    · rw [Document.get?_withSection, Document.get?_withSection, Option.getD_some,
        Option.getD_some, h.own]
  · have hsame : first.hasSection name = second.hasSection name := by
      rw [Document.hasSection, Document.hasSection, Table.contains, Table.contains, h.get?_eq hname]
    refine ⟨hdefaults, ?_, ?_⟩
    · unfold Document.withSection
      rw [hsame]
      split
      · exact h.others
      · rw [Table.without_insert_of_ne _ hname, Table.without_insert_of_ne _ hname, h.others]
    · rw [Document.get?_withSection_of_ne _ (Ne.symm hname),
        Document.get?_withSection_of_ne _ (Ne.symm hname), h.own]

/-- Writing a setting in a section that is there keeps documents alike. -/
theorem put (h : AlikeBut place first second) {name : String} {settings settings' : Table String}
    (hfirst : first.sections.get? name = some settings)
    (hsecond : second.sections.get? name = some settings') (option value : String) :
    AlikeBut place (Settings.put name option value first)
      (Settings.put name option value second) := by
  unfold Settings.put
  rw [hfirst, hsecond]
  cases name.isEmpty with
  | true => exact ⟨congrArg (·.insert option value) h.defaults, h.others, h.own⟩
  | false =>
    by_cases hname : name = place
    · subst hname
      have hsettings : settings = settings' := by simpa [hfirst, hsecond] using h.own
      refine ⟨h.defaults, ?_, ?_⟩
      · dsimp only
        rw [Table.without_insert_self, Table.without_insert_self, h.others]
      · dsimp only
        rw [Table.get?_insert, Table.get?_insert, if_pos rfl, if_pos rfl, hsettings]
    · have hsettings : settings = settings' :=
        Option.some.inj (hfirst.symm.trans ((h.get?_eq hname).trans hsecond))
      refine ⟨h.defaults, ?_, ?_⟩
      · dsimp only
        rw [Table.without_insert_of_ne _ hname, Table.without_insert_of_ne _ hname, h.others,
          hsettings]
      · dsimp only
        rw [Table.get?_insert, Table.get?_insert, if_neg (Ne.symm hname),
          if_neg (Ne.symm hname), h.own]

end AlikeBut

/-- The settings are alike but for a section, and so are the files they were saved to. -/
structure Alike (place : String) (first second : Settings) : Prop where
  document : AlikeBut place first.document second.document
  file : first.file = second.file ∨
    ∃ document document', AlikeBut place document document' ∧
      first.file = some document.write ∧ second.file = some document'.write

theorem Alike.refl (place : String) (settings : Settings) : Alike place settings settings :=
  ⟨.refl place _, .inl rfl⟩

/-- Settings outside the section are looked up with the same result. -/
theorem Alike.get?_eq {place : String} {first second : Settings} (h : Alike place first second)
    {other : String} (hother : other ≠ place) (name : String) :
    first.get? other name = second.get? other name := by
  have hraw : first.document.raw? other = second.document.raw? other := by
    funext option
    simp only [Document.raw?, Document.ownSettings?, h.document.get?_eq hother,
      h.document.defaults]
  simp only [get?, scope, hraw]

/-! ## Calls one after the other -/

/-- A call that changes settings or saves them. -/
inductive Call where
  | set (place name value : String)
  | save

/-- Makes the call. -/
def Call.run : Call → Settings → Except SettingsError Unit × Settings
  | set place name value => (Settings.set place name value).run
  | save => Settings.save.run

/-- Makes calls one after the other, whether they fail or not, and collects how they end. -/
def runAll : List Call → Settings → List (Except SettingsError Unit) × Settings
  | [], settings => ([], settings)
  | call :: rest, settings =>
    let later := runAll rest (call.run settings).2
    ((call.run settings).1 :: later.1, later.2)

/-- One call ends alike on settings that are alike, and leaves them alike. -/
theorem Call.run_alike {place : String} (hplace : place ≠ Document.defaultName)
    {first second : Settings} (h : Alike place first second) (call : Call) :
    (call.run first).1 = (call.run second).1 ∧
      Alike place (call.run first).2 (call.run second).2 := by
  cases call with
  | save => exact ⟨rfl, h.document, .inr ⟨_, _, h.document, rfl, rfl⟩⟩
  | set name option value =>
    have hreserved : (first.document.sections.get? name = none ∧ name = Document.defaultName) ↔
        (second.document.sections.get? name = none ∧ name = Document.defaultName) := by
      refine and_congr_left fun hname => ?_
      rw [h.document.get?_eq (hname ▸ hplace.symm)]
    have hsection := h.document.withSection name
    rw [Call.run, run_set, run_set]
    simp only [hreserved]
    split
    · exact ⟨rfl, h⟩
    · cases checkValue value with
      | error error => exact ⟨rfl, hsection, h.file⟩
      | ok =>
        have hput := hsection.put (Document.get?_withSection first.document name)
          (Document.get?_withSection second.document name) (Text.lowercase option) value
        exact ⟨rfl, hput, .inr ⟨_, _, hput, rfl, rfl⟩⟩

/-- Calls end alike on settings that are alike, and leave them alike. -/
theorem runAll_alike {place : String} (hplace : place ≠ Document.defaultName) (calls : List Call)
    {first second : Settings} (h : Alike place first second) :
    (runAll calls first).1 = (runAll calls second).1 ∧
      Alike place (runAll calls first).2 (runAll calls second).2 := by
  induction calls generalizing first second with
  | nil => exact ⟨rfl, h⟩
  | cons call rest ih =>
    obtain ⟨hresult, hnext⟩ := call.run_alike hplace h
    obtain ⟨hresults, hlast⟩ := ih hnext
    refine ⟨?_, hlast⟩
    rw [runAll, runAll]
    dsimp only
    rw [hresult, hresults]

/-! ## Changes that are refused -/

section

variable {settings after : Settings} {place name value : String} {error : SettingsError}

/-- A change is refused for the name of its section without a trace, or for its value after its
section was added. -/
theorem run_set_eq_error (hfailed : (set place name value).run settings = (.error error, after)) :
    place = Document.defaultName ∧ error = .reservedSection place ∧ after = settings ∨
      (settings.document.hasSection place = false → place ≠ Document.defaultName) ∧
        checkValue value = .error error ∧
        after = { settings with document := settings.document.withSection place } := by
  rw [run_set] at hfailed
  split at hfailed
  · next hreserved =>
    cases hfailed
    exact .inl ⟨hreserved.2, rfl, rfl⟩
  · next hopen =>
    dsimp only at hfailed
    split at hfailed
    · next refusal hrefused =>
      cases hfailed
      refine .inr ⟨fun hsection hdefault => hopen ⟨?_, hdefault⟩, hrefused, rfl⟩
      exact Document.hasSection_eq_false_iff.1 hsection
    · cases hfailed

/-- **What a refused change leaves behind.**  A change is refused because its section has the
reserved name or because of the percent signs in its value.  The file is left alone.  If the section
was there, or is the reserved one, all the rest is left alone as well.  Otherwise the value was
refused, and an empty section has been added at the end; saved right away, it is the last line with
text in the file.  Whatever is changed and saved afterwards ends as it would have without the refused
change, and but for this section nothing in the settings and in the file is different. -/
theorem run_set_failed (hfailed : (set place name value).run settings = (.error error, after)) :
    (place = Document.defaultName ∧ error = .reservedSection place ∨
        checkValue value = .error error) ∧
      after.file = settings.file ∧
      (settings.document.hasSection place = true ∨ place = Document.defaultName →
        after = settings) ∧
      (settings.document.hasSection place = false → place ≠ Document.defaultName →
        checkValue value = .error error ∧
          after.document =
            { settings.document with
              sections := ⟨settings.document.sections.entries ++ [(place, .empty)]⟩ } ∧
          (save.run after).2.file =
            some (settings.document.write ++ "[" ++ place ++ "]\n\n")) ∧
      ∀ calls,
        (runAll calls settings).1 = (runAll calls after).1 ∧
          Alike place (runAll calls settings).2 (runAll calls after).2 ∧
          ∀ other, other ≠ place → ∀ option,
            (runAll calls settings).2.get? other option =
              (runAll calls after).2.get? other option := by
  rcases run_set_eq_error hfailed with ⟨hdefault, herror, rfl⟩ | ⟨hplace, hrefused, rfl⟩
  · refine ⟨.inl ⟨hdefault, herror⟩, rfl, fun _ => rfl, fun _ hplace => absurd hdefault hplace, ?_⟩
    intro calls
    exact ⟨rfl, .refl place _, fun _ _ _ => rfl⟩
  · refine ⟨.inr hrefused, rfl, ?_⟩
    cases hsection : settings.document.hasSection place with
    | true =>
      have hsame : settings.document.withSection place = settings.document := if_pos hsection
      rw [hsame]
      refine ⟨fun _ => rfl, nofun, ?_⟩
      intro calls
      exact ⟨rfl, .refl place _, fun _ _ _ => rfl⟩
    | false =>
      have hnew := Document.hasSection_eq_false_iff.1 hsection
      refine ⟨?_, ?_, ?_⟩
      · rintro (hthere | hdefault)
        · exact absurd hthere Bool.false_ne_true
        · exact absurd hdefault (hplace hsection)
      · intro _ _
        refine ⟨hrefused, ?_, congrArg some (Document.write_withSection hnew)⟩
        simp [Document.withSection, hsection, Table.insert_of_get?_eq_none hnew]
      · intro calls
        have halike : Alike place settings
            { settings with document := settings.document.withSection place } :=
          ⟨.withSection_self place _, .inl rfl⟩
        obtain ⟨hresults, hlast⟩ := runAll_alike (hplace hsection) calls halike
        exact ⟨hresults, hlast, fun _ hother option => hlast.get?_eq hother option⟩

end

/-- The settings without a file. -/
def unsaved : Settings := ⟨{}, none⟩

theorem run_set_percent :
    (set "S" "k" "5%").run unsaved =
      (.error (.invalidValue "5%" 1), ⟨{ sections := ⟨[("S", .empty)]⟩ }, none⟩) := by
  have hrefused : checkValue "5%" = .error (.invalidValue "5%" 1) := by
    have hindex : ['5', '%'].findIdx? (· == '%') = some 1 := rfl
    simp [checkValue, dropEscapes, dropReferences, hindex]
  rw [run_set, if_neg (by decide)]
  simp only [hrefused]
  rfl

/-- A percent sign at the end of a value is refused, but its section is saved. -/
theorem run_set_failed_percent :
    (save.run ((set "S" "k" "5%").run unsaved).2).2.file = some "[S]\n\n" := by
  obtain ⟨-, -, -, hadded, -⟩ := run_set_failed run_set_percent
  rw [run_set_percent, (hadded rfl (by decide)).2.2]
  rfl

/-- A refused change can leave something behind. -/
theorem not_forall_run_set_failed_untouched :
    ¬∀ (settings after : Settings) (place name value : String) (error : SettingsError),
      (set place name value).run settings = (.error error, after) →
      after.document = settings.document ∧ after.file = settings.file := by
  intro h
  obtain ⟨hdocument, -⟩ := h unsaved _ _ _ _ _ run_set_percent
  have hnames : ["S"] = [] := congrArg (fun document => document.sections.names) hdocument
  cases hnames

end Settings

end DeckScript
