import DeckScript.Proofs.Settings.Rereading

/-!
# Settings survive being written and read

Nothing of a storable document gets lost when it is written and read (`reread_eq_self`),
and so settings that are loaded, changed and saved can be loaded again.
-/

namespace DeckScript.Settings

open Text Draft Script

/-! ## Storable documents -/

theorem Plain.isMark_eq_false {cs : List Char} (hplain : Plain cs) :
    ∀ c ∈ cs, isMark c = false := by
  intro c hc
  rw [← Bool.not_eq_true, isMark_iff]
  rintro (rfl | rfl)
  · exact hplain _ hc (by decide)
  · exact hplain _ hc (by decide)

theorem Plain.isClear {cs : List Char} (hplain : Plain cs) (free : Bool) :
    isClear free cs = true :=
  isClear_of_forall hplain.isMark_eq_false

theorem rereadMore_eq_self {line : List Char} (htight : Tight line) (hplain : Plain line) :
    rereadMore line = [line] := by
  have hclear : isClear true ('\t' :: line ++ ['\n']) = true := by
    have htabbed : Plain ('\t' :: line) := List.forall_mem_cons.2 ⟨by decide, hplain⟩
    rw [isClear_append, htabbed.isClear]
    exact isClear_of_isClear_true (by decide)
  have hcomment : ¬IsComment ('\t' :: line ++ ['\n']) := by
    intro hcomment
    have hstart := commentStart?_of_isComment hcomment
    rw [commentStart?_eq_none_iff.2 hclear] at hstart
    cases hstart
  have htab : trim ('\t' :: line) = line := by
    have hblanks : ∀ c ∈ ['\t'], isBlank c = true := List.all_eq_true.1 (by decide)
    rw [← List.singleton_append, trim_append_of_blanks hblanks, trim_eq_self htight]
  rw [rereadMore, if_neg hcomment, visible_of_isClear hclear, trim_concat_of_blank (by decide),
    htab]

theorem joinValue_cutLines (cs : List Char) : joinValue (cutLines cs) = cs := by
  induction cs with
  | nil => rfl
  | cons c cs ih =>
    obtain ⟨first, more, hcut⟩ := List.exists_cons_of_ne_nil (cutLines_ne_nil cs)
    rw [hcut] at ih
    rw [cutLines, hcut]
    split
    · next hfeed => rw [joinValue_cons_cons, ih, hfeed, List.nil_append]
    · rw [← ih]
      cases more <;> rfl

theorem StorableSetting.rereadValue_eq_self {name value : String}
    (hsetting : StorableSetting name value) : rereadValue name value = value := by
  have hlines := hsetting.lines
  have hreread : rereadLines name (cutLines value.toList) = cutLines value.toList := by
    obtain ⟨first, hfirst, -⟩ := hlines.noHeader
    obtain ⟨more, hmore⟩ := List.head?_eq_some_iff.1 hfirst
    rw [hmore] at hlines
    have hclear := hlines.isName.plain.isClear true
    obtain ⟨htight, hplain⟩ := hlines.line first (by simp)
    have hsame := (rereadFirst_spec hlines.isName.legible hclear htight).2.2.2 (hplain.isClear true)
    have hflat : more.flatMap rereadMore = more := by
      have hsingle : ∀ line ∈ more, rereadMore line = [line] := fun line hline =>
        rereadMore_eq_self (hlines.line line (List.mem_cons_of_mem _ hline)).1
          (hlines.line line (List.mem_cons_of_mem _ hline)).2
      rw [List.flatMap_congr hsingle]
      simp
    rw [hmore, rereadLines, hsame, hflat]
  rw [rereadValue, hreread, joinValue_cutLines, hsetting.trimmed, String.ofList_toList]

theorem rereadSettings_eq_self {settings : Table String}
    (hsettings : settings.Every StorableSetting) : rereadSettings settings = settings := by
  obtain ⟨entries⟩ := settings
  refine congrArg Table.mk ?_
  refine (List.map_congr_left fun setting hsetting => ?_).trans (List.map_id entries)
  rw [(hsettings.holds setting hsetting).rereadValue_eq_self]
  rfl

/-- Nothing of a storable document gets lost. -/
theorem Storable.reread_eq_self {document : Document} (hstorable : Storable document) :
    reread document = document := by
  have hsections : document.sections.map rereadSettings = document.sections := by
    refine congrArg Table.mk ?_
    refine (List.map_congr_left fun entry hentry => ?_).trans (List.map_id _)
    rw [rereadSettings_eq_self (hstorable.sections.holds entry hentry).2]
    rfl
  rw [reread, rereadSettings_eq_self hstorable.defaults, hsections]

theorem StorableSetting.restorable {name value : String} (hsetting : StorableSetting name value) :
    RestorableSetting name value :=
  ⟨hsetting.legible, hsetting.lines.isName.plain.isClear true⟩

theorem StorablePlace.restorable {name : String} (hname : StorablePlace name) :
    RestorablePlace name :=
  ⟨hname.legible, hname.plain.isClear false⟩

theorem Storable.restorable {document : Document} (hstorable : Storable document) :
    Restorable document where
  defaults := hstorable.defaults.mono fun _ _ hsetting => hsetting.restorable
  sections := hstorable.sections.mono fun _ _ hsection =>
    ⟨hsection.1.restorable, hsection.2.mono fun _ _ hsetting => hsetting.restorable⟩

/-- **A storable document is read as it was written.** -/
theorem Storable.read_write {document : Document} (hstorable : Storable document) :
    read document.write = .ok document := by
  rw [hstorable.restorable.read_write, hstorable.reread_eq_self]

/-! ## Settings in use -/

/-- **Settings files round-trip.**  Settings are loaded from a file whose comments have lines of
their own, or from no file, and changed any number of times.  No change is refused, and the
saved file is loaded again as the same document: the same sections, names and values in the
same order.  Saved again, the file is the same text. -/
theorem load_setAll_save {file : Option String} (happart : ∀ text ∈ file, CommentsApart text)
    {settings : Settings} (hload : load file = .ok settings) (changes : List Change) :
    ∃ changed saved text reloaded,
      (setAll changes).run settings = (.ok (), changed) ∧
      save.run changed = (.ok (), saved) ∧ saved.file = some text ∧
      load (some text) = .ok reloaded ∧ reloaded.document = changed.document ∧
      (save.run reloaded).2.file = some text := by
  have hstorable : Storable settings.document := by
    cases file with
    | none =>
      cases hload
      exact .empty
    | some text =>
      rw [load] at hload
      cases hread : read text with
      | error error => rw [hread] at hload; cases hload
      | ok document =>
        rw [hread] at hload
        cases hload
        exact storable_of_read (happart text rfl) hread
  obtain ⟨changed, hchanges, hchanged⟩ := run_setAll changes hstorable
  refine ⟨changed, { changed with file := some changed.document.write }, changed.document.write,
    ⟨changed.document, some changed.document.write⟩, hchanges, rfl, rfl, ?_, rfl, rfl⟩
  rw [load, hchanged.read_write]
  rfl

/-- A file with a comment, two characters at the ends of lines and a value of two lines. -/
def stemFile : String := "[SLIDES]\r\n; the stem\r\nID_prefix : s\r\n  t\r\n"

/-- The settings in the file. -/
def stemSettings : Settings :=
  ⟨{ sections := ⟨[("SLIDES", ⟨[("id_prefix", "s\nt")]⟩)]⟩ }, some stemFile⟩

/-- Another name for a command, in a section of its own. -/
def aliasChange : Change where
  place := "COMMANDS"
  name := "Neu"
  value := "new-slide"
  isPlace := ⟨by decide, by decide, by decide⟩
  name_ne_empty := by decide
  name_trimmed := by decide
  name_plain := by decide
  name_uncut := by decide
  name_noBracket := by decide
  value_trimmed := by decide
  value_plain := by decide
  value_noPercent := by decide

/-- The draft of the file after the header and the comment. -/
def stemHeader : Draft :=
  { sections := ⟨[("SLIDES", .empty)]⟩, place := some "SLIDES" }

/-- The draft of the file after the given lines of the setting. -/
def stemDraft (lines : List (List Char)) : Draft :=
  { sections := ⟨[("SLIDES", ⟨[("id_prefix", lines)]⟩)]⟩
    place := some "SLIDES"
    option := some "id_prefix"
    seen := [("SLIDES", "id_prefix")] }

theorem load_stemFile : load (some stemFile) = .ok stemSettings := by
  have hlines : fileLines (unifyLineEnds stemFile.toList) =
      ["[SLIDES]\n".toList, "; the stem\n".toList, "ID_prefix : s\n".toList, "  t\n".toList] := by
    decide +kernel
  have hheader : Draft.readLine {} 1 "[SLIDES]\n".toList = .ok stemHeader := by
    rw [readLine_of_noMark _ _ (by decide) (by decide)]
    rfl
  have hcomment : stemHeader.readLine 2 "; the stem\n".toList = .ok stemHeader :=
    readLine_of_isComment _ _ (by decide)
  have hsetting : stemHeader.readLine 3 "ID_prefix : s\n".toList = .ok (stemDraft [['s']]) := by
    rw [readLine_of_noMark _ _ (by decide) (by decide)]
    rfl
  have hmore : (stemDraft [['s']]).readLine 4 "  t\n".toList = .ok (stemDraft [['s'], ['t']]) := by
    rw [readLine_of_noMark _ _ (by decide) (by decide)]
    rfl
  simp only [load, read, hlines, readLines, hheader, hcomment, hsetting, hmore]
  rfl

theorem load_setAll_save_stem :
    CommentsApart stemFile ∧ load (some stemFile) = .ok stemSettings ∧
      ∃ changed saved text reloaded,
        (setAll [aliasChange]).run stemSettings = (.ok (), changed) ∧
        save.run changed = (.ok (), saved) ∧ saved.file = some text ∧
        load (some text) = .ok reloaded ∧ reloaded.document = changed.document ∧
        (save.run reloaded).2.file = some text := by
  have happart : CommentsApart stemFile := by decide +kernel
  refine ⟨happart, load_stemFile, load_setAll_save ?_ load_stemFile [aliasChange]⟩
  intro text htext
  rw [← Option.some.inj htext]
  exact happart

end DeckScript.Settings
