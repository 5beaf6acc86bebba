import DeckScript.Proofs.Settings.Reading

/-!
# What is left of a document that is written and read

A document is written as lines of three kinds: a header, the name of a setting with the
first line of its value, and further lines of the value behind a tab; an empty line ends
each section.  Values are written as they are, and so a mark in a value may start a comment
when the file is read again.  `Document.reread` is the document with what is left of the
values.

A mark in a name could do more harm.  If no mark of a name is free, every line is read as
what it was written as, and so a legible document is read again (`Restorable.read_write`).

## Strategy

* **Sections inside a file.**  While a section is read, only its settings change.  They
  are an argument of `Draft.inside`, so that each line has an equation of its own and the
  rest of the draft is left alone.
* **The empty line after a section** belongs to its last setting, as an empty line at the
  end of the value.  It disappears when the lines are joined (`joinSettings_insert_blank`).
-/

namespace DeckScript.Settings

open Text Draft Script

/-! ## Written lines -/

/-- The lines on which a setting is written. -/
def settingLines (name : String) : List (List Char) → List (List Char)
  | [] => []
  | first :: more => (name.toList ++ equalsSign ++ first) :: more.map ('\t' :: ·)

/-- The lines on which the settings of a section are written. -/
def bodyLines (entries : List (String × String)) : List (List Char) :=
  entries.flatMap fun setting => settingLines setting.1 (cutLines setting.2.toList)

/-- The lines on which a section is written. -/
def sectionLines (name : String) (settings : Table String) : List (List Char) :=
  ('[' :: (name.toList ++ [']'])) :: (bodyLines settings.entries ++ [[]])

/-- The lines on which a document is written. -/
def documentLines (document : Document) : List (List Char) :=
  (if document.defaults.entries.isEmpty then []
    else sectionLines Document.defaultName document.defaults) ++
    document.sections.entries.flatMap fun entry => sectionLines entry.1 entry.2

/-- Lines with their line ends. -/
def ended (lines : List (List Char)) : List Char :=
  lines.flatMap (· ++ ['\n'])

@[simp] theorem ended_nil : ended [] = [] := rfl

@[simp] theorem ended_cons (line : List Char) (lines : List (List Char)) :
    ended (line :: lines) = line ++ '\n' :: ended lines := by
  simp [ended]

@[simp] theorem ended_append (lines more : List (List Char)) :
    ended (lines ++ more) = ended lines ++ ended more := by
  simp [ended]

theorem cutLines_ne_nil (cs : List Char) : cutLines cs ≠ [] := by
  cases cs with
  | nil => exact List.cons_ne_nil _ _
  | cons c cs =>
    rw [cutLines]
    split
    · exact List.cons_ne_nil _ _
    · split <;> exact List.cons_ne_nil _ _

/-- The tab after each line feed makes the further lines of a value. -/
theorem ended_settingLines (name value : String) :
    (name ++ " = " ++ Document.indented value ++ "\n").toList =
      ended (settingLines name (cutLines value.toList)) := by
  have hvalue (cs : List Char) : ∃ first more, cutLines cs = first :: more ∧
      (cs.flatMap fun c => if c = '\n' then ['\n', '\t'] else [c]) ++ ['\n'] =
        first ++ '\n' :: ended (more.map ('\t' :: ·)) := by
    induction cs with
    | nil => exact ⟨[], [], rfl, rfl⟩
    | cons c cs ih =>
      obtain ⟨first, more, hcut, hlines⟩ := ih
      by_cases hc : c = '\n'
      · refine ⟨[], first :: more, by simp [cutLines, hc, hcut], ?_⟩
        simp [hc, hlines]
      · refine ⟨c :: first, more, by simp [cutLines, hc, hcut], ?_⟩
        simp [hc, hlines]
  obtain ⟨first, more, hcut, hlines⟩ := hvalue value.toList
  rw [hcut, settingLines, ended_cons]
  simp [Document.indented, equalsSign, hlines]

theorem toList_writeSection (name : String) (settings : Table String) :
    (Document.writeSection name settings).toList = ended (sectionLines name settings) := by
  have hbody (entries : List (String × String)) :
      (String.join (entries.map fun setting =>
        setting.1 ++ " = " ++ Document.indented setting.2 ++ "\n")).toList =
      ended (bodyLines entries) := by
    induction entries with
    | nil => rfl
    | cons setting entries ih =>
      rw [List.map_cons, String.join_cons, String.toList_append, ih, ended_settingLines]
      simp [bodyLines]
  rw [Document.writeSection, sectionLines, ended_cons, ended_append, ← hbody]
  simp

theorem toList_write (document : Document) :
    document.write.toList = ended (documentLines document) := by
  have hsections (entries : List (String × Table String)) :
      (String.join (entries.map fun entry => Document.writeSection entry.1 entry.2)).toList =
        ended (entries.flatMap fun entry => sectionLines entry.1 entry.2) := by
    induction entries with
    | nil => rfl
    | cons entry entries ih =>
      rw [List.map_cons, String.join_cons, String.toList_append, ih, toList_writeSection]
      simp
  rw [Document.write, documentLines, ended_append, String.toList_append, hsections]
  split
  · rfl
  · rw [toList_writeSection]

/-! ## The lines of the file -/

theorem unifyLineEnds_eq_self {cs : List Char} (hcs : '\r' ∉ cs) : unifyLineEnds cs = cs := by
  fun_induction unifyLineEnds cs with
  | case1 => rfl
  | case2 cs ih => exact absurd (List.mem_cons_self ..) hcs
  | case3 c cs _ ih =>
    rw [List.mem_cons, not_or] at hcs
    rw [if_neg (Ne.symm hcs.1), ih hcs.2]

theorem fileLines_cons {line : List Char} (honeLine : '\n' ∉ line) (rest : List Char) :
    fileLines (line ++ '\n' :: rest) = (line ++ ['\n']) :: fileLines rest := by
  induction line with
  | nil => simp [fileLines]
  | cons c line ih =>
    rw [List.mem_cons, not_or] at honeLine
    rw [List.cons_append, fileLines, if_neg (Ne.symm honeLine.1), ih honeLine.2]
    rfl

theorem fileLines_ended {lines : List (List Char)} (hlines : ∀ line ∈ lines, OneLine line) :
    fileLines (unifyLineEnds (ended lines)) = lines.map (· ++ ['\n']) := by
  have hreturn : '\r' ∉ ended lines := by
    simp only [ended, List.mem_flatMap, List.mem_append, not_exists, not_and, not_or]
    exact fun line hline => ⟨(hlines line hline).2, by decide⟩
  rw [unifyLineEnds_eq_self hreturn]
  induction lines with
  | nil => rfl
  | cons line lines ih =>
    rw [List.forall_mem_cons] at hlines
    rw [ended_cons, List.mem_append, List.mem_cons, not_or, not_or] at hreturn
    rw [ended_cons, fileLines_cons hlines.1.1, ih hlines.2 hreturn.2.2, List.map_cons]

theorem LegibleLines.oneLine_settingLines {name : String} {lines : List (List Char)}
    (hlines : LegibleLines name lines) : ∀ line ∈ settingLines name lines, OneLine line := by
  cases lines with
  | nil => simp [settingLines]
  | cons first more =>
    have hsign : OneLine equalsSign := by decide
    have htab : OneLine ['\t'] := by decide
    rw [settingLines, List.forall_mem_cons]
    have hfirst := (hlines.line first (by simp)).2
    refine ⟨(hlines.isName.oneLine.append hsign).append hfirst, ?_⟩
    intro line hline
    obtain ⟨inner, hinner, rfl⟩ := List.mem_map.1 hline
    exact htab.append (hlines.line inner (List.mem_cons_of_mem _ hinner)).2

theorem oneLine_sectionLines {name : String} {settings : Table String}
    (hname : OneLine name.toList) (hsettings : settings.Every LegibleSetting) :
    ∀ line ∈ sectionLines name settings, OneLine line := by
  have hopening : OneLine ['['] := by decide
  have hclosing : OneLine [']'] := by decide
  rw [sectionLines, List.forall_mem_cons, List.forall_mem_append]
  refine ⟨hopening.append (hname.append hclosing), ?_, by decide⟩
  intro line hline
  obtain ⟨setting, hsetting, hmem⟩ := List.mem_flatMap.1 hline
  exact (hsettings.holds setting hsetting).lines.oneLine_settingLines line hmem

theorem Legible.oneLine_documentLines {document : Document} (hlegible : Legible document) :
    ∀ line ∈ documentLines document, OneLine line := by
  rw [documentLines, List.forall_mem_append]
  constructor
  · split
    · simp
    · exact oneLine_sectionLines (by decide) hlegible.defaults
  · intro line hline
    obtain ⟨entry, hentry, hmem⟩ := List.mem_flatMap.1 hline
    obtain ⟨hplace, hsettings⟩ := hlegible.sections.holds entry hentry
    exact oneLine_sectionLines hplace.oneLine hsettings line hmem

/-! ## Reading line by line -/

theorem readLines_append (draft : Draft) (line : Nat) (lines more : List (List Char)) :
    draft.readLines line (lines ++ more) =
      match draft.readLines line lines with
      | .ok draft => draft.readLines (line + lines.length) more
      | .error error => .error error := by
  induction lines generalizing draft line with
  | nil => rfl
  | cons text lines ih =>
    rw [List.cons_append, readLines, readLines]
    cases draft.readLine line text with
    | ok middle =>
      dsimp only
      rw [ih, List.length_cons, Nat.add_right_comm, Nat.add_assoc]
    | error error => rfl

/-- The lines are read from the draft to the other one, wherever they stand in the file. -/
def Reads (draft : Draft) (lines : List (List Char)) (next : Draft) : Prop :=
  ∀ line, draft.readLines line (lines.map (· ++ ['\n'])) = .ok next

namespace Reads

theorem nil (draft : Draft) : Reads draft [] draft := fun _ => rfl

theorem cons {draft middle next : Draft} {line : List Char} {lines : List (List Char)}
    (hline : ∀ position, draft.readLine position (line ++ ['\n']) = .ok middle)
    (hlines : Reads middle lines next) : Reads draft (line :: lines) next := by
  intro position
  rw [List.map_cons, readLines, hline]
  exact hlines _

theorem append {draft middle next : Draft} {lines more : List (List Char)}
    (hlines : Reads draft lines middle) (hmore : Reads middle more next) :
    Reads draft (lines ++ more) next := by
  intro position
  rw [List.map_append, readLines_append, hlines]
  exact hmore _

end Reads

theorem visible_lineFeed : visible ['\n'] = [] := by
  rw [visible_of_isClear (by decide)]
  decide

/-- A line at the margin continues nothing. -/
theorem readLine_atMargin (draft : Draft) (position : Nat) {line : List Char}
    (hhead : ∀ c ∈ line.head?, isBlank c = false) (hne : visible (line ++ ['\n']) ≠ []) :
    draft.readLine position (line ++ ['\n']) =
      { draft with indent := 0 }.readEntry (visible (line ++ ['\n'])) position
        (line ++ ['\n']) := by
  have hnonempty : line ≠ [] := by
    rintro rfl
    exact hne visible_lineFeed
  obtain ⟨c, rest, rfl⟩ := List.exists_cons_of_ne_nil hnonempty
  have hblank : isBlank c = false := hhead c rfl
  have hdepth : (c :: rest ++ ['\n']).takeWhile isBlank = [] := by
    rw [List.cons_append, List.takeWhile_cons_of_neg (by simp [hblank])]
  rw [draft.readLine_eq, if_neg hne, hdepth]
  simp [continues]

theorem readLine_blank (draft : Draft) (position : Nat) :
    draft.readLine position ([] ++ ['\n']) = .ok (draft.extend []) := by
  have hclear : isClear true ['\n'] = true := by decide
  rw [List.nil_append, draft.readLine_eq, if_pos visible_lineFeed,
    if_pos (commentStart?_eq_none_iff.2 hclear)]

/-! ## What is left of a value -/

/-- The first line of a value, as it is read from the line that it is written on. -/
def rereadFirst (name first : List Char) : List Char :=
  ((setting? (visible (name ++ equalsSign ++ first ++ ['\n']))).map Prod.snd).getD []

/-- Another line of a value, as it is read from the line that it is written on; a comment is not
read at all. -/
def rereadMore (line : List Char) : List (List Char) :=
  if IsComment ('\t' :: line ++ ['\n']) then [] else [visible ('\t' :: line ++ ['\n'])]

/-- The lines of the value of a setting, as they are read. -/
def rereadLines (name : String) : List (List Char) → List (List Char)
  | [] => []
  | first :: more => rereadFirst name.toList first :: more.flatMap rereadMore

/-- The value of a setting, as it is read. -/
def rereadValue (name value : String) : String :=
  String.ofList (trimRight (joinValue (rereadLines name (cutLines value.toList))))

/-- Settings, as they are read. -/
def rereadSettings (settings : Table String) : Table String :=
  ⟨settings.entries.map fun setting => (setting.1, rereadValue setting.1 setting.2)⟩

/-- The document that is left when a document has been written and read. -/
def reread (document : Document) : Document where
  defaults := rereadSettings document.defaults
  sections := document.sections.map rereadSettings

/-- A line behind a tab continues the current setting, unless it is a comment. -/
theorem readLine_tabbed {draft : Draft} {place option : String} (hplace : draft.place = some place)
    (hoption : draft.option = some option) (hindent : draft.indent = 0) (position : Nat)
    (line : List Char) :
    draft.readLine position ('\t' :: line ++ ['\n']) =
      .ok ((rereadMore line).foldl Draft.extend draft) := by
  have hdeeper : draft.continues (('\t' :: line ++ ['\n']).takeWhile isBlank).length = true := by
    rw [List.cons_append, List.takeWhile_cons_of_pos (by decide), List.length_cons]
    simp [continues, hplace, hoption, hindent]
  unfold rereadMore
  by_cases hcomment : IsComment ('\t' :: line ++ ['\n'])
  · rw [if_pos hcomment, draft.readLine_of_isComment position hcomment]
    rfl
  · rw [if_neg hcomment, draft.readLine_eq, if_pos hdeeper]
    split
    · next hblank =>
      have hstart : commentStart? ('\t' :: line ++ ['\n']) = none :=
        not_not.1 fun hstart => hcomment (isComment_of_visible_eq_nil hblank hstart)
      rw [if_pos hstart, hblank]
      rfl
    · rfl

/-! ## Sections -/

/-- The draft while a section is read: its settings so far, the current setting, and the settings
met so far. -/
def Draft.inside (draft : Draft) (place : String) (settings : Table (List (List Char)))
    (option : Option String) (seen : List (String × String)) : Draft :=
  { draft.update place fun _ => settings with place := some place, option, indent := 0, seen }

section

variable (draft : Draft) (place : String) (settings : Table (List (List Char)))
  (option : Option String) (seen : List (String × String))

theorem update_inside (change : Table (List (List Char)) → Table (List (List Char))) :
    (draft.inside place settings option seen).update place change =
      draft.inside place (change settings) option seen := by
  unfold Draft.inside Draft.update
  cases hget : draft.sections.get? place with
  | some own => simp
  | none => simp [hget]

theorem extend_inside (name : String) (line : List Char) :
    (draft.inside place settings (some name) seen).extend line =
      draft.inside place (settings.insert name ((settings.get? name).getD [] ++ [line]))
        (some name) seen :=
  update_inside draft place settings (some name) seen fun settings =>
    settings.insert name ((settings.get? name).getD [] ++ [line])

end

/-- Lines are added one by one to those that are there. -/
theorem foldl_extend_inside (draft : Draft) (place name : String)
    (settings : Table (List (List Char))) (seen : List (String × String))
    (before more : List (List Char)) :
    more.foldl Draft.extend (draft.inside place (settings.insert name before) (some name) seen) =
      draft.inside place (settings.insert name (before ++ more)) (some name) seen := by
  induction more generalizing before with
  | nil => rw [List.append_nil, List.foldl_nil]
  | cons line more ih =>
    rw [List.foldl_cons, extend_inside, Table.get?_insert, if_pos rfl, Option.getD_some,
      Table.insert_insert, ih, List.append_assoc, List.singleton_append]

/-! ### One setting -/

theorem setting?_append {name : List Char} (hname : LegibleName name) (rest : List Char) :
    setting? (name ++ ' ' :: '=' :: rest) = some (name, trim rest) := by
  have hbefore : ∀ c ∈ name ++ [' '], (c != '=' && c != ':') = true := by
    rw [List.forall_mem_append]
    refine ⟨fun c hc => ?_, List.all_eq_true.1 (by decide)⟩
    have hequals : c ≠ '=' := fun heq => hname.uncut.1 (heq ▸ hc)
    have hcolon : c ≠ ':' := fun heq => hname.uncut.2 (heq ▸ hc)
    simp [hequals, hcolon]
  have hline : name ++ ' ' :: '=' :: rest = name ++ [' '] ++ '=' :: rest := by simp
  have hcut : ('=' != '=' && '=' != ':') = false := rfl
  rw [setting?, hline, List.dropWhile_append_of_pos hbefore, List.takeWhile_append_of_pos hbefore,
    List.dropWhile_cons_of_neg (by rw [hcut]; decide),
    List.takeWhile_cons_of_neg (by rw [hcut]; decide)]
  dsimp only
  rw [List.append_nil, trimRight_concat_of_blank (by decide), trimRight_eq_self hname.tight.2]

/-- A written setting is recognised, whatever is left of its value. -/
theorem setting?_written {name : List Char} (hname : LegibleName name) (shown : List Char) :
    trim (name ++ equalsSign ++ shown) <+: name ++ equalsSign ++ shown ∧
      trim (name ++ equalsSign ++ shown) ≠ [] ∧
      setting? (trim (name ++ equalsSign ++ shown)) = some (name, trim shown) := by
  have hhead : ∀ c ∈ (name ++ equalsSign ++ shown).head?, isBlank c = false := by
    rw [List.append_assoc]
    exact hname.tight.head?_append hname.ne_nil _
  have hbegins : trim (name ++ equalsSign ++ shown) <+: name ++ equalsSign ++ shown := by
    rw [trim, trimLeft_eq_self hhead]
    exact trimRight_prefix_self _
  have hline : name ++ equalsSign ++ shown = name ++ [' '] ++ '=' :: ' ' :: shown := by
    simp [equalsSign]
  have htrim : trim (name ++ equalsSign ++ shown) =
      name ++ ' ' :: '=' :: trimRight (' ' :: shown) := by
    rw [trim, trimLeft_eq_self hhead, hline, trimRight_append_cons (by decide)]
    simp
  have hblanks : ∀ c ∈ [' '], isBlank c = true := List.all_eq_true.1 (by decide)
  refine ⟨hbegins, ?_, ?_⟩
  · rw [htrim]
    exact List.append_ne_nil_of_left_ne_nil hname.ne_nil _
  · rw [htrim, setting?_append hname, trim_trimRight, ← List.singleton_append,
      trim_append_of_blanks hblanks]

/-- The marks in the value decide whether the line has a comment. -/
theorem isClear_settingLine {name : List Char} (hname : isClear true name = true)
    (first : List Char) :
    isClear true (name ++ equalsSign ++ first ++ ['\n']) = isClear true first := by
  have hsign : isClear (freeAfter true name) equalsSign = true :=
    isClear_of_isClear_true (by decide)
  have hend (free : Bool) : isClear free ['\n'] = true := isClear_of_isClear_true (by decide)
  have hafter : freeAfter true (name ++ equalsSign) = true := by
    rw [freeAfter_append]
    rfl
  rw [isClear_append, isClear_append, isClear_append, hname, hsign, hend, hafter, Bool.and_true]
  rfl

/-- What is read of a written setting: the name and the sign, and the value up to a mark. -/
theorem visible_settingLine {name first : List Char} (hname : isClear true name = true) :
    ∃ shown, shown <+: first ∧
      visible (name ++ equalsSign ++ first ++ ['\n']) = trim (name ++ equalsSign ++ shown) ∧
      (shown = first ↔ isClear true first = true) := by
  have hline := isClear_settingLine hname first
  cases hclear : isClear true first with
  | true =>
    refine ⟨first, List.prefix_rfl, ?_, iff_of_true rfl rfl⟩
    rw [visible_of_isClear (hline.trans hclear), trim_concat_of_blank (by decide)]
  | false =>
    obtain ⟨before, mark, after, hsplit, hmark, hfree, hvisible⟩ :=
      visible_of_not_isClear (hline.trans hclear)
    have hmarked : before ++ [mark] <+: name ++ equalsSign ++ first ++ ['\n'] :=
      ⟨after, by rw [hsplit, List.append_assoc, List.singleton_append]⟩
    -- the mark is neither in the name nor in the sign
    have hshort : ¬before ++ [mark] <+: name ++ equalsSign := by
      rintro ⟨rest, hrest⟩
      have hstart : isClear true (name ++ equalsSign) = true := by
        rw [isClear_append, hname]
        exact isClear_of_isClear_true (by decide)
      rw [isClear_eq_true_iff.1 hstart before mark rest (by simpa using hrest.symm) hmark] at hfree
      cases hfree
    have hlong : name ++ equalsSign <+: before := by
      have hstart : name ++ equalsSign <+: name ++ equalsSign ++ first ++ ['\n'] :=
        (List.prefix_append _ _).trans (List.prefix_append _ _)
      rcases List.prefix_or_prefix_of_prefix hstart hmarked with hlong | hlong
      · rcases List.prefix_concat_iff.1 hlong with heq | hlong
        · exact absurd (heq ▸ List.prefix_rfl) hshort
        · exact hlong
      · exact absurd hlong hshort
    obtain ⟨shown, rfl⟩ := hlong
    have hrest : shown ++ [mark] <+: first ++ ['\n'] := by
      rwa [List.append_assoc, List.append_assoc (name ++ equalsSign),
        List.prefix_append_right_inj] at hmarked
    rcases List.prefix_concat_iff.1 hrest with heq | hfirst
    · obtain ⟨-, hfeed⟩ := List.append_inj' heq rfl
      cases hfeed
      cases hmark
    · refine ⟨shown, (List.prefix_append _ _).trans hfirst, hvisible, iff_of_false ?_ nofun⟩
      rintro rfl
      have hlength := hfirst.length_le
      rw [List.length_append, List.length_singleton] at hlength
      omega

/-- The first line of a value is read from the line that it is written on. -/
theorem setting?_settingLine {name first : List Char} (hname : LegibleName name)
    (hclear : isClear true name = true) :
    visible (name ++ equalsSign ++ first ++ ['\n']) <+: name ++ equalsSign ++ first ∧
      visible (name ++ equalsSign ++ first ++ ['\n']) ≠ [] ∧
      setting? (visible (name ++ equalsSign ++ first ++ ['\n'])) =
        some (name, rereadFirst name first) := by
  obtain ⟨shown, hshown, hvisible, -⟩ := @visible_settingLine name first hclear
  obtain ⟨hbegins, hne, hsetting⟩ := setting?_written hname shown
  rw [rereadFirst, hvisible, hsetting]
  exact ⟨hbegins.trans ((List.prefix_append_right_inj _).2 hshown), hne, rfl⟩

/-- A beginning of the first line of a value is read, and all of it only if no mark is free. -/
theorem rereadFirst_spec {name first : List Char} (hname : LegibleName name)
    (hclear : isClear true name = true) (hfirst : Tight first) :
    rereadFirst name first <+: first ∧ Tight (rereadFirst name first) ∧
      (rereadFirst name first = first ↔ isClear true first = true) := by
  obtain ⟨shown, hshown, hvisible, hwhole⟩ := @visible_settingLine name first hclear
  have hreread : rereadFirst name first = trim shown := by
    rw [rereadFirst, hvisible, (setting?_written hname shown).2.2]
    rfl
  have hbegins : trim shown <+: shown := by
    have hhead : ∀ c ∈ shown.head?, isBlank c = false := by
      obtain ⟨rest, rfl⟩ := hshown
      exact fun c hc => hfirst.1 c (List.mem_head?_append_of_mem_head? hc)
    rw [trim, trimLeft_eq_self hhead]
    exact trimRight_prefix_self _
  rw [hreread, ← hwhole]
  refine ⟨hbegins.trans hshown, tight_trim shown, ?_⟩
  constructor
  · intro htrim
    exact hshown.eq_of_length_le (htrim ▸ hbegins.length_le)
  · rintro rfl
    exact trim_eq_self hfirst

theorem readEntry_setting {draft : Draft} {place : String} {line name value : List Char}
    (hplace : draft.place = some place) (hheader : header? line = none)
    (hsetting : setting? line = some (name, value)) {position : Nat} {text : List Char} :
    draft.readEntry line position text = draft.beginSetting place name value position text := by
  simp only [readEntry, hheader, hplace, hsetting]

theorem readLine_setting (draft : Draft) {place name : String}
    {settings : Table (List (List Char))} {option : Option String} {seen : List (String × String)}
    {first : List Char} {more : List (List Char)} (hlines : LegibleLines name (first :: more))
    (hclear : isClear true name.toList = true) (hnew : (place, name) ∉ seen) (position : Nat) :
    (draft.inside place settings option seen).readLine position
        (name.toList ++ equalsSign ++ first ++ ['\n']) =
      .ok (draft.inside place (settings.insert name [rereadFirst name.toList first]) (some name)
        ((place, name) :: seen)) := by
  have hname := hlines.isName
  obtain ⟨hbegins, hne, hsetting⟩ := @setting?_settingLine name.toList first hname hclear
  have hhead : ∀ c ∈ (name.toList ++ equalsSign ++ first).head?, isBlank c = false := by
    rw [List.append_assoc]
    exact hname.tight.head?_append hname.ne_nil _
  have hheader : header? (visible (name.toList ++ equalsSign ++ first ++ ['\n'])) = none := by
    obtain ⟨first', hfirst', hnone⟩ := hlines.noHeader
    obtain rfl : first = first' := by simpa using hfirst'
    exact header?_eq_none_of_prefix hbegins hnone
  have hoption : String.ofList (lower name.toList) = name := by
    rw [hname.lower_eq, String.ofList_toList]
  have hread : (draft.inside place settings option seen).readLine position
        (name.toList ++ equalsSign ++ first ++ ['\n']) =
      (draft.inside place settings option seen).readEntry
        (visible (name.toList ++ equalsSign ++ first ++ ['\n'])) position
        (name.toList ++ equalsSign ++ first ++ ['\n']) :=
    readLine_atMargin _ position hhead hne
  have hunseen : (place, name) ∉ (draft.inside place settings option seen).seen := hnew
  rw [hread, readEntry_setting rfl hheader hsetting, beginSetting_of_ne_nil hname.ne_nil hoption,
    if_neg hunseen, update_inside]
  rfl

/-- The lines of a setting are read as what is left of its value. -/
theorem reads_setting (draft : Draft) (settings : Table (List (List Char)))
    (option : Option String) {place name : String} {seen : List (String × String)}
    {lines : List (List Char)} (hlines : LegibleLines name lines)
    (hclear : isClear true name.toList = true) (hnew : (place, name) ∉ seen) :
    Reads (draft.inside place settings option seen) (settingLines name lines)
      (draft.inside place (settings.insert name (rereadLines name lines)) (some name)
        ((place, name) :: seen)) := by
  obtain ⟨first, hfirst, -⟩ := hlines.noHeader
  obtain ⟨more, rfl⟩ := List.head?_eq_some_iff.1 hfirst
  have hmore (before more : List (List Char)) :
      Reads (draft.inside place (settings.insert name before) (some name) ((place, name) :: seen))
        (more.map ('\t' :: ·))
        (draft.inside place (settings.insert name (before ++ more.flatMap rereadMore)) (some name)
          ((place, name) :: seen)) := by
    induction more generalizing before with
    | nil =>
      rw [List.flatMap_nil, List.append_nil]
      exact .nil _
    | cons line more ih =>
      have hrest := ih (before ++ rereadMore line)
      rw [List.append_assoc, ← List.flatMap_cons] at hrest
      refine .cons (fun position => ?_) hrest
      rw [readLine_tabbed rfl rfl rfl position, foldl_extend_inside]
  exact .cons (readLine_setting draft hlines hclear hnew)
    (hmore [rereadFirst name.toList first] more)

/-! ### All settings of a section -/

/-- A setting that is read again: it is legible, and no mark of its name is free. -/
structure RestorableSetting (name value : String) : Prop where
  legible : LegibleSetting name value
  clear : isClear true name.toList = true

/-- The current setting is there and has lines. -/
def HasCurrent (settings : Table (List (List Char))) (option : Option String) : Prop :=
  ∀ name ∈ option, ∃ first more, settings.get? name = some (first :: more)

theorem reads_settings (draft : Draft) {place : String} {entries : List (String × String)}
    (hentries : ∀ setting ∈ entries, RestorableSetting setting.1 setting.2)
    (hnodup : (entries.map Prod.fst).Nodup) {settings : Table (List (List Char))}
    {option : Option String} {seen : List (String × String)}
    (hnew : ∀ setting ∈ entries, settings.get? setting.1 = none ∧ (place, setting.1) ∉ seen)
    (hcurrent : HasCurrent settings option) :
    ∃ settings' option' seen',
      Reads (draft.inside place settings option seen) (bodyLines entries)
        (draft.inside place settings' option' seen') ∧
      settings'.entries = settings.entries ++
        entries.map (fun setting =>
          (setting.1, rereadLines setting.1 (cutLines setting.2.toList))) ∧
      HasCurrent settings' option' ∧ ∀ met ∈ seen', met ∈ seen ∨ met.1 = place := by
  induction entries generalizing settings option seen with
  | nil =>
    exact ⟨settings, option, seen, .nil _, by simp, hcurrent, fun _ hmet => .inl hmet⟩
  | cons setting entries ih =>
    rw [List.forall_mem_cons] at hentries hnew
    rw [List.map_cons, List.nodup_cons] at hnodup
    have hlines := hentries.1.legible.lines
    have hreads := reads_setting draft settings option hlines hentries.1.clear hnew.1.2
    have hnew' : ∀ other ∈ entries,
        (settings.insert setting.1
            (rereadLines setting.1 (cutLines setting.2.toList))).get? other.1 = none ∧
          (place, other.1) ∉ (place, setting.1) :: seen := by
      intro other hother
      have hne : other.1 ≠ setting.1 := by
        intro heq
        exact hnodup.1 (List.mem_map.2 ⟨other, hother, heq⟩)
      rw [Table.get?_insert, if_neg hne, List.mem_cons, Prod.mk.injEq]
      exact ⟨(hnew.2 other hother).1, by simp [hne, (hnew.2 other hother).2]⟩
    have hcurrent' : HasCurrent
        (settings.insert setting.1 (rereadLines setting.1 (cutLines setting.2.toList)))
        (some setting.1) := by
      rintro name hname
      obtain rfl : setting.1 = name := by simpa using hname
      obtain ⟨first, hfirst, -⟩ := hlines.noHeader
      obtain ⟨more, hmore⟩ := List.head?_eq_some_iff.1 hfirst
      exact ⟨_, _, by rw [Table.get?_insert, if_pos rfl, hmore, rereadLines]⟩
    obtain ⟨settings', option', seen', hrest, hall, hlast, hseen⟩ :=
      ih hentries.2 hnodup.2 hnew' hcurrent'
    refine ⟨settings', option', seen', hreads.append hrest, ?_, hlast, fun met hmet => ?_⟩
    · rw [hall, Table.insert_of_get?_eq_none hnew.1.1, List.map_cons, List.append_assoc,
        List.singleton_append]
    · rcases hseen met hmet with hmet | hplace
      · exact (List.mem_cons.1 hmet).elim (fun heq => .inr (by rw [heq])) .inl
      · exact .inr hplace

/-- An empty line at the end of a value gets lost. -/
theorem joinSettings_insert_blank {settings : Table (List (List Char))} {name : String}
    {first : List Char} {more : List (List Char)}
    (hget : settings.get? name = some (first :: more)) :
    joinSettings (settings.insert name (first :: more ++ [[]])) = joinSettings settings := by
  have hblank : trimRight (joinValue (first :: more ++ [[]])) =
      trimRight (joinValue (first :: more)) := by
    rw [joinValue_concat, trimRight_concat_of_blank (by decide)]
  rw [joinSettings_eq_map, joinSettings_eq_map, Table.map_insert, hblank]
  refine Table.insert_of_get?_eq_some ?_
  rw [Table.get?_map, hget]
  rfl

/-- The settings whose values have the lines that are left. -/
theorem joinSettings_reread {lines : Table (List (List Char))} {settings : Table String}
    (hlines : lines.entries = settings.entries.map fun setting =>
      (setting.1, rereadLines setting.1 (cutLines setting.2.toList))) :
    joinSettings lines = rereadSettings settings := by
  refine congrArg Table.mk ?_
  rw [hlines, List.map_map]
  rfl

/-- The settings of a section and the empty line after them are read. -/
theorem reads_body (draft : Draft) {place : String} {settings : Table String}
    (hsettings : settings.Every RestorableSetting) {seen : List (String × String)}
    (hnew : ∀ met ∈ seen, met.1 ≠ place) :
    ∃ lines option seen',
      Reads (draft.inside place .empty none seen) (bodyLines settings.entries ++ [[]])
        (draft.inside place lines option seen') ∧
      joinSettings lines = rereadSettings settings ∧ ∀ met ∈ seen', met ∈ seen ∨ met.1 = place := by
  have hnone : HasCurrent .empty none := fun _ hname => nomatch hname
  obtain ⟨lines, option, seen', hreads, hall, hcurrent, hseen⟩ :=
    reads_settings draft hsettings.holds hsettings.nodup
      (fun setting _ => ⟨rfl, fun hmem => hnew _ hmem rfl⟩) hnone
  have hjoin : joinSettings lines = rereadSettings settings := joinSettings_reread hall
  cases option with
  | none =>
    exact ⟨lines, none, seen', hreads.append (.cons (readLine_blank _) (.nil _)), hjoin, hseen⟩
  | some name =>
    obtain ⟨first, more, hget⟩ := hcurrent name rfl
    have hblank := extend_inside draft place lines seen' name []
    rw [hget] at hblank
    refine ⟨lines.insert name (first :: more ++ [[]]), some name, seen',
      hreads.append (.cons (fun position => ?_) (.nil _)), ?_, hseen⟩
    · rw [readLine_blank, hblank]
      rfl
    · rw [joinSettings_insert_blank hget, hjoin]

/-! ## The document -/

theorem readLine_header (draft : Draft) {name : String} (hne : name ≠ "")
    (hclear : isClear false name.toList = true) (hnew : draft.sections.get? name = none)
    (position : Nat) :
    draft.readLine position ('[' :: (name.toList ++ [']']) ++ ['\n']) =
      .ok
        { draft with
          sections := if name = Document.defaultName then draft.sections
            else draft.sections.insert name .empty
          place := some name
          option := none
          indent := 0 } := by
  have htight : Tight ('[' :: (name.toList ++ [']'])) :=
    (tight_singleton (by decide)).append (List.cons_ne_nil _ _) name.toList
      (tight_singleton (by decide)) (List.cons_ne_nil _ _)
  have hvisible : visible ('[' :: (name.toList ++ [']']) ++ ['\n']) =
      '[' :: (name.toList ++ [']']) := by
    have hbracket : isBlank '[' = false := by decide
    have hends (free : Bool) : isClear free [']', '\n'] = true :=
      isClear_of_isClear_true (by decide)
    have hline : isClear true ('[' :: (name.toList ++ [']']) ++ ['\n']) = true := by
      rw [List.cons_append, List.append_assoc, isClear, hbracket, isClear_append, hclear]
      exact hends _
    rw [visible_of_isClear hline, trim_concat_of_blank (by decide)]
    exact trim_eq_self htight
  have hheader : header? ('[' :: (name.toList ++ [']'])) = some name.toList :=
    header?_brackets (by simpa using hne)
  rw [readLine_atMargin draft position htight.1 (by rw [hvisible]; exact List.cons_ne_nil _ _),
    hvisible]
  simp [readEntry, hheader, beginSection, Table.contains, hnew]

/-- A section that is read again: its name is legible, and no mark of it is free. -/
structure RestorablePlace (name : String) : Prop where
  legible : LegiblePlace name
  clear : isClear false name.toList = true

/-- A section is read as what is left of its settings. -/
theorem reads_section (draft : Draft) {name : String} {settings : Table String}
    (hname : RestorablePlace name) (hsettings : settings.Every RestorableSetting)
    (hnew : draft.sections.get? name = none) (hseen : ∀ met ∈ draft.seen, met.1 ≠ name) :
    ∃ lines next, Reads draft (sectionLines name settings) next ∧
      joinSettings lines = rereadSettings settings ∧
      next.sections = draft.sections.insert name lines ∧ next.defaults = draft.defaults ∧
      next.unreadable = draft.unreadable ∧ ∀ met ∈ next.seen, met ∈ draft.seen ∨ met.1 = name := by
  let opened : Draft := { draft with sections := draft.sections.insert name .empty }
  have hget : opened.sections.get? name = some .empty := by simp [opened]
  have hheader (position : Nat) :
      draft.readLine position ('[' :: (name.toList ++ [']']) ++ ['\n']) =
        .ok (opened.inside name .empty none draft.seen) := by
    rw [readLine_header draft hname.legible.ne_empty hname.clear hnew,
      if_neg hname.legible.ne_default]
    simp [Draft.inside, Draft.update, hget, opened]
  obtain ⟨lines, option, seen, hreads, hjoin, hmet⟩ := reads_body opened hsettings hseen
  refine ⟨lines, opened.inside name lines option seen, .cons hheader hreads, hjoin, ?_, ?_, ?_,
    hmet⟩
  all_goals simp [Draft.inside, Draft.update, hget, opened]

/-- The defaults are read as what is left of them. -/
theorem reads_defaults {settings : Table String} (hsettings : settings.Every RestorableSetting) :
    ∃ next, Reads {} (sectionLines Document.defaultName settings) next ∧
      joinSettings next.defaults = rereadSettings settings ∧ next.sections = .empty ∧
      next.unreadable = [] ∧
      ∀ met ∈ next.seen, met.1 = Document.defaultName := by
  have hheader (position : Nat) :
      ({} : Draft).readLine position
          ('[' :: (Document.defaultName.toList ++ [']']) ++ ['\n']) =
        .ok (({} : Draft).inside Document.defaultName .empty none []) := by
    rw [readLine_header {} (by decide) (by decide) rfl, if_pos rfl]
    rfl
  have hnew : ∀ met ∈ ([] : List (String × String)), met.1 ≠ Document.defaultName := by simp
  obtain ⟨lines, option, seen, hreads, hjoin, hmet⟩ := reads_body {} hsettings hnew
  refine ⟨_, .cons hheader hreads, hjoin, rfl, rfl, fun met hmem => ?_⟩
  simpa using hmet met hmem

/-- Sections are read in their order. -/
theorem reads_sections (entries : List (String × Table String))
    (hentries : ∀ entry ∈ entries, RestorablePlace entry.1 ∧ entry.2.Every RestorableSetting)
    (hnodup : (entries.map Prod.fst).Nodup) (draft : Draft)
    (hnew : ∀ entry ∈ entries, draft.sections.get? entry.1 = none ∧
      ∀ met ∈ draft.seen, met.1 ≠ entry.1) :
    ∃ next, Reads draft (entries.flatMap fun entry => sectionLines entry.1 entry.2) next ∧
      (next.sections.map joinSettings).entries =
        (draft.sections.map joinSettings).entries ++
          entries.map (fun entry => (entry.1, rereadSettings entry.2)) ∧
      next.defaults = draft.defaults ∧ next.unreadable = draft.unreadable := by
  induction entries generalizing draft with
  | nil => exact ⟨draft, .nil _, by simp, rfl, rfl⟩
  | cons entry entries ih =>
    rw [List.forall_mem_cons] at hentries hnew
    rw [List.map_cons, List.nodup_cons] at hnodup
    obtain ⟨lines, middle, hreads, hjoin, hsections, hdefaults, hunreadable, hmet⟩ :=
      reads_section draft hentries.1.1 hentries.1.2 hnew.1.1 hnew.1.2
    have hnew' : ∀ other ∈ entries, middle.sections.get? other.1 = none ∧
        ∀ met ∈ middle.seen, met.1 ≠ other.1 := by
      intro other hother
      have hne : other.1 ≠ entry.1 := fun heq => hnodup.1 (List.mem_map.2 ⟨other, hother, heq⟩)
      constructor
      · rw [hsections, Table.get?_insert, if_neg hne]
        exact (hnew.2 other hother).1
      · intro met hmem
        rcases hmet met hmem with hmem | hplace
        · exact (hnew.2 other hother).2 met hmem
        · rw [hplace]
          exact hne.symm
    obtain ⟨next, hrest, hall, hdefaults', hunreadable'⟩ := ih hentries.2 hnodup.2 middle hnew'
    refine ⟨next, hreads.append hrest, ?_, hdefaults'.trans hdefaults,
      hunreadable'.trans hunreadable⟩
    rw [hall, hsections, Table.insert_of_get?_eq_none hnew.1.1]
    simp [Table.map, hjoin]

/-- A document that is read again. -/
structure Restorable (document : Document) : Prop where
  defaults : document.defaults.Every RestorableSetting
  sections : document.sections.Every fun name settings =>
    RestorablePlace name ∧ settings.Every RestorableSetting

theorem Restorable.legible {document : Document} (hrestorable : Restorable document) :
    Legible document where
  defaults := hrestorable.defaults.mono fun _ _ hsetting => hsetting.legible
  sections := hrestorable.sections.mono fun _ _ hsection =>
    ⟨hsection.1.legible, hsection.2.mono fun _ _ hsetting => hsetting.legible⟩

theorem reads_document {document : Document} (hrestorable : Restorable document) :
    ∃ next, Reads {} (documentLines document) next ∧ next.finish = .ok (reread document) := by
  -- after the defaults, if there are any
  obtain ⟨middle, hreads, hdefaults, hsections, hunreadable, hmet⟩ :
      ∃ middle, Reads {} (if document.defaults.entries.isEmpty then []
          else sectionLines Document.defaultName document.defaults) middle ∧
        joinSettings middle.defaults = rereadSettings document.defaults ∧
        middle.sections = .empty ∧ middle.unreadable = [] ∧
        ∀ met ∈ middle.seen, met.1 = Document.defaultName := by
    split
    · next hempty =>
      refine ⟨{}, .nil _, ?_, rfl, rfl, fun _ hmet => nomatch hmet⟩
      rw [rereadSettings, List.isEmpty_iff.1 hempty]
      rfl
    · exact reads_defaults hrestorable.defaults
  have hnew : ∀ entry ∈ document.sections.entries, middle.sections.get? entry.1 = none ∧
      ∀ met ∈ middle.seen, met.1 ≠ entry.1 := by
    intro entry hentry
    refine ⟨by rw [hsections, Table.get?_empty], fun met hmem => ?_⟩
    rw [hmet met hmem]
    exact (hrestorable.sections.holds entry hentry).1.legible.ne_default.symm
  obtain ⟨next, hrest, hall, hdefaults', hunreadable'⟩ := reads_sections document.sections.entries
    hrestorable.sections.holds hrestorable.sections.nodup middle hnew
  refine ⟨next, hreads.append hrest, ?_⟩
  have hjoined : next.sections.map joinSettings = document.sections.map rereadSettings := by
    rw [hsections] at hall
    exact congrArg Table.mk hall
  have hreadable : next.unreadable = [] := hunreadable'.trans hunreadable
  rw [finish, hreadable, hdefaults', hdefaults]
  exact congrArg (fun sections => Except.ok (Document.mk (rereadSettings document.defaults)
    sections)) hjoined

/-- **A restorable document is read again**, as what is left of it. -/
theorem Restorable.read_write {document : Document} (hrestorable : Restorable document) :
    read document.write = .ok (reread document) := by
  obtain ⟨next, hreads, hfinish⟩ := reads_document hrestorable
  rw [read, toList_write, fileLines_ended hrestorable.legible.oneLine_documentLines, hreads]
  exact hfinish

end DeckScript.Settings
