import DeckScript.Proofs.Settings.Comments
import DeckScript.Proofs.Settings.Legible

/-!
# What is read from a file

A file is read line by line, and of each line only its visible part matters
(`readLine_eq`).  `DraftEvery` is what reading keeps: the sections and settings read so far
have the properties that the visible parts give them (`Fits`), and the setting that the
next line may continue is there.

At the end the lines of each value are joined and blanks after them dropped; only empty
lines at the end of a value get lost by that (`exists_joinValue_eq_trimRight`).

So whatever is read is legible (`legible_of_read`).  If every comment of the file has a line
of its own, no mark of one is left, and what is read can be stored (`storable_of_read`).
-/

namespace DeckScript.Settings

open Text

/-! ## Lines of a file -/

theorem notMem_unifyLineEnds (cs : List Char) : '\r' ∉ unifyLineEnds cs := by
  fun_induction unifyLineEnds cs with
  | case1 => simp
  | case2 cs ih => simpa using ih
  | case3 c cs _ ih =>
    rw [List.mem_cons, not_or]
    refine ⟨?_, ih⟩
    split
    · decide
    · next hc => exact Ne.symm hc

/-- A line is part of the text, and a line feed can only stand at its end. -/
theorem mem_fileLines {cs line : List Char} (hline : line ∈ fileLines cs) :
    (∀ c ∈ line, c ∈ cs) ∧ ∃ body, '\n' ∉ body ∧ (line = body ∨ line = body ++ ['\n']) := by
  induction cs generalizing line with
  | nil => cases hline
  | cons c cs ih =>
    rw [fileLines] at hline
    split at hline
    · next hfeed =>
      rcases List.mem_cons.1 hline with rfl | hrest
      · exact ⟨by simp, [], by simp, by simp [hfeed]⟩
      · exact ⟨fun d hd => List.mem_cons_of_mem _ ((ih hrest).1 d hd), (ih hrest).2⟩
    · next hfeed =>
      have hhead (start : List Char) (hstart : start = [] ∨ start ∈ fileLines cs) :
          (∀ d ∈ c :: start, d ∈ c :: cs) ∧
            ∃ body, '\n' ∉ body ∧ (c :: start = body ∨ c :: start = body ++ ['\n']) := by
        rcases hstart with rfl | hstart
        · exact ⟨by simp, [c], by simpa using Ne.symm hfeed, .inl rfl⟩
        · obtain ⟨hsubset, body, hbody, hstart⟩ := ih hstart
          refine ⟨List.forall_mem_cons.2 ⟨List.mem_cons_self .., fun d hd =>
            List.mem_cons_of_mem _ (hsubset d hd)⟩, c :: body, ?_, ?_⟩
          · rw [List.mem_cons, not_or]
            exact ⟨Ne.symm hfeed, hbody⟩
          · exact hstart.imp (congrArg (c :: ·)) (congrArg (c :: ·))
      split at hline
      · rw [List.mem_singleton.1 hline]
        exact hhead [] (.inl rfl)
      · next first rest hlines =>
        rcases List.mem_cons.1 hline with rfl | hrest
        · exact hhead first (.inr (hlines ▸ List.mem_cons_self ..))
        · have hmem : line ∈ fileLines cs := hlines ▸ List.mem_cons_of_mem _ hrest
          exact ⟨fun d hd => List.mem_cons_of_mem _ ((ih hmem).1 d hd), (ih hmem).2⟩

/-- Every comment of the text has a line of its own. -/
def CommentsApart (text : String) : Prop :=
  ∀ line ∈ fileLines (unifyLineEnds text.toList), '#' ∈ line ∨ ';' ∈ line → IsComment line

instance (text : String) : Decidable (CommentsApart text) :=
  inferInstanceAs (Decidable (∀ line ∈ fileLines (unifyLineEnds text.toList),
    '#' ∈ line ∨ ';' ∈ line → IsComment line))

/-- No line end is left in what is read of a line. -/
theorem oneLine_visible {text : String} {line : List Char}
    (hline : line ∈ fileLines (unifyLineEnds text.toList)) : OneLine (visible line) := by
  obtain ⟨hsubset, body, hbody, hends⟩ := mem_fileLines hline
  constructor
  · intro hfeed
    obtain ⟨start, rest, hstart, hvisible, hrest⟩ := exists_visible_eq line
    rw [hvisible] at hfeed
    rcases hends with rfl | rfl
    · exact hbody (hstart ▸ List.mem_append_left _ (mem_of_mem_trim hfeed))
    · rcases List.prefix_concat_iff.1 ⟨rest, hstart.symm⟩ with rfl | hbegins
      · rw [trim_concat_of_blank (by decide)] at hfeed
        exact hbody (mem_of_mem_trim hfeed)
      · exact hbody (hbegins.subset (mem_of_mem_trim hfeed))
  · intro hreturn
    exact notMem_unifyLineEnds _ (hsubset _ (mem_of_mem_visible hreturn))

/-- If comments have lines of their own, no mark is left either. -/
theorem plain_visible {text : String} (happart : CommentsApart text) {line : List Char}
    (hline : line ∈ fileLines (unifyLineEnds text.toList)) : Plain (visible line) := by
  by_cases hmarks : '#' ∈ line ∨ ';' ∈ line
  · rw [visible_of_isComment (happart line hline hmarks)]
    decide
  · rw [not_or] at hmarks
    have honeLine := oneLine_visible hline
    intro c hc
    have hmem := mem_of_mem_visible hc
    have hreturn : c ≠ '\r' := fun heq => honeLine.2 (heq ▸ hc)
    have hfeed : c ≠ '\n' := fun heq => honeLine.1 (heq ▸ hc)
    have hhash : c ≠ '#' := fun heq => hmarks.1 (heq ▸ hmem)
    have hsemicolon : c ≠ ';' := fun heq => hmarks.2 (heq ▸ hmem)
    simp [hreturn, hfeed, hhash, hsemicolon]

/-! ## Lines without comments in them -/

namespace Draft

/-- A line is blank or a comment, or continues a setting, or stands for itself. -/
theorem readLine_eq (draft : Draft) (line : Nat) (text : List Char) :
    draft.readLine line text =
      if visible text = [] then
        .ok (if commentStart? text = none then draft.extend [] else draft)
      else if draft.continues (text.takeWhile isBlank).length then
        .ok (draft.extend (visible text))
      else { draft with indent := (text.takeWhile isBlank).length }.readEntry (visible text) line
        text := by
  simp only [readLine, List.isEmpty_iff, Option.isNone_iff_eq_none]
  rfl

theorem readLine_of_isComment (draft : Draft) (line : Nat) {text : List Char}
    (hcomment : IsComment text) : draft.readLine line text = .ok draft := by
  rw [readLine_eq, if_pos (visible_of_isComment hcomment), if_neg]
  rw [commentStart?_of_isComment hcomment]
  exact Option.some_ne_none _

theorem readLine_of_noMark (draft : Draft) (line : Nat) {text : List Char} (hhash : '#' ∉ text)
    (hsemicolon : ';' ∉ text) :
    draft.readLine line text =
      if trim text = [] then .ok (draft.extend [])
      else if draft.continues (text.takeWhile isBlank).length then .ok (draft.extend (trim text))
      else { draft with indent := (text.takeWhile isBlank).length }.readEntry (trim text) line
        text := by
  have hclear : isClear true text = true := by
    refine isClear_of_forall fun c hc => ?_
    rw [← Bool.not_eq_true, isMark_iff]
    rintro (rfl | rfl)
    · exact hhash hc
    · exact hsemicolon hc
  rw [readLine_eq, visible_of_isClear hclear, if_pos (commentStart?_eq_none_iff.2 hclear)]

/-! ## Drafts -/

/-- The settings that a line in the given section is written to. -/
def table (draft : Draft) (place : String) : Table (List (List Char)) :=
  (draft.sections.get? place).getD draft.defaults

theorem table_update (draft : Draft) (place : String)
    (change : Table (List (List Char)) → Table (List (List Char))) :
    (draft.update place change).table place = change (draft.table place) := by
  unfold update table
  cases hget : draft.sections.get? place with
  | some settings => simp
  | none => simp [hget]

section

variable (draft : Draft) (place : String)
  (change : Table (List (List Char)) → Table (List (List Char)))

@[simp] theorem place_update : (draft.update place change).place = draft.place := by
  unfold update
  split <;> rfl

@[simp] theorem option_update : (draft.update place change).option = draft.option := by
  unfold update
  split <;> rfl

@[simp] theorem seen_update : (draft.update place change).seen = draft.seen := by
  unfold update
  split <;> rfl

@[simp] theorem unreadable_update : (draft.update place change).unreadable = draft.unreadable := by
  unfold update
  split <;> rfl

end

/-- A setting with a name begins, unless there is one of the name. -/
theorem beginSetting_of_ne_nil {draft : Draft} {place option : String} {name value : List Char}
    (hne : name ≠ []) (hoption : String.ofList (lower name) = option) {line : Nat}
    {text : List Char} :
    draft.beginSetting place name value line text =
      if (place, option) ∈ draft.seen then .error (.duplicateOption place option line)
      else
        .ok { draft.update place fun settings => settings.insert option [value] with
          seen := (place, option) :: draft.seen
          option := some option } := by
  have hnonempty : option.isEmpty = false := by
    rw [← hoption]
    simpa [lower_eq_nil_iff] using hne
  have hname : name.isEmpty = false := by simpa using hne
  simp [beginSetting, hname, hoption, hnonempty]

theorem unreadable_beginSetting {draft next : Draft} {place : String} {name value : List Char}
    {line : Nat} {text : List Char}
    (hread : draft.beginSetting place name value line text = .ok next) :
    draft.unreadable <+: next.unreadable ∧ (name = [] → next.unreadable ≠ []) := by
  by_cases hname : name = []
  · simp only [beginSetting, hname, List.isEmpty_nil, if_true] at hread
    split at hread
    · cases hread
    · cases hread
      simp
  · rw [beginSetting_of_ne_nil hname rfl] at hread
    split at hread
    · cases hread
    · cases hread
      simp [hname]

theorem unreadable_readEntry {draft next : Draft} {value : List Char} {line : Nat}
    {text : List Char} (hread : draft.readEntry value line text = .ok next) :
    draft.unreadable <+: next.unreadable := by
  unfold readEntry at hread
  split at hread
  · unfold beginSection at hread
    split at hread
    · cases hread
    · cases hread
      exact List.prefix_rfl
  · split at hread
    · cases hread
    · split at hread
      · exact (unreadable_beginSetting hread).1
      · cases hread
        exact List.prefix_append _ _

@[simp] theorem unreadable_extend (draft : Draft) (line : List Char) :
    (draft.extend line).unreadable = draft.unreadable := by
  unfold extend
  split
  · exact unreadable_update ..
  · rfl

/-- Lines that cannot be read are never forgotten. -/
theorem unreadable_readLine {draft next : Draft} {line : Nat} {text : List Char}
    (hread : draft.readLine line text = .ok next) : draft.unreadable <+: next.unreadable := by
  rw [readLine_eq] at hread
  split at hread
  · split at hread
    · cases hread
      simp
    · cases hread
      exact List.prefix_rfl
  · split at hread
    · cases hread
      simp
    · have hentry := unreadable_readEntry hread
      exact hentry

theorem unreadable_readLines {draft next : Draft} {line : Nat} {lines : List (List Char)}
    (hread : draft.readLines line lines = .ok next) : draft.unreadable <+: next.unreadable := by
  induction lines generalizing draft line with
  | nil =>
    cases hread
    exact List.prefix_rfl
  | cons text rest ih =>
    rw [readLines] at hread
    split at hread
    · next middle hmiddle => exact (unreadable_readLine hmiddle).trans (ih hread)
    · cases hread

end Draft

/-! ## What reading keeps -/

/-- The sections read so far have the property `P` and the settings with their lines `Q`, and the
setting that may be continued is there. -/
structure DraftEvery (P : String → Prop) (Q : String → List (List Char) → Prop) (draft : Draft) :
    Prop where
  defaults : draft.defaults.Every Q
  sections : draft.sections.Every fun name settings => P name ∧ settings.Every Q
  current : ∀ place ∈ draft.place, ∀ option ∈ draft.option,
    ∃ lines, (draft.table place).get? option = some lines

/-- What is read of a line makes only sections with the property `P` and settings with `Q`. -/
structure Fits (P : String → Prop) (Q : String → List (List Char) → Prop) (value : List Char) :
    Prop where
  header : ∀ name, header? value = some name → String.ofList name ≠ Document.defaultName →
    P (String.ofList name)
  setting : header? value = none → ∀ name first, setting? value = some (name, first) →
    name ≠ [] → Q (String.ofList (lower name)) [first]
  continuation : ∀ option lines, Q option lines → Q option (lines ++ [value])

namespace DraftEvery

variable {P : String → Prop} {Q : String → List (List Char) → Prop} {draft next : Draft}

theorem empty : DraftEvery P Q {} :=
  ⟨.empty _, .empty _, fun _ hplace => nomatch hplace⟩

theorem table (hdraft : DraftEvery P Q draft) (place : String) : (draft.table place).Every Q := by
  unfold Draft.table
  cases hget : draft.sections.get? place with
  | some settings => exact (hdraft.sections.get? hget).2
  | none => exact hdraft.defaults

theorem update (hdraft : DraftEvery P Q draft) (place : String)
    (change : Table (List (List Char)) → Table (List (List Char)))
    (hchange : (change (draft.table place)).Every Q) :
    (draft.update place change).defaults.Every Q ∧
      (draft.update place change).sections.Every fun name settings =>
        P name ∧ settings.Every Q := by
  unfold Draft.table at hchange
  unfold Draft.update
  cases hget : draft.sections.get? place with
  | some settings =>
    rw [hget] at hchange
    exact ⟨hdraft.defaults, hdraft.sections.insert ⟨(hdraft.sections.get? hget).1, hchange⟩⟩
  | none =>
    rw [hget] at hchange
    exact ⟨hchange, hdraft.sections⟩

/-- Lines are written to a setting of the current section, which becomes the current one. -/
theorem write (hdraft : DraftEvery P Q draft) {place option : String}
    (hplace : draft.place = some place)
    (lines : Table (List (List Char)) → List (List Char))
    (hlines : Q option (lines (draft.table place))) :
    DraftEvery P Q
      { draft.update place fun settings => settings.insert option (lines settings) with
        option := some option } := by
  obtain ⟨hdefaults, hsections⟩ := hdraft.update place
    (fun settings => settings.insert option (lines settings))
    ((hdraft.table place).insert hlines)
  refine ⟨hdefaults, hsections, ?_⟩
  intro place' hplace' option' hoption'
  obtain rfl : place = place' := by simpa [hplace] using hplace'
  obtain rfl : option = option' := by simpa using hoption'
  refine ⟨lines (draft.table place), ?_⟩
  show ((draft.update place _).table place).get? option = _
  rw [draft.table_update, Table.get?_insert, if_pos rfl]

/-- A line is added to the current setting. -/
theorem extend (hdraft : DraftEvery P Q draft) {line : List Char} (hline : Fits P Q line) :
    DraftEvery P Q (draft.extend line) := by
  unfold Draft.extend
  split
  · next place option hplace hoption =>
    obtain ⟨lines, hlines⟩ := hdraft.current place hplace option hoption
    have hlonger : Q option (lines ++ [line]) :=
      hline.continuation option lines ((hdraft.table place).get? hlines)
    have hnext := hdraft.write hplace
      (fun settings => (settings.get? option).getD [] ++ [line]) (by rw [hlines]; exact hlonger)
    rwa [← hoption, ← Draft.option_update draft place] at hnext
  · exact hdraft

theorem beginSection (hdraft : DraftEvery P Q draft) {name : String}
    (hname : name ≠ Document.defaultName → P name) {line : Nat}
    (hnext : draft.beginSection name line = .ok next) : DraftEvery P Q next := by
  unfold Draft.beginSection at hnext
  split at hnext
  · cases hnext
  · cases hnext
    refine ⟨hdraft.defaults, ?_, fun _ _ _ hoption => nomatch hoption⟩
    split
    · exact hdraft.sections
    · next hdefault => exact hdraft.sections.insert ⟨hname hdefault, .empty _⟩

theorem beginSetting (hdraft : DraftEvery P Q draft) {place : String}
    (hplace : draft.place = some place) {name value : List Char} (hne : name ≠ [])
    (hlines : Q (String.ofList (lower name)) [value]) {line : Nat} {text : List Char}
    (hnext : draft.beginSetting place name value line text = .ok next) : DraftEvery P Q next := by
  rw [Draft.beginSetting_of_ne_nil hne rfl] at hnext
  split at hnext
  · cases hnext
  · cases hnext
    have hwritten := hdraft.write hplace (fun _ => [value]) hlines
    exact ⟨hwritten.defaults, hwritten.sections, hwritten.current⟩

theorem readEntry (hdraft : DraftEvery P Q draft) {value : List Char} (hvalue : Fits P Q value)
    {line : Nat} {text : List Char} (hread : draft.readEntry value line text = .ok next)
    (hreadable : next.unreadable = []) : DraftEvery P Q next := by
  unfold Draft.readEntry at hread
  split at hread
  · next name hname => exact hdraft.beginSection (hvalue.header name hname) hread
  · next hheader =>
    split at hread
    · cases hread
    · next place hplace =>
      split at hread
      · next name first hsetting =>
        have hne : name ≠ [] := fun hnil => (Draft.unreadable_beginSetting hread).2 hnil hreadable
        exact hdraft.beginSetting hplace hne (hvalue.setting hheader name first hsetting hne) hread
      · cases hread
        simp at hreadable

/-- A line keeps the properties if it fits, unless it cannot be read. -/
theorem readLine (hdraft : DraftEvery P Q draft) {line : Nat} {text : List Char}
    (htext : Fits P Q (visible text)) (hread : draft.readLine line text = .ok next)
    (hreadable : next.unreadable = []) : DraftEvery P Q next := by
  rw [Draft.readLine_eq] at hread
  split at hread
  · next hblank =>
    split at hread
    · cases hread
      exact hdraft.extend (hblank ▸ htext)
    · cases hread
      exact hdraft
  · split at hread
    · cases hread
      exact hdraft.extend htext
    · have hindented : DraftEvery P Q { draft with indent := (text.takeWhile isBlank).length } :=
        ⟨hdraft.defaults, hdraft.sections, hdraft.current⟩
      exact hindented.readEntry htext hread hreadable

theorem readLines (hdraft : DraftEvery P Q draft) {line : Nat} {lines : List (List Char)}
    (hlines : ∀ text ∈ lines, Fits P Q (visible text))
    (hread : draft.readLines line lines = .ok next) (hreadable : next.unreadable = []) :
    DraftEvery P Q next := by
  induction lines generalizing draft line with
  | nil =>
    cases hread
    exact hdraft
  | cons text rest ih =>
    rw [List.forall_mem_cons] at hlines
    rw [Draft.readLines] at hread
    split at hread
    · next middle hmiddle =>
      have hmiddleReadable : middle.unreadable = [] :=
        List.prefix_nil.1 (hreadable ▸ Draft.unreadable_readLines hread)
      exact ih (hdraft.readLine hlines.1 hmiddle hmiddleReadable) hlines.2 hread
    · cases hread

end DraftEvery

/-! ## Settings -/

/-- If a line that starts a setting is no header, the line on which the setting is written is none
either. -/
theorem header?_written {before after name value : List Char} {d : Char}
    (hheader : header? (before ++ d :: after) = none) (hname : name <+: before) (hne : name ≠ [])
    (hvalue : ∀ c ∈ value, c ∈ after) : header? (lower name ++ equalsSign ++ value) = none := by
  rw [header?_eq_none_iff]
  intro rest hrest hbracket
  have hhead : '[' ∈ (lower name).head? := by
    have hlower : lower name ≠ [] := mt lower_eq_nil_iff.1 hne
    rw [← List.head?_append_of_ne_nil _ hlower, ← List.append_assoc, hrest]
    rfl
  obtain ⟨inner, rfl⟩ := List.head?_eq_some_iff.1 (Case.mem_head?_lowerAfter hhead (by decide))
  obtain ⟨more, rfl⟩ := hname
  have hlower : lower ('[' :: inner) = '[' :: Case.lowerAfter ['['] inner := by
    have hhere : Case.lowerAt [] '[' inner = ['['] := by
      rw [Case.lowerAt, if_neg (by decide)]
      decide
    rw [lower, Case.lowerAfter_cons, hhere]
    rfl
  rw [hlower] at hrest
  obtain rfl : Case.lowerAfter ['['] inner ++ equalsSign ++ value = rest :=
    (List.cons.inj hrest).2
  refine header?_eq_none_iff.1 hheader (inner ++ more ++ d :: after) (by simp) ?_
  -- after the first character of the name, the written line has brackets only where there were some
  cases inner with
  | nil =>
    have hmem : ']' ∈ value := by simpa [Case.lowerAfter, equalsSign] using hbracket
    cases more <;> simp [hvalue _ hmem]
  | cons c inner =>
    have hnonempty : Case.lowerAfter ['['] (c :: inner) ≠ [] :=
      mt Case.lowerAfter_eq_nil_iff.1 (List.cons_ne_nil _ _)
    rw [List.append_assoc, List.tail_append_of_ne_nil hnonempty, List.mem_append] at hbracket
    rcases hbracket with hinner | hvalue'
    · have hmem : ']' ∈ inner := Case.mem_tail_lowerAfter hinner (by decide)
      simp [hmem]
    · have hmem : ']' ∈ value := by simpa [equalsSign] using hvalue'
      simp [hvalue _ hmem]

/-- The parts of a setting are parts of its line. -/
theorem parts_of_setting? {cs name value : List Char}
    (hsetting : setting? cs = some (name, value)) :
    ∃ before d after, cs = before ++ d :: after ∧ name <+: before ∧
      (∀ c ∈ before, (c != '=' && c != ':') = true) ∧ Tight value ∧ (∀ c ∈ value, c ∈ after) ∧
      ∀ c ∈ name.getLast?, isBlank c = false := by
  unfold setting? at hsetting
  split at hsetting
  · cases hsetting
  · next d after hafter =>
    generalize hbefore : cs.takeWhile (fun c => c != '=' && c != ':') = before at hsetting
    obtain ⟨rfl, rfl⟩ := Prod.mk.inj (Option.some.inj hsetting)
    refine ⟨before, d, after, ?_, trimRight_prefix_self before, ?_, tight_trim after,
      fun c hc => mem_of_mem_trim hc, getLast?_trimRight before⟩
    · rw [← hbefore, ← hafter]
      exact List.takeWhile_append_dropWhile.symm
    · intro c hc
      rw [← hbefore] at hc
      have hholds := List.mem_takeWhile_imp hc
      exact hholds

/-- A setting on a line that is no header can be written. -/
theorem legibleLines_of_setting? {cs name value : List Char} (htight : Tight cs)
    (honeLine : OneLine cs) (hheader : header? cs = none)
    (hsetting : setting? cs = some (name, value)) (hne : name ≠ []) :
    LegibleLines (String.ofList (lower name)) [value] := by
  obtain ⟨before, d, after, rfl, hname, hbefore, hvalue, hafter, hlast⟩ :=
    parts_of_setting? hsetting
  have hbegins : name <+: before ++ d :: after := hname.trans (List.prefix_append _ _)
  refine ⟨?_, ?_, value, rfl, ?_⟩
  · rw [String.toList_ofList]
    refine .of_lower hne ⟨fun c hc => ?_, hlast⟩ (honeLine.mono fun c hc => hbegins.subset hc) ?_
    · obtain ⟨more, hmore⟩ := hbegins
      exact htight.1 c (hmore ▸ List.mem_head?_append_of_mem_head? hc)
    · exact ⟨fun hequals => absurd (hbefore _ (hname.subset hequals)) (by decide),
        fun hcolon => absurd (hbefore _ (hname.subset hcolon)) (by decide)⟩
  · intro line hline
    rw [List.mem_singleton.1 hline]
    exact ⟨hvalue, honeLine.mono fun c hc =>
      List.mem_append_right _ (List.mem_cons_of_mem _ (hafter c hc))⟩
  · rw [String.toList_ofList]
    exact header?_written hheader hname hne hafter

/-! ## Files -/

/-- A line makes legible sections and settings. -/
theorem fits_legible {value : List Char} (htight : Tight value) (honeLine : OneLine value) :
    Fits LegiblePlace LegibleLines value where
  header name hname hdefault := by
    obtain ⟨hne, hsubset⟩ := mem_of_header? hname
    refine ⟨by simpa using hne, hdefault, ?_⟩
    rw [String.toList_ofList]
    exact honeLine.mono hsubset
  setting hheader name first hsetting hne :=
    legibleLines_of_setting? htight honeLine hheader hsetting hne
  continuation option lines hlines := by
    refine ⟨hlines.isName, ?_, ?_⟩
    · rw [List.forall_mem_append]
      exact ⟨hlines.line, by simpa using ⟨htight, honeLine⟩⟩
    · obtain ⟨first, hfirst, hnone⟩ := hlines.noHeader
      exact ⟨first, List.mem_head?_append_of_mem_head? hfirst, hnone⟩

/-- The name and all lines of a setting are plain. -/
def PlainLines (name : String) (lines : List (List Char)) : Prop :=
  Plain name.toList ∧ ∀ line ∈ lines, Plain line

/-- A line without marks makes sections and settings without marks. -/
theorem fits_plain {value : List Char} (hplain : Plain value) :
    Fits (fun name => Plain name.toList) PlainLines value where
  header name hname _ := by
    rw [String.toList_ofList]
    exact hplain.mono (mem_of_header? hname).2
  setting _ name first hsetting _ := by
    obtain ⟨before, d, after, rfl, hname, -, -, hafter, -⟩ := parts_of_setting? hsetting
    refine ⟨?_, ?_⟩
    · rw [String.toList_ofList]
      exact Plain.lower (hplain.mono fun c hc => List.mem_append_left _ (hname.subset hc))
    · intro line hline
      rw [List.mem_singleton.1 hline]
      exact hplain.mono fun c hc => List.mem_append_right _ (List.mem_cons_of_mem _ (hafter c hc))
  continuation option lines hlines :=
    ⟨hlines.1, List.forall_mem_append.2 ⟨hlines.2, by simpa using hplain⟩⟩

/-! ## Joining the lines of a value -/

open Draft Script

theorem joinSettings_eq_map (settings : Table (List (List Char))) :
    joinSettings settings =
      settings.map fun lines => String.ofList (trimRight (joinValue lines)) := rfl

theorem joinValue_cons_cons (line first : List Char) (more : List (List Char)) :
    joinValue (line :: first :: more) = line ++ '\n' :: joinValue (first :: more) := rfl

theorem joinValue_concat (first : List Char) (more : List (List Char)) (line : List Char) :
    joinValue (first :: more ++ [line]) = joinValue (first :: more) ++ '\n' :: line := by
  induction more generalizing first with
  | nil => rfl
  | cons next more ih =>
    rw [List.cons_append, List.cons_append, joinValue_cons_cons, ← List.cons_append, ih,
      joinValue_cons_cons, List.append_assoc, List.cons_append]

/-- The lines of a joined value are found again. -/
theorem cutLines_joinValue {first : List Char} {more : List (List Char)}
    (honeLine : ∀ line ∈ first :: more, '\n' ∉ line) :
    cutLines (joinValue (first :: more)) = first :: more := by
  induction more generalizing first with
  | nil => exact cutLines_eq_singleton (honeLine first (List.mem_cons_self ..))
  | cons next more ih =>
    rw [List.forall_mem_cons] at honeLine
    rw [joinValue_cons_cons, cutLines_append honeLine.1, ih honeLine.2]

/-- Dropping the blanks after a value drops the empty lines at its end and nothing else. -/
theorem exists_joinValue_eq_trimRight {first : List Char} {more : List (List Char)}
    (htight : ∀ line ∈ first :: more, Tight line) :
    ∃ more', more' <+: more ∧
      trimRight (joinValue (first :: more)) = joinValue (first :: more') := by
  induction more using List.reverseRecOn with
  | nil => exact ⟨[], List.prefix_rfl, trimRight_eq_self (htight first (by simp)).2⟩
  | append_singleton more line ih =>
    rw [← List.cons_append, List.forall_mem_append] at htight
    by_cases hline : line = []
    · obtain ⟨more', hbegins, hjoin⟩ := ih htight.1
      refine ⟨more', hbegins.trans (List.prefix_append _ _), ?_⟩
      rw [← List.cons_append, joinValue_concat, hline, trimRight_concat_of_blank (by decide), hjoin]
    · refine ⟨more ++ [line], List.prefix_rfl, trimRight_eq_self ?_⟩
      intro c hc
      have hlast : c ∈ line.getLast? := by
        rwa [← List.cons_append, joinValue_concat, List.append_cons,
          List.getLast?_append_of_ne_nil _ hline] at hc
      exact (htight.2 line (by simp)).2 c hlast

/-- The lines of a value, once joined and trimmed. -/
theorem cutLines_trimRight {first : List Char} {more : List (List Char)}
    (hlines : ∀ line ∈ first :: more, Tight line ∧ OneLine line) :
    ∃ more', more' <+: more ∧
      cutLines (trimRight (joinValue (first :: more))) = first :: more' := by
  obtain ⟨more', hbegins, hjoin⟩ :=
    exists_joinValue_eq_trimRight fun line hline => (hlines line hline).1
  refine ⟨more', hbegins, ?_⟩
  rw [hjoin]
  exact cutLines_joinValue fun line hline =>
    (hlines line (List.cons_subset_cons first hbegins.subset hline)).2.1

/-- Legible lines make a legible value. -/
theorem LegibleLines.setting {name : String} {lines : List (List Char)}
    (hlines : LegibleLines name lines) :
    LegibleSetting name (String.ofList (trimRight (joinValue lines))) := by
  obtain ⟨first, hfirst, hheader⟩ := hlines.noHeader
  obtain ⟨more, rfl⟩ := List.head?_eq_some_iff.1 hfirst
  obtain ⟨more', hbegins, hcut⟩ := cutLines_trimRight hlines.line
  refine ⟨?_, ?_⟩
  · rw [String.toList_ofList, hcut]
    exact ⟨hlines.isName, fun line hline =>
      hlines.line line (List.cons_subset_cons first hbegins.subset hline), first, rfl, hheader⟩
  · rw [String.toList_ofList]
    exact trimRight_eq_self (getLast?_trimRight _)

/-- Lines that can be written make a value that can. -/
theorem StorableLines.setting {name : String} {lines : List (List Char)}
    (hlines : StorableLines name lines) :
    StorableSetting name (String.ofList (trimRight (joinValue lines))) := by
  have hlegible := hlines.legible.setting
  obtain ⟨first, hfirst, -⟩ := hlines.noHeader
  obtain ⟨more, rfl⟩ := List.head?_eq_some_iff.1 hfirst
  obtain ⟨more', hbegins, hcut⟩ := cutLines_trimRight hlines.legible.line
  refine ⟨hlegible.lines.storable hlines.isName.plain ?_, hlegible.trimmed⟩
  rw [String.toList_ofList, hcut]
  intro line hline
  exact (hlines.line line (List.cons_subset_cons first hbegins.subset hline)).2

/-- What was read was read from a draft without unreadable lines. -/
theorem exists_of_read {text : String} {document : Document} (hread : read text = .ok document) :
    ∃ draft, Draft.readLines {} 1 (fileLines (unifyLineEnds text.toList)) = .ok draft ∧
      draft.unreadable = [] ∧ document.defaults = joinSettings draft.defaults ∧
      document.sections = draft.sections.map joinSettings := by
  unfold read at hread
  split at hread
  · next draft hdraft =>
    unfold finish at hread
    split at hread
    · next hreadable =>
      cases hread
      exact ⟨draft, hdraft, List.isEmpty_iff.1 hreadable, rfl, rfl⟩
    · cases hread
  · cases hread

theorem every_joinSettings {Q : String → List (List Char) → Prop} {R : String → String → Prop}
    (himp : ∀ name lines, Q name lines → R name (String.ofList (trimRight (joinValue lines))))
    {settings : Table (List (List Char))} (hsettings : settings.Every Q) :
    (joinSettings settings).Every R := by
  rw [joinSettings_eq_map]
  exact hsettings.map himp

theorem draftEvery_legible {text : String} {draft : Draft}
    (hdraft : Draft.readLines {} 1 (fileLines (unifyLineEnds text.toList)) = .ok draft)
    (hreadable : draft.unreadable = []) : DraftEvery LegiblePlace LegibleLines draft :=
  DraftEvery.empty.readLines
    (fun _ hline => fits_legible (tight_trim _) (oneLine_visible hline)) hdraft hreadable

/-- **What is read is legible.** -/
theorem legible_of_read {text : String} {document : Document} (hread : read text = .ok document) :
    Legible document := by
  obtain ⟨draft, hdraft, hreadable, hdefaults, hsections⟩ := exists_of_read hread
  have hlegible := draftEvery_legible hdraft hreadable
  have hjoin := @every_joinSettings LegibleLines LegibleSetting fun _ _ hlines => hlines.setting
  refine ⟨hdefaults ▸ hjoin hlegible.defaults, ?_⟩
  rw [hsections]
  exact hlegible.sections.map fun _ _ hsection => ⟨hsection.1, hjoin hsection.2⟩

/-- **What is read can be stored**, if the comments have lines of their own. -/
theorem storable_of_read {text : String} (happart : CommentsApart text) {document : Document}
    (hread : read text = .ok document) : Storable document := by
  obtain ⟨draft, hdraft, hreadable, hdefaults, hsections⟩ := exists_of_read hread
  have hlegible := draftEvery_legible hdraft hreadable
  have hplain : DraftEvery (fun name => Plain name.toList) PlainLines draft :=
    DraftEvery.empty.readLines
      (fun line hline => fits_plain (plain_visible happart hline)) hdraft hreadable
  have hjoin {settings : Table (List (List Char))} (hsettings : settings.Every LegibleLines)
      (hplain : settings.Every PlainLines) : (joinSettings settings).Every StorableSetting :=
    every_joinSettings (fun _ _ hlines => (hlines.1.storable hlines.2.1 hlines.2.2).setting)
      (hsettings.and hplain)
  refine ⟨hdefaults ▸ hjoin hlegible.defaults hplain.defaults, ?_⟩
  rw [hsections]
  refine (hlegible.sections.and hplain.sections).map ?_
  rintro name settings ⟨⟨hplace, hsettings⟩, hplainName, hplainSettings⟩
  exact ⟨⟨hplace.ne_empty, hplace.ne_default, hplainName⟩, hjoin hsettings hplainSettings⟩

end DeckScript.Settings
