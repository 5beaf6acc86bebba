import DeckScript.Proofs.Settings.Storable

/-!
# Documents that come from a file

`Legible` is what can be said of a document that was read from a file, whatever the file:
its names and the lines of its values have no blanks around them and no line ends in them,
names of settings are in lower case and have no sign in them that would end them, and no
line that a setting is written on is a header.

A storable document is a legible one without marks of comments.
-/

namespace DeckScript.Settings

open Text

/-- A text without line ends. -/
def OneLine (cs : List Char) : Prop :=
  '\n' ∉ cs ∧ '\r' ∉ cs

instance (cs : List Char) : Decidable (OneLine cs) :=
  inferInstanceAs (Decidable (_ ∧ _))

theorem OneLine.append {cs ds : List Char} (hcs : OneLine cs) (hds : OneLine ds) :
    OneLine (cs ++ ds) := by
  simp only [OneLine, List.mem_append, not_or]
  exact ⟨⟨hcs.1, hds.1⟩, hcs.2, hds.2⟩

theorem OneLine.mono {cs ds : List Char} (hcs : OneLine cs) (hsubset : ∀ c ∈ ds, c ∈ cs) :
    OneLine ds :=
  ⟨fun hfeed => hcs.1 (hsubset _ hfeed), fun hreturn => hcs.2 (hsubset _ hreturn)⟩

theorem Plain.toOneLine {cs : List Char} (hcs : Plain cs) : OneLine cs :=
  ⟨hcs.oneLine, fun hmem => hcs '\r' hmem (by decide)⟩

/-! ## Legible texts -/

/-- A name that a setting in a file can have. -/
structure LegibleName (name : List Char) : Prop where
  ne_nil : name ≠ []
  tight : Tight name
  oneLine : OneLine name
  uncut : '=' ∉ name ∧ ':' ∉ name
  lower_eq : lower name = name

/-- A name becomes legible in lower case. -/
theorem LegibleName.of_lower {name : List Char} (hne : name ≠ []) (htight : Tight name)
    (honeLine : OneLine name) (huncut : '=' ∉ name ∧ ':' ∉ name) : LegibleName (lower name) where
  ne_nil := mt lower_eq_nil_iff.1 hne
  tight := htight.lower
  oneLine :=
    ⟨fun hfeed => honeLine.1 (mem_of_mem_lower hfeed (by decide)),
      fun hreturn => honeLine.2 (mem_of_mem_lower hreturn (by decide))⟩
  uncut :=
    ⟨fun hequals => huncut.1 (mem_of_mem_lower hequals (by decide)),
      fun hcolon => huncut.2 (mem_of_mem_lower hcolon (by decide))⟩
  lower_eq := lower_lower name

/-- Lines that a setting of the given name can have. -/
structure LegibleLines (name : String) (lines : List (List Char)) : Prop where
  isName : LegibleName name.toList
  line : ∀ line ∈ lines, Tight line ∧ OneLine line
  noHeader : ∃ first ∈ lines.head?, header? (name.toList ++ equalsSign ++ first) = none

/-- A value that a setting of the given name can have. -/
structure LegibleSetting (name value : String) : Prop where
  lines : LegibleLines name (Script.cutLines value.toList)
  trimmed : trimRight value.toList = value.toList

/-- A name that a section in a file can have. -/
structure LegiblePlace (name : String) : Prop where
  ne_empty : name ≠ ""
  ne_default : name ≠ Document.defaultName
  oneLine : OneLine name.toList

/-- A document that can come from a file. -/
structure Legible (document : Document) : Prop where
  defaults : document.defaults.Every LegibleSetting
  sections : document.sections.Every fun name settings =>
    LegiblePlace name ∧ settings.Every LegibleSetting

theorem Legible.empty : Legible {} :=
  ⟨.empty _, .empty _⟩

/-! ## Storable texts are legible -/

theorem StorableName.legible {name : List Char} (hname : StorableName name) : LegibleName name :=
  ⟨hname.ne_nil, hname.tight, hname.plain.toOneLine, hname.uncut, hname.lower_eq⟩

theorem StorableLines.legible {name : String} {lines : List (List Char)}
    (hlines : StorableLines name lines) : LegibleLines name lines where
  isName := hlines.isName.legible
  line := fun line hline => (hlines.line line hline).imp_right Plain.toOneLine
  noHeader := hlines.noHeader

theorem StorableSetting.legible {name value : String} (hsetting : StorableSetting name value) :
    LegibleSetting name value :=
  ⟨hsetting.lines.legible, hsetting.trimmed⟩

theorem StorablePlace.legible {name : String} (hname : StorablePlace name) : LegiblePlace name :=
  ⟨hname.ne_empty, hname.ne_default, hname.plain.toOneLine⟩

/-- Legible lines without marks are storable. -/
theorem LegibleLines.storable {name : String} {lines : List (List Char)}
    (hlines : LegibleLines name lines) (hname : Plain name.toList)
    (hplain : ∀ line ∈ lines, Plain line) : StorableLines name lines where
  isName :=
    ⟨hlines.isName.ne_nil, hlines.isName.tight, hname, hlines.isName.uncut,
      hlines.isName.lower_eq⟩
  line := fun line hline => ⟨(hlines.line line hline).1, hplain line hline⟩
  noHeader := hlines.noHeader

end DeckScript.Settings
