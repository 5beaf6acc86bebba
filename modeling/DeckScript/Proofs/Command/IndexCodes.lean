import DeckScript.Proofs.Command.Codes
import DeckScript.Proofs.Command.Position
import DeckScript.Proofs.Number.Limit
import DeckScript.Proofs.Table
import DeckScript.Proofs.Value.Moderate

/-!
# How a bad position is reported

Six commands take the position of a slide.  In a store without failures they either
succeed or say which parameter was missing, that the overview stays, or that there is no
such slide; each of these has a code of its own.  The last code of the block, the one for
what went wrong unexpectedly, is left for the positions of which no integer can be made.

There are two kinds of them (`Overflowing`): a number beyond the range of the binary
format, which is read as infinity, and a text that is no number but starts with more
digits than may be read.  The two conversions of a parameter have different limits, and
neither takes the other's overflow for a missing integer.

## Strategy

`Settles` follows a step from a session to its end and says at once when it breaks off
and which codes it answers with otherwise.  Each of the six commands is gone through once
with it; the actions at their ends were planned, so the store does not refuse them.
-/

namespace DeckScript

open Text

/-! ## Parameters of which no integer can be made -/

namespace Number

theorem exists_ofDigitRun_eq_error_iff {negative : Bool} {digits : List Nat} :
    (∃ error, ofDigitRun negative digits = .error error) ↔
      digitLimit < digits.length := by
  rw [ofDigitRun]
  split
  · next hlength => exact iff_of_false (by rintro ⟨_, ⟨⟩⟩) (by omega)
  · next hlength => exact iff_of_true ⟨_, rfl⟩ (by omega)

theorem exists_leadingInteger_eq_error_iff {s : String} :
    (∃ error, leadingInteger s = .error error) ↔
      digitLimit < (leadingDigits (Numeral.splitSign (trimLeft s.toList)).2).length := by
  rw [leadingInteger]
  dsimp only
  cases hdigits : leadingDigits (Numeral.splitSign (trimLeft s.toList)).2 with
  | nil => exact iff_of_false (by rintro ⟨_, ⟨⟩⟩) (by simp)
  | cons digit rest =>
    rw [← @exists_ofDigitRun_eq_error_iff (Numeral.splitSign (trimLeft s.toList)).1]
    dsimp only
    cases ofDigitRun (Numeral.splitSign (trimLeft s.toList)).1 (digit :: rest) with
    | ok n => exact iff_of_false (by rintro ⟨_, ⟨⟩⟩) (by rintro ⟨_, ⟨⟩⟩)
    | error error => exact iff_of_true ⟨_, rfl⟩ ⟨_, rfl⟩

theorem ofText?_ne_nan (text : String) : ofText? text ≠ some (.real .nan) := by
  intro hnan
  obtain ⟨numeral, -, hvalue⟩ := Option.map_eq_some_iff.1 hnan
  rw [Numeral.value] at hvalue
  split at hvalue
  · cases hvalue
  · have hbinary : numeral.toBinary = .nan := real.inj hvalue
    unfold Numeral.toBinary Binary64.ofDecimal at hbinary
    dsimp only at hbinary
    split_ifs at hbinary
    exact Binary64.ofMagnitude_ne_nan _ _ hbinary

end Number

namespace Params

/-- The digits that the text of a parameter starts with, after a sign and without its quotes. -/
def digitsAhead (text : String) : List Nat :=
  leadingDigits
    (Numeral.splitSign (trimLeft (text.toList.filter fun c => c != '\x27' && c != '"'))).2

/-- The text of a parameter that has an integer in it, but one that is beyond a limit. -/
inductive Overflowing (text : String) : Prop
  | infinite (negative : Bool) (read : Number.ofText? text = some (.real (.infinite negative)))
  | long (noNumber : Number.ofText? text = none)
      (length : Number.digitLimit < (digitsAhead text).length)

/-- An integer can be made of a parameter, or there is none in it, unless its text overflows. -/
theorem exists_integer?_eq_error_iff {text : String} :
    (∃ error, (Value.ofParameter text).integer? = .error error) ↔ Overflowing text := by
  have hword {word : String} (hnumber : Number.ofText? word = none)
      (hdigits : digitsAhead word = []) : ¬Overflowing word := by
    rintro (⟨_, hread⟩ | ⟨_, hlength⟩)
    · rw [hnumber] at hread
      cases hread
    · rw [hdigits] at hlength
      cases hlength
  rw [Value.ofParameter]
  split_ifs with htrue hfalse
  · subst htrue
    exact iff_of_false (by rintro ⟨_, ⟨⟩⟩) (hword (by decide) (by decide))
  · subst hfalse
    exact iff_of_false (by rintro ⟨_, ⟨⟩⟩) (hword (by decide) (by decide))
  · cases hnumber : Number.ofText? text with
    | none =>
      dsimp only
      rw [Value.integer?, Number.exists_leadingInteger_eq_error_iff, String.toList_ofList]
      constructor
      · exact Overflowing.long hnumber
      · rintro (⟨_, hread⟩ | ⟨_, hlength⟩)
        · rw [hnumber] at hread
          cases hread
        · exact hlength
    | some n =>
      have hlong : ¬Number.ofText? text = none := by simp [hnumber]
      constructor
      · rintro ⟨error, herror⟩
        cases n with
        | int n => cases herror
        | real x =>
          cases x with
          | nan => exact absurd hnumber (Number.ofText?_ne_nan text)
          | infinite negative => exact .infinite negative hnumber
          | finite negative m e => cases herror
      · rintro (⟨negative, hread⟩ | ⟨hnone, -⟩)
        · cases hnumber.symm.trans hread
          exact ⟨_, rfl⟩
        · exact absurd hnone hlong

end Params

namespace Value

theorem isModerate_ofParameter (text : String) : (ofParameter text).IsModerate := by
  unfold ofParameter
  split_ifs
  · exact rfl
  · exact rfl
  · cases hnumber : Number.ofText? text with
    | none => exact isModerate_text _
    | some n =>
      obtain ⟨numeral, hread, rfl⟩ := Option.map_eq_some_iff.1 hnumber
      exact Numeral.isModerate_value hread

theorem IsModerate.describe {value : Value} (h : value.IsModerate) :
    ∃ text, value.describe = .ok text := by
  unfold Value.describe
  split
  · exact ⟨_, rfl⟩
  · exact h.inspect

theorem IsModerate.parameterText {value : Value} (h : value.IsModerate) :
    ∃ text, value.parameterText = .ok text := by
  unfold Value.parameterText
  split
  · exact ⟨_, rfl⟩
  · exact ⟨_, rfl⟩
  · exact h.describe

end Value

/-- Every parameter of a line has the value of some text. -/
theorem CommandLine.every_params (line : String) :
    (CommandLine.ofText line).params.Every fun _ value => ∃ text, value = .ofParameter text := by
  unfold CommandLine.ofText
  split
  · exact .empty _
  · next name rest _ =>
    refine .ofList fun pair hpair => ?_
    obtain ⟨field, -, hfield⟩ := List.mem_filterMap.1 hpair
    unfold Params.entry? at hfield
    split at hfield
    · cases hfield
    · cases hfield
    · cases hfield
      exact ⟨_, rfl⟩

/-! ## Commands that take a position -/

/-- How a command that takes a position fails: with which codes it answers to its parameters, and
with which one to what it did not expect. -/
structure IndexCodes where
  answers : List Int
  unexpected : Int

namespace Command

/-- The codes of the commands that take a position. -/
def indexCodes? : Command → Option IndexCodes
  | setSlideTitle => some ⟨[12, 13], 14⟩
  | addText => some ⟨[21, 22], 23⟩
  | gotoSlide => some ⟨[41, 42], 43⟩
  | deleteSlide => some ⟨[51, 52], 53⟩
  | duplicateSlide => some ⟨[61, 62], 63⟩
  | getSlideInfo => some ⟨[92], 93⟩
  | _ => none

theorem ne_travel_of_indexCodes? {command : Command} {codes : IndexCodes}
    (hcodes : command.indexCodes? = some codes) : command ≠ .undo ∧ command ≠ .redo := by
  constructor
  · rintro rfl
    cases hcodes
  · rintro rfl
    cases hcodes

/-- The name of the parameter that holds the position. -/
def indexKey : Command → String
  | setSlideTitle => "slideIndex"
  | addText => "slideIndex"
  | _ => "number"

end Command

namespace Session

/-- The position is given, but no integer can be made of it. -/
def Undecodable (params : Params) (command : Command) : Prop :=
  ∃ value error, params.get? command.indexKey = some value ∧ value.integer? = .error error

/-- A text is given that is not empty. -/
def HasText (params : Params) : Prop :=
  ∃ value, params.get? "text" = some value ∧ value ≠ .text ""

/-- The commands that write a text look for the position only if there is one. -/
def LooksForPosition (params : Params) (command : Command) : Prop :=
  command = .setSlideTitle ∨ command = .addText → HasText params

/-- There is a slide to be copied, but the time is no part of an id. -/
def Uncopyable (params : Params) (session : Session) (command : Command) : Prop :=
  command = .duplicateSlide ∧
    (∃ index, PointsAt params session.store.slides .duplicateSlide index) ∧
    ∃ error, ((newId session.store.slides).run session).1 = .error error

/-- What the command did not expect. -/
def Unexpected (params : Params) (session : Session) (command : Command) : Prop :=
  LooksForPosition params command ∧ Undecodable params command ∨
    Uncopyable params session command

/-! ## Following a step -/

/-- The step breaks off exactly in the case `bad`, and otherwise answers with a code allowed. -/
def Settles (bad : Prop) (allowed : Int → Prop) (session : Session) (step : Step CommandResult) :
    Prop :=
  step.Ensures session (fun _ _ => bad) fun result _ => ¬bad ∧ result.Reports allowed

section

variable {session : Session} {bad : Prop} {allowed : Int → Prop}

namespace Settles

theorem ok (hgood : ¬bad) (output : String) (result : Value) :
    Settles bad allowed session (pure (.ok output result)) :=
  ⟨hgood, .ok output result⟩

theorem failure (hgood : ¬bad) {code : ErrorCode} (hcode : allowed code.number)
    (output : String) : Settles bad allowed session (pure (.failure code output)) :=
  ⟨hgood, .failure hcode output⟩

theorem readDeck {next : Deck → Step CommandResult} (quiet : session.store.Quiet)
    (hnext : Settles bad allowed session (next session.store.slides)) :
    Settles bad allowed session (Session.readDeck >>= next) := by
  rw [Settles, Attempt.ensures_bind, ensures_readDeck quiet]
  exact hnext

/-- A step that changes nothing, and that fails only in the bad case. -/
theorem think {α : Type} {step : Step α} {next : α → Step CommandResult} (inert : step.Inert)
    (herror : ∀ error, (step.run session).1 = .error error → bad)
    (hnext : ∀ a, (step.run session).1 = .ok a → Settles bad allowed session (next a)) :
    Settles bad allowed session (step >>= next) := by
  have hkept := inert session
  rw [Settles, Attempt.ensures_bind, Attempt.Ensures]
  rcases hrun : step.run session with ⟨error | a, after⟩ <;> rw [hrun] at hkept herror hnext
  · exact herror error rfl
  · cases hkept
    exact hnext a rfl

/-- The parameter `text`. -/
theorem textParameter {params : Params} {next : Option String → Step CommandResult}
    (hwritten : ∀ value, params.get? "text" = some value →
      ∃ text, value.parameterText = .ok text)
    (hnone : ¬HasText params → Settles bad allowed session (next none))
    (hsome : ∀ value text, HasText params → params.get? "text" = some value →
      value.parameterText = .ok text → Settles bad allowed session (next (some text))) :
    Settles bad allowed session (textParameter? params >>= next) := by
  unfold textParameter?
  split
  · next habsent =>
    refine hnone ?_
    rintro ⟨value, hvalue, -⟩
    rw [habsent] at hvalue
    cases hvalue
  · next hempty =>
    refine hnone ?_
    rintro ⟨value, hvalue, hne⟩
    rw [hempty] at hvalue
    exact hne (Option.some.inj hvalue).symm
  · next value hne hvalue =>
    obtain ⟨text, htext⟩ := hwritten value hvalue
    rw [htext]
    exact hsome value text ⟨value, hvalue, hne⟩ hvalue htext

/-- What was given is shown if it is no position. -/
theorem shown {params : Params} {key : String} {default : Option Int}
    {next : String → Step CommandResult}
    (hdescribed : ∀ value, params.get? key = some value → ∃ text, value.describe = .ok text)
    (hdefault : ∀ index, params.get? key = none → default = some index →
      index.natAbs < Number.writeLimit)
    (hnext : ∀ given, Settles bad allowed session (next given)) :
    Settles bad allowed session (Session.shown params key default >>= next) := by
  unfold Session.shown
  split
  · next value hvalue =>
    obtain ⟨text, htext⟩ := hdescribed value hvalue
    rw [htext]
    exact hnext text
  · next habsent =>
    cases default with
    | none => exact hnext _
    | some index =>
      dsimp only
      rw [Number.writeInt_of_lt (hdefault index habsent rfl)]
      exact hnext _

/-- The actions of a plan are carried out. -/
theorem act {params : Params} {command : Command} {actions : List Action}
    (quiet : session.store.Quiet) (planned : Plan params session.store.slides command actions)
    (hgood : ¬bad) (output : String) (result : Value) :
    Settles bad allowed session (Session.act actions (.ok output result)) := by
  obtain ⟨deck, hdeck⟩ := planned.exists_applyAll
  obtain ⟨notices, hrun⟩ := run_act_of_quiet quiet hdeck (.ok output result)
  rw [Settles, Attempt.Ensures, hrun]
  exact ⟨hgood, .ok output result⟩

/-- Breaking off is reported with the code for it. -/
theorem guarded {step : Step CommandResult} (h : Settles bad allowed session step)
    (code : ErrorCode) (hcode : ¬allowed code.number) (what : String) :
    let result := (Session.guarded code what step session).1
    result.Reports (fun number => allowed number ∨ number = code.number) ∧
      (result.code = code.number ↔ bad) := by
  rw [Settles, Attempt.Ensures] at h
  unfold Session.guarded
  rcases hrun : step.run session with ⟨error | result, after⟩ <;> rw [hrun] at h
  · exact ⟨.failure (.inr rfl) _, iff_of_true rfl h⟩
  · obtain ⟨hgood, hreports⟩ := h
    refine ⟨hreports.mono fun _ => .inl, iff_of_false ?_ hgood⟩
    intro hresult
    cases hreports with
    | ok output payload => exact ErrorCode.number_ne_ok code hresult.symm
    | failure hallowed output => exact hcode (hresult ▸ hallowed)

end Settles

end

/-! ## What is expected -/

section

variable {session : Session} {params : Params} {command : Command} {codes : IndexCodes}

/-- No default overflows, so it has to be the value that was given. -/
theorem undecodable_iff (hcodes : command.indexCodes? = some codes) (deck : Deck) :
    Undecodable params command ↔
      ∃ error, (positionValue params deck command).integer? = .error error := by
  have hgiven {key : String} {default : Value} {position : Option Int}
      (hdefault : default.integer? = .ok position) :
      (∃ value error, params.get? key = some value ∧ value.integer? = .error error) ↔
        ∃ error, ((params.get? key).getD default).integer? = .error error := by
    cases params.get? key with
    | none =>
      rw [Option.getD_none, hdefault]
      exact iff_of_false (by rintro ⟨_, _, ⟨⟩, _⟩) (by rintro ⟨_, ⟨⟩⟩)
    | some value =>
      rw [Option.getD_some]
      constructor
      · rintro ⟨_, error, heq, herror⟩
        cases heq
        exact ⟨error, herror⟩
      · rintro ⟨error, herror⟩
        exact ⟨value, error, rfl, herror⟩
  cases command with
  | setSlideTitle => exact hgiven rfl
  | addText => exact hgiven rfl
  | gotoSlide => exact hgiven rfl
  | deleteSlide => exact hgiven rfl
  | duplicateSlide => exact hgiven rfl
  | getSlideInfo => exact hgiven rfl
  | _ => cases hcodes

theorem not_unexpected_of_absent (habsent : params.get? command.indexKey = none) :
    ¬Unexpected params session command := by
  rintro (⟨-, value, error, hvalue, -⟩ | ⟨rfl, ⟨index, hpoints⟩, -⟩)
  · rw [habsent] at hvalue
    cases hvalue
  · have hnone : positionValue params session.store.slides .duplicateSlide = .none := by
      rw [positionValue, show params.get? "number" = none from habsent, Option.getD_none]
    have hdecoded := hpoints.decoded
    rw [hnone] at hdecoded
    cases hdecoded

theorem not_unexpected_of_textless (hcommand : command = .setSlideTitle ∨ command = .addText)
    (htext : ¬HasText params) : ¬Unexpected params session command := by
  rintro (⟨hlooks, -⟩ | ⟨rfl, -⟩)
  · exact htext (hlooks hcommand)
  · rcases hcommand with htitle | htext
    · cases htitle
    · cases htext

theorem not_unexpected_of_decodable (hcopy : command ≠ .duplicateSlide)
    (hdecodable : ¬Undecodable params command) : ¬Unexpected params session command := by
  rintro (⟨-, hundecodable⟩ | ⟨hduplicate, -⟩)
  · exact hdecodable hundecodable
  · exact hcopy hduplicate

/-- The one conversion that can fail: that of the position. -/
theorem Settles.position {allowed : Int → Prop} (hcodes : command.indexCodes? = some codes)
    (hlooks : LooksForPosition params command) {value : Value}
    (hvalue : positionValue params session.store.slides command = value)
    {next : Option Int → Step CommandResult}
    (hnext : ∀ position, value.integer? = .ok position → ¬Undecodable params command →
      Settles (Unexpected params session command) allowed session (next position)) :
    Settles (Unexpected params session command) allowed session
      (Session.convert value.integer? >>= next) := by
  have hundecodable := @undecodable_iff params command codes hcodes session.store.slides
  rw [hvalue] at hundecodable
  cases hinteger : value.integer? with
  | error error => exact .inl ⟨hlooks, hundecodable.2 ⟨error, hinteger⟩⟩
  | ok position =>
    refine hnext position hinteger ?_
    intro hbad
    obtain ⟨error, herror⟩ := hundecodable.1 hbad
    rw [hinteger] at herror
    cases herror

end

/-! ## The commands one by one -/

section

variable {session : Session} {params : Params}

theorem looksForPosition_of_ne {command : Command}
    (hcommand : command ≠ .setSlideTitle ∧ command ≠ .addText) :
    LooksForPosition params command := by
  rintro (htitle | htext)
  · exact absurd htitle hcommand.1
  · exact absurd htext hcommand.2

variable (quiet : session.store.Quiet)
  (hparams : ∀ key value, params.get? key = some value → value.IsModerate)

include quiet hparams

theorem setSlideTitle_settles :
    Settles (Unexpected params session .setSlideTitle) (· ∈ [12, 13]) session
      (setSlideTitle params) := by
  refine .textParameter (fun value hvalue => (hparams _ value hvalue).parameterText) ?_ ?_
  · intro htext
    exact .failure (not_unexpected_of_textless (.inl rfl) htext) (by decide) _
  · intro value text htext hgiven hwritten
    refine .readDeck quiet (.position rfl (fun _ => htext) rfl ?_)
    intro position hposition hdecodable
    have hgood := @not_unexpected_of_decodable session params .setSlideTitle (by decide) hdecodable
    split
    · refine .shown (fun value hvalue => (hparams _ value hvalue).describe) ?_ ?_
      · intro index habsent hdefault
        rw [positionValue, habsent, Option.getD_none] at hposition
        cases hdefault
        cases hposition
        exact Nat.zero_lt_of_lt Number.one_lt_writeLimit
      · exact fun _ => .failure hgood (by decide) _
    · next index slide hfound =>
      exact .act quiet (.setSlideTitle hgiven hwritten hposition hfound) hgood _ _

theorem addText_settles :
    Settles (Unexpected params session .addText) (· ∈ [21, 22]) session (addText params) := by
  refine .textParameter (fun value hvalue => (hparams _ value hvalue).parameterText) ?_ ?_
  · intro htext
    exact .failure (not_unexpected_of_textless (.inr rfl) htext) (by decide) _
  · intro value text htext hgiven hwritten
    refine .readDeck quiet (.position rfl (fun _ => htext) rfl ?_)
    intro position hposition hdecodable
    have hgood := @not_unexpected_of_decodable session params .addText (by decide) hdecodable
    split
    · next hmissing =>
      refine .shown (fun value hvalue => (hparams _ value hvalue).describe) ?_ ?_
      · intro index habsent hdefault
        rw [positionValue, habsent, Option.getD_none] at hposition
        cases hdefault
        cases hposition
        -- the last slide is missing only if the deck is empty
        have hempty : session.store.slides.length = 0 := by
          rcases Nat.eq_zero_or_pos session.store.slides.length with hzero | hpos
          · exact hzero
          · have hindex : 0 ≤ (session.store.slides.length : Int) - 1 := by omega
            rw [slideAt?, if_pos hindex, Option.map_eq_none_iff, List.getElem?_eq_none_iff]
              at hmissing
            omega
        have habs : ((session.store.slides.length : Int) - 1).natAbs = 1 := by omega
        rw [habs]
        exact Number.one_lt_writeLimit
      · exact fun _ => .failure hgood (by decide) _
    · next index slide hfound =>
      exact .act quiet (.addText hgiven hwritten hposition hfound) hgood _ _

theorem deleteSlide_settles :
    Settles (Unexpected params session .deleteSlide) (· ∈ [51, 52]) session
      (deleteSlide params) := by
  have hlooks : LooksForPosition params .deleteSlide := looksForPosition_of_ne (by decide)
  refine .readDeck quiet (.position rfl hlooks rfl ?_)
  intro position hposition hdecodable
  have hgood := @not_unexpected_of_decodable session params .deleteSlide (by decide) hdecodable
  split
  · exact .failure hgood (by decide) _
  · next hordinary =>
    split
    · refine .shown (fun value hvalue => (hparams _ value hvalue).describe) ?_ ?_
      · intro index habsent hdefault
        rw [positionValue, habsent, Option.getD_none] at hposition
        cases hposition
        exact absurd rfl hordinary
      · exact fun _ => .failure hgood (by decide) _
    · next index slide hfound =>
      exact .act quiet (.deleteSlide hposition hordinary hfound) hgood _ _

theorem getSlideInfo_settles :
    Settles (Unexpected params session .getSlideInfo) (· ∈ [92]) session
      (getSlideInfo params) := by
  have hlooks : LooksForPosition params .getSlideInfo := looksForPosition_of_ne (by decide)
  refine .readDeck quiet (.position rfl hlooks rfl ?_)
  intro position hposition hdecodable
  have hgood := @not_unexpected_of_decodable session params .getSlideInfo (by decide) hdecodable
  split
  · refine .shown (fun value hvalue => (hparams _ value hvalue).describe) ?_ ?_
    · rintro index - ⟨⟩
      exact Nat.zero_lt_of_lt Number.one_lt_writeLimit
    · exact fun _ => .failure hgood (by decide) _
  · exact .ok hgood _ _

theorem gotoSlide_settles :
    Settles (Unexpected params session .gotoSlide) (· ∈ [41, 42]) session
      (gotoSlide params) := by
  have hlooks : LooksForPosition params .gotoSlide := looksForPosition_of_ne (by decide)
  unfold gotoSlide
  cases hnumber : params.get? "number" with
  | none => exact .failure (not_unexpected_of_absent hnumber) (by decide) _
  | some number =>
    have hvalue : positionValue params session.store.slides .gotoSlide = number := by
      rw [positionValue, hnumber, Option.getD_some]
    refine .readDeck quiet (.position rfl hlooks hvalue ?_)
    intro position hposition hdecodable
    have hgood := @not_unexpected_of_decodable session params .gotoSlide (by decide) hdecodable
    split
    · obtain ⟨text, htext⟩ := (hparams _ number hnumber).describe
      rw [htext]
      exact .failure hgood (by decide) _
    · next index target hfound =>
      exact .act quiet (.gotoSlide hnumber hposition hfound) hgood _ _

theorem duplicateSlide_settles :
    Settles (Unexpected params session .duplicateSlide) (· ∈ [61, 62]) session
      (duplicateSlide params) := by
  have hlooks : LooksForPosition params .duplicateSlide := looksForPosition_of_ne (by decide)
  unfold duplicateSlide
  cases hnumber : params.get? "number" with
  | none => exact .failure (not_unexpected_of_absent hnumber) (by decide) _
  | some number =>
    have hvalue : positionValue params session.store.slides .duplicateSlide = number := by
      rw [positionValue, hnumber, Option.getD_some]
    refine .readDeck quiet (.position rfl hlooks hvalue ?_)
    intro position hposition hdecodable
    split
    · next hmissing =>
      obtain ⟨text, htext⟩ := (hparams _ number hnumber).describe
      rw [htext]
      refine .failure ?_ (by decide) _
      rintro (⟨-, hundecodable⟩ | ⟨-, ⟨index, hpoints⟩, -⟩)
      · exact hdecodable hundecodable
      · have hdecoded := hpoints.decoded
        rw [hvalue, hposition] at hdecoded
        cases hdecoded
        have hslide := List.getElem?_eq_getElem hpoints.inDeck
        rw [slideAt?_eq_some.2 ⟨rfl, hslide⟩] at hmissing
        cases hmissing
    · next index source hfound =>
      have hpoints : PointsAt params session.store.slides .duplicateSlide index :=
        pointsAt_of_slideAt? (hvalue ▸ hposition) hfound
      refine .think (inert_newId _) ?_ ?_
      · intro error herror
        exact .inr ⟨rfl, ⟨index, hpoints⟩, error, herror⟩
      · intro id hid
        refine .act quiet (.duplicateSlide hnumber hposition hfound (run_newId_fresh hid)) ?_ _ _
        rintro (⟨-, hundecodable⟩ | ⟨-, -, error, herror⟩)
        · exact hdecodable hundecodable
        · rw [hid] at herror
          cases herror

theorem perform_settles {command : Command} {codes : IndexCodes}
    (hcodes : command.indexCodes? = some codes) :
    let result := (perform params command session).1
    result.Reports (fun number => number ∈ codes.answers ∨ number = codes.unexpected) ∧
      (result.code = codes.unexpected ↔ Unexpected params session command) := by
  cases command with
  | setSlideTitle =>
    cases hcodes
    exact (setSlideTitle_settles quiet hparams).guarded .titleFailed (by decide) _
  | addText =>
    cases hcodes
    exact (addText_settles quiet hparams).guarded .textFailed (by decide) _
  | gotoSlide =>
    cases hcodes
    exact (gotoSlide_settles quiet hparams).guarded .gotoFailed (by decide) _
  | deleteSlide =>
    cases hcodes
    exact (deleteSlide_settles quiet hparams).guarded .deleteFailed (by decide) _
  | duplicateSlide =>
    cases hcodes
    exact (duplicateSlide_settles quiet hparams).guarded .duplicateFailed (by decide) _
  | getSlideInfo =>
    cases hcodes
    exact (getSlideInfo_settles quiet hparams).guarded .infoFailed (by decide) _
  | _ => cases hcodes

end

/-! ## Lines -/

section

variable {session : Session} {line : String} {command : Command}

/-- Without failures of the store the snapshot can be read, so the result of the command stands. -/
theorem run_fst_of_quiet (quiet : session.store.Quiet)
    (hcommand : session.commandOf line = some command) (hundo : command ≠ .undo)
    (hredo : command ≠ .redo) :
    (run line session).1 = (perform (CommandLine.ofText line).params command session).1 := by
  rcases run_of_known hcommand with ⟨-, hown⟩ | ⟨⟨-, -, error, hread⟩, -⟩
  · exact hown
  · have hquiet : (perform (CommandLine.ofText line).params command session).2.store.Quiet := by
      rcases perform_carriedOut quiet hundo hredo with ⟨-, hafter⟩ | ⟨-, _, _, _, -, -, hafter⟩
      · rw [hafter]
        exact quiet
      · rw [hafter]
        exact quiet
    rw [hquiet.run_read] at hread
    cases hread

/-- A position of a line is undecodable if its text overflows. -/
theorem undecodable_iff_overflowing :
    Undecodable (CommandLine.ofText line).params command ↔
      ∃ text, (CommandLine.ofText line).params.get? command.indexKey = some (.ofParameter text) ∧
        Params.Overflowing text := by
  constructor
  · rintro ⟨value, error, hvalue, herror⟩
    obtain ⟨text, rfl⟩ := (CommandLine.every_params line).get? hvalue
    exact ⟨text, hvalue, Params.exists_integer?_eq_error_iff.1 ⟨error, herror⟩⟩
  · rintro ⟨text, hvalue, hoverflowing⟩
    obtain ⟨error, herror⟩ := Params.exists_integer?_eq_error_iff.2 hoverflowing
    exact ⟨_, error, hvalue, herror⟩

/-- **What becomes of a bad position.**  In a store without failures, a line of one of the six
commands that take a position succeeds, or fails with a code that tells what is wrong with its
parameters, or with the code for the unexpected.  The last happens exactly if the text of the
position overflows, or if the time is no part of an id when a slide is to be copied. -/
theorem run_indexCodes {codes : IndexCodes} (quiet : session.store.Quiet)
    (hcommand : session.commandOf line = some command)
    (hcodes : command.indexCodes? = some codes) :
    let params := (CommandLine.ofText line).params
    let result := (run line session).1
    (result.success = true ∨ result.code ∈ codes.answers ∨ result.code = codes.unexpected) ∧
      (result.code = codes.unexpected ↔
        LooksForPosition params command ∧
            (∃ text, params.get? command.indexKey = some (.ofParameter text) ∧
              Params.Overflowing text) ∨
          Uncopyable params session command) := by
  intro params result
  have hmoderate (key : String) (value : Value) (hvalue : params.get? key = some value) :
      value.IsModerate := by
    obtain ⟨text, rfl⟩ := (CommandLine.every_params line).get? hvalue
    exact Value.isModerate_ofParameter text
  obtain ⟨hundo, hredo⟩ := Command.ne_travel_of_indexCodes? hcodes
  have hresult : result = (perform params command session).1 :=
    run_fst_of_quiet quiet hcommand hundo hredo
  obtain ⟨hreports, hunexpected⟩ := perform_settles quiet hmoderate hcodes
  rw [← hresult] at hreports hunexpected
  constructor
  · cases hdone : result.success with
    | true => exact .inl rfl
    | false => exact .inr (hreports.code_allowed hdone)
  · rw [hunexpected, Unexpected, undecodable_iff_overflowing]

end

/-- The position is read as infinity, and that is not reported as a position without a slide. -/
theorem run_indexCodes_infinite :
    (run "goto-slide number=1e999" threeSlides).1.code = 43 := by
  have hquiet : threeSlides.store.Quiet := rfl
  have hcommand : threeSlides.commandOf "goto-slide number=1e999" = some .gotoSlide := by decide
  refine (run_indexCodes hquiet hcommand rfl).2.2 (.inl ⟨?_, "1e999", rfl, ?_⟩)
  · exact looksForPosition_of_ne (by decide)
  · exact .infinite false (by decide)

/-- Not every bad position is reported as one. -/
theorem not_forall_run_answers :
    ¬∀ (session : Session) (line : String) (command : Command) (codes : IndexCodes),
      session.store.Quiet → session.commandOf line = some command →
      command.indexCodes? = some codes →
      (run line session).1.success = true ∨ (run line session).1.code ∈ codes.answers := by
  intro h
  have hcommand : threeSlides.commandOf "goto-slide number=1e999" = some .gotoSlide := by decide
  have hfailed : (run "goto-slide number=1e999" threeSlides).1.success = false := by decide
  have hcode : (run "goto-slide number=1e999" threeSlides).1.code = 43 := by decide
  rcases h threeSlides _ _ _ rfl hcommand rfl with hdone | hanswer
  · exact absurd (hfailed.symm.trans hdone) (by decide)
  · rw [hcode] at hanswer
    exact absurd hanswer (by decide)

end Session

end DeckScript
