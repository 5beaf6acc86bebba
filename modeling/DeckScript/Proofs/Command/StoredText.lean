import DeckScript.Proofs.Command.IndexCodes
import DeckScript.Proofs.Command.Written

/-!
# Texts on slides

The text of a title or of a line of content goes through a parameter.  It is decoded as any
parameter is, and what was decoded is written out again.  For truth values and for texts
that stand for nothing else this gives back what was typed; a number is stored as numbers
are written, so `007` becomes `7` and `1e3` becomes `1000.0`.

`storedText` is the text that is stored, and `run_storesText` says that a command line with
a title or a text for a slide of the deck succeeds and stores it there.
-/

namespace DeckScript

open Text

/-! ## Decoding and writing -/

/-- The text that a token is stored as. -/
def storedText (token : String) : String :=
  match Number.ofText? token with
  | some n => n.text
  | none => token

/-- A text is stored as it is unless it is read as a number. -/
theorem storedText_of_not_isNumeral {token : String}
    (hunbroken : ∀ c ∈ token.toList, isBlank c = false)
    (hnumeral : ¬Numeral.IsNumeral token.toList) : storedText token = token := by
  rw [storedText, Number.ofText?_eq_none hunbroken hnumeral]

/-- Integers in their usual form are stored as they are. -/
theorem storedText_repr {n : Int} (hn : n.natAbs < Number.writeLimit) :
    storedText n.repr = n.repr := by
  rw [storedText, Number.ofText?_repr hn]
  rfl

namespace Value

/-- A token that is no truth value is a number or a text. -/
theorem ofParameter_of_ne {token : String} (htrue : token ≠ "true") (hfalse : token ≠ "false")
    (hquotes : '\x27' ∉ token.toList ∧ '"' ∉ token.toList) :
    ofParameter token =
      match Number.ofText? token with
      | some n => .number n
      | .none => .text token := by
  rw [ofParameter, if_neg htrue, if_neg hfalse]
  cases Number.ofText? token with
  | some n => rfl
  | none =>
    have hkept : String.ofList (token.toList.filter fun c => c != '\x27' && c != '"') = token := by
      rw [CommandLine.filter_quotes_eq_self hquotes, String.ofList_toList]
    exact congrArg Value.text hkept

/-- What is written after decoding. -/
theorem parameterText_ofParameter {token : String}
    (hquotes : '\x27' ∉ token.toList ∧ '"' ∉ token.toList) :
    (ofParameter token).parameterText = .ok (storedText token) := by
  by_cases htrue : token = "true"
  · subst htrue
    decide
  · by_cases hfalse : token = "false"
    · subst hfalse
      decide
    · have hmoderate := isModerate_ofParameter token
      rw [ofParameter_of_ne htrue hfalse hquotes] at hmoderate ⊢
      cases hnumber : Number.ofText? token with
      | some n =>
        rw [hnumber] at hmoderate
        have hwritten : String.ofList (Inspect.write (number n)) = n.text := String.ofList_toList
        have hinspect : (number n).inspect = .ok n.text := by
          rw [inspect, ifWritable, if_pos hmoderate.isWritable, hwritten]
        rw [storedText, hnumber]
        exact hinspect
      | none =>
        rw [storedText, hnumber]
        rfl

theorem ofParameter_ne_empty {token : String} (hne : token ≠ "")
    (hquotes : '\x27' ∉ token.toList ∧ '"' ∉ token.toList) : ofParameter token ≠ .text "" := by
  by_cases htrue : token = "true"
  · subst htrue
    nofun
  · by_cases hfalse : token = "false"
    · subst hfalse
      nofun
    · rw [ofParameter_of_ne htrue hfalse hquotes]
      cases Number.ofText? token with
      | some n => nofun
      | none => exact fun heq => hne (Value.text.inj heq)

theorem ofParameter_repr {n : Nat} (hn : n < Number.writeLimit) :
    ofParameter n.repr = .int n :=
  (CommandLine.Argument.integer n hn).ofParameter_text

end Value

/-! ## Command lines -/

/-- The command `name` with a text and a position. -/
def textLine (name token : String) (index : Nat) : String :=
  name ++ " text=" ++ token ++ " slideIndex=" ++ index.repr

section

variable {name token : String} (hname : IsField name.toList) (htoken : IsField token.toList)
  (index : Nat)
include hname htoken

/-- How the line is read. -/
theorem ofText_textLine :
    CommandLine.ofText (textLine name token index) =
      ⟨name, .ofList [("text", .ofParameter token), ("slideIndex", .ofParameter index.repr)]⟩ := by
  have hgap {cs : List Char} : ∀ c ∈ (' ' :: cs).head?, isBlank c = true := by
    intro c hc
    cases hc
    exact isBlank_space
  have hskip (cs : List Char) : fields (' ' :: cs) = fields cs :=
    @fields_append_of_blanks [' '] (by simp) cs
  have hfield {key value : String} (hkey : ∀ c ∈ key.toList, isBlank c = false)
      (hvalue : ∀ c ∈ value.toList, isBlank c = false) :
      IsField (key.toList ++ '=' :: value.toList) := by
    refine ⟨by simp, ?_⟩
    rw [List.forall_mem_append, List.forall_mem_cons]
    exact ⟨hkey, by decide, hvalue⟩
  have htext : IsField ("text".toList ++ '=' :: token.toList) :=
    hfield (unbroken_of_any (by decide)) htoken.unbroken
  have hposition : IsField ("slideIndex".toList ++ '=' :: index.repr.toList) :=
    hfield (unbroken_of_any (by decide)) fun c hc =>
      @CommandLine.isBlank_eq_false_of_mem_repr (index : Int) c hc
  have hline : (textLine name token index).toList =
      name.toList ++ ' ' :: (("text".toList ++ '=' :: token.toList) ++
        ' ' :: ("slideIndex".toList ++ '=' :: index.repr.toList ++ [])) := by
    simp [textLine]
  have hfields : fields (textLine name token index).toList =
      [name.toList, "text".toList ++ '=' :: token.toList,
        "slideIndex".toList ++ '=' :: index.repr.toList] := by
    rw [hline, hname.fields_append hgap, hskip, htext.fields_append hgap, hskip,
      hposition.fields_append (by simp), fields]
  have hentry {key : String} (hne : key.toList ≠ []) (uncut : '=' ∉ key.toList)
      (value : String) : Params.entry? (key.toList ++ '=' :: value.toList) =
        some (key, .ofParameter value) := by
    rw [Params.entry?_append hne uncut, String.ofList_toList, String.ofList_toList]
  rw [CommandLine.ofText, hfields]
  simp only [String.ofList_toList, Params.ofFields, List.filterMap_cons, List.filterMap_nil,
    hentry (by decide : "text".toList ≠ []) (by decide),
    hentry (by decide : "slideIndex".toList ≠ []) (by decide)]

end

namespace Session

/-! ## Commands that store a text -/

/-- A step that has no way to fail succeeds. -/
theorem success_of_settles {session : Session} {step : Step CommandResult}
    (hstep : Settles False (fun _ => False) session step) (code : ErrorCode) (what : String) :
    (guarded code what step session).1.success = true := by
  obtain ⟨hreports, hcode⟩ := hstep.guarded code not_false what
  by_contra hfailed
  rw [Bool.not_eq_true] at hfailed
  rcases hreports.code_allowed hfailed with hnever | hsame
  · exact hnever
  · exact hcode.1 hsame

section

variable {session : Session} {params : Params} {token : String} {index : Nat} {slide : Slide}
  (quiet : session.store.Quiet) (hne : token ≠ "")
  (hquotes : '\x27' ∉ token.toList ∧ '"' ∉ token.toList)
  (htext : params.get? "text" = some (.ofParameter token))
  (hindex : params.get? "slideIndex" = some (.int index))
include quiet hne hquotes htext hindex

/-- Before a text is stored, nothing can go wrong. -/
theorem settles_of_next {default : Deck → Value} {code : ErrorCode}
    {next : String → Deck → Option Int → Step CommandResult}
    (hnext : ∀ text, (Value.ofParameter token).parameterText = .ok text →
      Settles False (fun _ => False) session
        (next text session.store.slides (some (index : Int)))) :
    Settles False (fun _ => False) session (do
      match ← textParameter? params with
      | none => return .failure code "text parameter required"
      | some text =>
        let deck ← readDeck
        let position ← convert ((params.get? "slideIndex").getD (default deck)).integer?
        next text deck position) := by
  refine .textParameter ?_ ?_ ?_
  · intro value hvalue
    cases htext.symm.trans hvalue
    exact ⟨_, Value.parameterText_ofParameter hquotes⟩
  · intro hmissing
    exact absurd ⟨_, htext, Value.ofParameter_ne_empty hne hquotes⟩ hmissing
  · intro value text _ hgiven hwritten
    cases htext.symm.trans hgiven
    refine .readDeck quiet ?_
    rw [hindex]
    exact hnext text hwritten

variable (hslide : session.store.slides[index]? = some slide)
include hslide

theorem success_setSlideTitle : (perform params .setSlideTitle session).1.success = true := by
  refine success_of_settles (settles_of_next quiet hne hquotes htext hindex ?_) .titleFailed _
  intro text hwritten
  have hfound : slideAt? session.store.slides (some (index : Int)) = some (index, slide) :=
    slideAt?_eq_some.2 ⟨rfl, hslide⟩
  rw [hfound]
  exact .act quiet (.setSlideTitle htext hwritten (by rw [hindex]; rfl) hfound) not_false _ _

theorem success_addText : (perform params .addText session).1.success = true := by
  refine success_of_settles (settles_of_next quiet hne hquotes htext hindex ?_) .textFailed _
  intro text hwritten
  have hfound : slideAt? session.store.slides (some (index : Int)) = some (index, slide) :=
    slideAt?_eq_some.2 ⟨rfl, hslide⟩
  rw [hfound]
  exact .act quiet (.addText htext hwritten (by rw [hindex]; rfl) hfound) not_false _ _

end

/-! ## The main statement -/

section

variable {session : Session} {name token : String} {index : Nat} {slide : Slide}
  (quiet : session.store.Quiet) (hids : session.store.slides.ids.Nodup)
  (htoken : IsField token.toList) (hquotes : '\x27' ∉ token.toList ∧ '"' ∉ token.toList)
  (hslide : session.store.slides[index]? = some slide) (hlimit : index < Number.writeLimit)
  (hname : IsField name.toList)
include htoken hname

theorem commandOf_textLine :
    session.commandOf (textLine name token index) =
      Command.ofName? (session.expandAlias name) := by
  rw [commandOf, ofText_textLine hname htoken]

theorem get?_text_textLine :
    (CommandLine.ofText (textLine name token index)).params.get? "text" =
      some (.ofParameter token) := by
  rw [ofText_textLine hname htoken]
  exact @Table.get?_ofList Value "text" [] [("slideIndex", .ofParameter index.repr)] _ (by simp)

include hlimit

theorem get?_slideIndex_textLine :
    (CommandLine.ofText (textLine name token index)).params.get? "slideIndex" =
      some (.int index) := by
  rw [ofText_textLine hname htoken, Value.ofParameter_repr hlimit]
  exact @Table.get?_ofList Value "slideIndex" [("text", .ofParameter token)] [] _ (by simp)

/-- The position of such a line can only be the one that is written there. -/
theorem eq_of_pointsAt {deck : Deck} {command : Command} {place : Nat}
    (hcommand : command = .setSlideTitle ∨ command = .addText)
    (hplace : PointsAt (CommandLine.ofText (textLine name token index)).params deck command
      place) : index = place := by
  have hindex := get?_slideIndex_textLine htoken hlimit hname
  have hdecoded : (Value.int index).integer? = .ok (some (place : Int)) := by
    have hdecoded := hplace.decoded
    rcases hcommand with rfl | rfl
    · rwa [positionValue, hindex] at hdecoded
    · rwa [positionValue, hindex] at hdecoded
  exact Int.ofNat.inj (Option.some.inj (Except.ok.inj hdecoded))

include quiet hids hquotes hslide

/-- The line succeeds, and what it does is prescribed. -/
theorem run_textLine {command : Command} (hcommand : command = .setSlideTitle ∨ command = .addText)
    (hknown : Command.ofName? (session.expandAlias name) = some command) :
    (run (textLine name token index) session).1.success = true ∧
      Prescribed (CommandLine.ofText (textLine name token index)).params session.store.slides
        command (run (textLine name token index) session).2.store.slides := by
  have hne : token ≠ "" := by
    rintro rfl
    exact htoken.ne_nil rfl
  have htext := @get?_text_textLine name token index htoken hname
  have hindex := get?_slideIndex_textLine htoken hlimit hname
  have hline := (@commandOf_textLine session name token index htoken hname).trans hknown
  have hdone : (run (textLine name token index) session).1.success = true := by
    rcases hcommand with rfl | rfl
    · rw [run_fst_of_quiet quiet hline (by decide) (by decide)]
      exact success_setSlideTitle quiet hne hquotes htext hindex hslide
    · rw [run_fst_of_quiet quiet hline (by decide) (by decide)]
      exact success_addText quiet hne hquotes htext hindex hslide
  refine ⟨hdone, ?_⟩
  obtain ⟨other, hother, hprescribed⟩ := run_prescribed quiet hids hdone
  cases hline.symm.trans hother
  rcases hprescribed with rfl | rfl | hprescribed
  · simp at hcommand
  · simp at hcommand
  · exact hprescribed

theorem run_setSlideTitle
    (hknown : Command.ofName? (session.expandAlias name) = some .setSlideTitle) :
    (run (textLine name token index) session).1.success = true ∧
      (run (textLine name token index) session).2.store.slides =
        session.store.slides.modify index fun slide =>
          { slide with title := storedText token } := by
  obtain ⟨hdone, hprescribed⟩ :=
    run_textLine quiet hids htoken hquotes hslide hlimit hname (.inl rfl) hknown
  refine ⟨hdone, ?_⟩
  generalize (run (textLine name token index) session).2.store.slides = after at hprescribed ⊢
  cases hprescribed with
  | setSlideTitle place value text hplace hgiven hwritten =>
    obtain rfl := eq_of_pointsAt htoken hlimit hname (.inl rfl) hplace
    cases (get?_text_textLine htoken hname).symm.trans hgiven
    cases (Value.parameterText_ofParameter hquotes).symm.trans hwritten
    rfl

theorem run_addText (hcontent : slide.content = "")
    (hknown : Command.ofName? (session.expandAlias name) = some .addText) :
    (run (textLine name token index) session).1.success = true ∧
      (run (textLine name token index) session).2.store.slides =
        session.store.slides.modify index fun slide =>
          { slide with content := storedText token } := by
  obtain ⟨hdone, hprescribed⟩ :=
    run_textLine quiet hids htoken hquotes hslide hlimit hname (.inr rfl) hknown
  refine ⟨hdone, ?_⟩
  generalize (run (textLine name token index) session).2.store.slides = after at hprescribed ⊢
  cases hprescribed with
  | addText place value text hplace hgiven hwritten =>
    obtain rfl := eq_of_pointsAt htoken hlimit hname (.inr rfl) hplace
    cases (get?_text_textLine htoken hname).symm.trans hgiven
    cases (Value.parameterText_ofParameter hquotes).symm.trans hwritten
    exact modify_congr_of_getElem? hslide (by rw [if_pos hcontent])

end

/-- **Texts on slides are stored as they are typed, numbers aside.**  In a store without failures
and on a deck with distinct ids, a line with a title for a slide of the deck succeeds and makes it
the title, and a line with a text for a slide without content succeeds and makes it the content.
What is stored is the token itself unless it is read as a number; then it is that number as numbers
are written, which for an integer in its usual form is the token again. -/
theorem run_storesText {session : Session} (quiet : session.store.Quiet)
    (hids : session.store.slides.ids.Nodup) {token : String} (htoken : IsField token.toList)
    (hquotes : '\x27' ∉ token.toList ∧ '"' ∉ token.toList) {index : Nat} {slide : Slide}
    (hslide : session.store.slides[index]? = some slide) (hlimit : index < Number.writeLimit) :
    (∀ name : String, IsField name.toList →
      Command.ofName? (session.expandAlias name) = some .setSlideTitle →
      (run (textLine name token index) session).1.success = true ∧
        (run (textLine name token index) session).2.store.slides =
          session.store.slides.modify index fun slide =>
            { slide with title := storedText token }) ∧
    (slide.content = "" → ∀ name : String, IsField name.toList →
      Command.ofName? (session.expandAlias name) = some .addText →
      (run (textLine name token index) session).1.success = true ∧
        (run (textLine name token index) session).2.store.slides =
          session.store.slides.modify index fun slide =>
            { slide with content := storedText token }) ∧
    (¬Numeral.IsNumeral token.toList → storedText token = token) ∧
    (∀ n : Int, n.natAbs < Number.writeLimit → token = n.repr → storedText token = token) ∧
    ∀ n, Number.ofText? token = some n → storedText token = n.text := by
  refine ⟨?_, ?_, ?_, ?_, ?_⟩
  · intro name hname hknown
    exact run_setSlideTitle quiet hids htoken hquotes hslide hlimit hname hknown
  · intro hcontent name hname hknown
    exact run_addText quiet hids htoken hquotes hslide hlimit hname hcontent hknown
  · intro hnumeral
    exact storedText_of_not_isNumeral htoken.unbroken hnumeral
  · rintro n hn rfl
    exact storedText_repr hn
  · intro n hn
    rw [storedText, hn]

/-- A token with an equals sign is a title like any other. -/
theorem run_storesText_sign :
    (run "set-slide-title text=a=b slideIndex=1" threeSlides).1.success = true ∧
      (run "set-slide-title text=a=b slideIndex=1" threeSlides).2.store.slides =
        [{ id := "overview" }, { id := "agenda", title := "a=b" },
          { id := "end", active := true }] := by
  have hline : textLine "set-slide-title" "a=b" 1 = "set-slide-title text=a=b slideIndex=1" := by
    decide
  obtain ⟨htitle, -, hstored, -⟩ := @run_storesText threeSlides rfl (by decide) "a=b" (by decide)
    (by decide) 1 { id := "agenda" } (by decide) Number.one_lt_writeLimit
  have hdone := htitle "set-slide-title" (by decide) (by decide)
  rw [hline, hstored (CommandLine.not_isNumeral (by decide))] at hdone
  exact hdone

/-- A number is not stored with the zeros or the sign that it is typed with. -/
theorem not_forall_run_storesToken :
    ¬(∀ (session : Session) (token : String) (index : Nat) (slide : Slide),
      session.store.Quiet → session.store.slides.ids.Nodup → IsField token.toList →
      '\x27' ∉ token.toList ∧ '"' ∉ token.toList → session.store.slides[index]? = some slide →
      Command.ofName? (session.expandAlias "set-slide-title") = some .setSlideTitle →
      (run (textLine "set-slide-title" token index) session).2.store.slides =
        session.store.slides.modify index fun slide => { slide with title := token }) ∧
    ¬∀ (session : Session) (token : String) (index : Nat) (slide : Slide),
      session.store.Quiet → session.store.slides.ids.Nodup → IsField token.toList →
      '\x27' ∉ token.toList ∧ '"' ∉ token.toList → session.store.slides[index]? = some slide →
      slide.content = "" →
      Command.ofName? (session.expandAlias "add-text") = some .addText →
      (run (textLine "add-text" token index) session).2.store.slides =
        session.store.slides.modify index fun slide => { slide with content := token } := by
  have hquiet : threeSlides.store.Quiet := rfl
  have hids : threeSlides.store.slides.ids.Nodup := by decide
  have hslide : threeSlides.store.slides[0]? = some { id := "overview" } := by decide
  have hlimit := Nat.zero_lt_of_lt Number.one_lt_writeLimit
  refine ⟨fun hall => ?_, fun hall => ?_⟩
  · have hknown : Command.ofName? (threeSlides.expandAlias "set-slide-title") =
        some .setSlideTitle := by decide
    have htoken : IsField "007".toList := by decide
    have hquotes : '\x27' ∉ "007".toList ∧ '"' ∉ "007".toList := by decide
    have hclaimed := hall threeSlides "007" 0 _ hquiet hids htoken hquotes hslide hknown
    have hstored :=
      (run_setSlideTitle hquiet hids htoken hquotes hslide hlimit (by decide) hknown).2
    exact absurd (hstored.symm.trans hclaimed) (by decide)
  · have hknown : Command.ofName? (threeSlides.expandAlias "add-text") = some .addText := by decide
    have htoken : IsField "+5".toList := by decide
    have hquotes : '\x27' ∉ "+5".toList ∧ '"' ∉ "+5".toList := by decide
    have hclaimed := hall threeSlides "+5" 0 _ hquiet hids htoken hquotes hslide rfl hknown
    have hstored :=
      (run_addText hquiet hids htoken hquotes hslide hlimit (by decide) rfl hknown).2
    exact absurd (hstored.symm.trans hclaimed) (by decide)

end Session

end DeckScript
