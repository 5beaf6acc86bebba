import DeckScript.Proofs.Command.Run
import DeckScript.Proofs.Script.Effects
import DeckScript.Proofs.Value.Json

/-!
# The printed deck

The payload of `get-slides` is the whole deck as a value.  If the positions of its slides
are integers, the payload can be printed, and the text determines the deck: no title or
content, whatever it imitates, makes two decks look alike.  The text is a single line, so
that a script which asks for the deck and says the result prints one line.
-/

namespace DeckScript

/-! ## Decks as values -/

/-- The numbers of a position. -/
def Position.numbers (position : Position) : List Number :=
  [position.x, position.y, position.z, position.scale, position.rotate, position.rotateX,
    position.rotateY, position.rotateZ]

/-- The names of the numbers of a position. -/
def Position.names : List String :=
  ["x", "y", "z", "scale", "rotate", "rotateX", "rotateY", "rotateZ"]

/-- The numbers of the position are integers within the limit for writing. -/
def Position.IsInteger (position : Position) : Prop :=
  ∀ number ∈ position.numbers, ∃ n : Int, number = .int n ∧ n.natAbs < Number.writeLimit

/-- The positions of all slides are integers within the limit for writing. -/
def Deck.HasIntegerPositions (deck : Deck) : Prop :=
  ∀ slide ∈ deck, slide.position.IsInteger

theorem Position.toValue_eq (position : Position) :
    position.toValue = .dict (names.zip (position.numbers.map .number)) := rfl

theorem Position.IsInteger.integral {position : Position} (hposition : position.IsInteger) :
    position.toValue.Integral := by
  rw [Position.toValue_eq]
  refine .dict fun entry hentry => ?_
  obtain ⟨number, hnumber, hvalue⟩ := List.mem_map.1 (List.of_mem_zip hentry).2
  obtain ⟨n, rfl, hn⟩ := hposition number hnumber
  rw [← hvalue]
  exact .int hn

theorem Slide.integral_toValue {slide : Slide} (hposition : slide.position.IsInteger) :
    slide.toValue.Integral := by
  refine .dict fun entry hentry => ?_
  simp only [entries, List.mem_cons, List.not_mem_nil, or_false] at hentry
  rcases hentry with rfl | rfl | rfl | rfl | rfl
  · exact .text slide.id
  · exact .text slide.title
  · exact .text slide.content
  · exact hposition.integral
  · exact .bool slide.active

theorem Deck.HasIntegerPositions.integral {deck : Deck} (hdeck : deck.HasIntegerPositions) :
    deck.toValue.Integral := by
  refine .list fun item hitem => ?_
  obtain ⟨slide, hslide, rfl⟩ := List.mem_map.1 hitem
  exact Slide.integral_toValue (hdeck slide hslide)

theorem Position.toValue_injective : Function.Injective Position.toValue := by
  rintro ⟨⟩ ⟨⟩ h
  simpa [toValue] using h

theorem Slide.toValue_injective : Function.Injective Slide.toValue := by
  rintro ⟨⟩ ⟨⟩ h
  simpa [toValue, entries, Position.toValue_injective.eq_iff] using h

theorem Deck.toValue_injective : Function.Injective Deck.toValue := by
  intro deck deck' h
  exact Slide.toValue_injective.list_map (Value.list.inj h)

/-! ## The text -/

/-- The text of a deck as a script prints it. -/
def Deck.text (deck : Deck) : String :=
  String.ofList (Value.Json.write deck.toValue)

namespace Deck.HasIntegerPositions

variable {deck deck' : Deck}

theorem display_toValue (hdeck : deck.HasIntegerPositions) :
    deck.toValue.display = .ok deck.text :=
  if_pos hdeck.integral.isWritable

theorem text_inj (hdeck : deck.HasIntegerPositions) (hdeck' : deck'.HasIntegerPositions)
    (h : deck.text = deck'.text) : deck = deck' := by
  have hwrite : Value.Json.write deck.toValue = Value.Json.write deck'.toValue :=
    String.ofList_injective h
  have hend : Value.Json.EndsInteger [] := nofun
  have happend : Value.Json.write deck.toValue ++ [] = Value.Json.write deck'.toValue ++ [] := by
    rw [hwrite]
  exact Deck.toValue_injective
    (Value.Json.write_append_inj hdeck.integral hdeck'.integral hend hend happend).1

theorem isPrintableAscii_of_mem_text (hdeck : deck.HasIntegerPositions) {c : Char}
    (hc : c ∈ deck.text.toList) : Value.Json.IsPrintableAscii c := by
  rw [text, String.toList_ofList] at hc
  exact Value.Json.isPrintableAscii_of_mem_write hdeck.integral c hc

end Deck.HasIntegerPositions

/-! ## Asking for the deck -/

/-- Without failures of the store, `get-slides` answers with the deck. -/
theorem Session.perform_getSlides {session : Session} (quiet : session.store.Quiet)
    (params : Params) :
    perform params .getSlides session =
      (.ok ("Retrieved " ++ session.store.slides.length.repr ++ " slides")
        session.store.slides.toValue, session) := by
  have hread : readDeck.run session = (.ok session.store.slides, session) := by
    simp only [readDeck, Attempt.on, quiet.run_read]
  simp only [perform, guarded, getSlides, Attempt.run_bind, hread]
  rfl

namespace Script

theorem Expression.evaluate_resultVariable {vars : Variables} {value : Value}
    (hvalue : vars.get? resultVariable = some value) :
    evaluate vars resultVariable = .ok value := by
  have hatom : atom? vars (Text.trim resultVariable.toList) = vars.get? resultVariable := rfl
  simp only [evaluate, hatom, hvalue]

theorem Run.run_say_resultVariable {σ : Type} {state : RunState σ} {value : Value} {text : String}
    (hvalue : state.vars.get? resultVariable = some value) (htext : value.display = .ok text) :
    (say resultVariable).run state = (.ok (), { state with said := state.said.push text }) := by
  have hevaluate : (evaluate resultVariable : Run σ Value).run state = (.ok value, state) := by
    simp only [evaluate, Attempt.run_bind, Attempt.run_get,
      Expression.evaluate_resultVariable hvalue, Attempt.run_ofExcept_ok]
  simp only [say, Attempt.run_bind, hevaluate, htext, Attempt.run_ofExcept_ok, Attempt.run_modify]

/-- A directive that asks for the deck, sent in time, stores it as the result. -/
theorem Run.run_sendCommand_getSlides {surroundings : Surroundings Session}
    (hhandler : surroundings.handler = sessionHandler) {state : RunState Session}
    (quiet : state.host.store.Quiet) {target command : String}
    (htarget : Text.uppercase target = slidesAddress)
    (hcommand : state.host.commandOf command = some .getSlides) {now : Binary64}
    (hclock : surroundings.clock state.readings = .ok now)
    (hearly : now.lt surroundings.deadline = true) (line : Nat) :
    ∃ between, (sendCommand surroundings line target command).run state = (.ok (), between) ∧
      between.vars.get? resultVariable = some state.host.store.slides.toValue ∧
      between.said = state.said := by
  have hrun := Session.run_of_unrecorded hcommand (Session.perform_getSlides quiet _) rfl rfl
  have hanswer : surroundings.handler target command state.host =
      ({ outcome := .answered (Session.run command state.host).1 },
        (Session.run command state.host).2) := by
    rw [hhandler, sessionHandler, routed, route, if_pos htarget]
  rw [run_sendCommand, hclock, hanswer, hrun]
  simp only [hearly, if_true, run_storeResult]
  exact ⟨_, rfl, Table.get?_insert .., rfl⟩

/-- **The printed deck determines the deck.**  The payloads of `get-slides` on two decks can be
printed; if they are printed alike, the decks are equal.  The text has printable characters of ASCII
only, and a script that asks for the deck while there is time, and then says the result, prints
just this text. -/
theorem printed_getSlides {session session' : Session} (quiet : session.store.Quiet)
    (quiet' : session'.store.Quiet) (hpositions : session.store.slides.HasIntegerPositions)
    (hpositions' : session'.store.slides.HasIntegerPositions) (params params' : Params) :
    ∃ text text' : String,
      (Session.perform params .getSlides session).1.result.display = .ok text ∧
      (Session.perform params' .getSlides session').1.result.display = .ok text' ∧
      (text = text' → session.store.slides = session'.store.slides) ∧
      (∀ c ∈ text.toList, Value.Json.IsPrintableAscii c) ∧
      ∀ (surroundings : Surroundings Session) (state : RunState Session) (target command : String)
        (now : Binary64) (line : Nat),
        surroundings.handler = sessionHandler → state.host = session →
        Text.uppercase target = slidesAddress → session.commandOf command = some .getSlides →
        surroundings.clock state.readings = .ok now → now.lt surroundings.deadline = true →
        ∃ after,
          (do
            Run.sendCommand surroundings line target command
            Run.say resultVariable).run state = (.ok (), after) ∧
          after.said = state.said.push text := by
  refine ⟨session.store.slides.text, session'.store.slides.text, ?_, ?_, ?_, ?_, ?_⟩
  · rw [Session.perform_getSlides quiet]
    exact hpositions.display_toValue
  · rw [Session.perform_getSlides quiet']
    exact hpositions'.display_toValue
  · exact hpositions.text_inj hpositions'
  · exact fun c hc => hpositions.isPrintableAscii_of_mem_text hc
  · rintro surroundings state target command now line hhandler rfl htarget hcommand hclock hearly
    obtain ⟨between, hsent, hvalue, hsaid⟩ :=
      Run.run_sendCommand_getSlides hhandler quiet htarget hcommand hclock hearly line
    rw [Attempt.run_bind, hsent]
    dsimp only
    rw [Run.run_say_resultVariable hvalue hpositions.display_toValue]
    exact ⟨_, rfl, by rw [hsaid]⟩

example : Statement.ofLine "SAY RESULT" = .say resultVariable := by decide

/-- A session on a deck with one slide. -/
def oneSlide (title content : String) : Session :=
  .start [{ id := "s-1", title, content, position := { x := .int (-900) } }] .empty "s-" 900
    (.int 0)

theorem hasIntegerPositions_oneSlide (title content : String) :
    (oneSlide title content).store.slides.HasIntegerPositions := by
  have hlimit : 900 < Number.writeLimit := Number.lt_writeLimit (n := 3) (by decide) (by decide)
  intro slide hslide number hnumber
  obtain rfl := List.mem_singleton.1 hslide
  have hsmall : ∀ number ∈ Position.numbers { x := .int (-900) },
      number = .int (-900) ∨ number = .int 0 ∨ number = .int 1 := by
    decide
  rcases hsmall number hnumber with rfl | rfl | rfl
  · exact ⟨-900, rfl, hlimit⟩
  · exact ⟨0, rfl, by omega⟩
  · exact ⟨1, rfl, by omega⟩

/-- Surroundings in which time stands still. -/
def timeless : Surroundings Session where
  handler := sessionHandler
  clock := fun _ => .ok (.finite false 0 0)
  timeout := 1000
  deadline := .finite false 1 0

/-- A title that pretends to end and to go on with a content does not make the deck look like one
that has this content, and the deck is printed on one line. -/
theorem printed_getSlides_pretending :
    ∃ text text' after,
      (oneSlide "\", \"content\": \"🂡\n" "").store.slides.toValue.display = .ok text ∧
      (oneSlide "" "🂡\n").store.slides.toValue.display = .ok text' ∧ text ≠ text' ∧
      (do
        Run.sendCommand timeless 0 slidesAddress "get-slides"
        Run.say "RESULT").run { readings := 1, host := oneSlide "\", \"content\": \"🂡\n" "" } =
        (.ok (), after) ∧
      after.said = #[text] := by
  have quiet (title content : String) : (oneSlide title content).store.Quiet := rfl
  obtain ⟨text, text', htext, htext', hinj, -, hsay⟩ :=
    printed_getSlides (quiet "\", \"content\": \"🂡\n" "") (quiet "" "🂡\n")
      (hasIntegerPositions_oneSlide _ _) (hasIntegerPositions_oneSlide _ _) .empty .empty
  obtain ⟨after, hrun, hsaid⟩ := hsay timeless { readings := 1, host := _ } slidesAddress
    "get-slides" (.finite false 0 0) 0 rfl rfl (by decide) (by decide +kernel) rfl
    (by decide +kernel)
  have hdifferent : text ≠ text' := fun heq => absurd (hinj heq) (by decide)
  exact ⟨text, text', after, htext, htext', hdifferent, hrun, hsaid⟩

end Script

end DeckScript
