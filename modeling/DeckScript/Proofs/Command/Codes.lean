import DeckScript.Proofs.Command.Failure

/-!
# Codes and the commands they belong to

A script that sees a command fail has only the code to go by.  Each command has a block
of codes of its own, and the blocks do not overlap, so the code of a failure names the
command (`Command.eq_of_owns`).  Two codes lie outside all blocks: that of a line whose
command is unknown, and that of a change whose snapshot could not be read.

## Strategy

A result comes from one of two places, `CommandResult.ok` and `CommandResult.failure`,
and `Reports` remembers which codes the second was used with.  What a step does before
its last answer plays no role for that, so a command is gone through once, without a
look at its actions (`Answering.bind`); breaking off is reported with the last code of
the block (`Answering.guarded`).
-/

namespace DeckScript

/-! ## Blocks of codes -/

namespace Command

/-- The first and the last code with which a command fails. -/
def block : Command → Int × Int
  | newSlide => (11, 11)
  | setSlideTitle => (12, 14)
  | addText => (21, 23)
  | listSlides => (31, 31)
  | getCurrentSlide => (32, 32)
  | gotoSlide => (41, 43)
  | deleteSlide => (51, 53)
  | duplicateSlide => (61, 63)
  | undo => (71, 72)
  | redo => (81, 82)
  | getSlides => (91, 91)
  | getSlideInfo => (92, 93)

/-- Whether a code is in the block of a command. -/
def Owns (command : Command) (code : Int) : Prop :=
  command.block.1 ≤ code ∧ code ≤ command.block.2

instance (command : Command) (code : Int) : Decidable (command.Owns code) :=
  inferInstanceAs (Decidable (_ ∧ _))

/-- A code is in the block of one command at most. -/
theorem eq_of_owns {first second : Command} {code : Int} (hfirst : first.Owns code)
    (hsecond : second.Owns code) : first = second := by
  cases first <;> cases second <;> first
    | rfl
    | simp only [Owns, block] at hfirst hsecond
      omega

/-- All blocks lie between the codes of routing and the code of a failed run. -/
theorem bounds_of_owns {command : Command} {code : Int} (howns : command.Owns code) :
    ErrorCode.unknown.number < code ∧ code < ErrorCode.runFailed.number := by
  cases command <;> simp only [Owns, block] at howns <;> simp only [ErrorCode.number] <;> omega

theorem mem_all (command : Command) : command ∈ all := by
  cases command <;> decide

theorem name_injective {first second : Command} (hname : first.name = second.name) :
    first = second := by
  cases first <;> cases second <;> first
    | rfl
    | exact absurd hname (by decide)

theorem name_eq_of_ofName? {name : String} {command : Command}
    (hfound : ofName? name = some command) : command.name = name := by
  unfold ofName? at hfound
  have hname := List.find?_some hfound
  exact eq_of_beq hname

/-- A command is found under its name. -/
theorem ofName?_eq_some_iff {name : String} {command : Command} :
    ofName? name = some command ↔ command.name = name := by
  constructor
  · exact name_eq_of_ofName?
  · rintro rfl
    cases hfound : ofName? command.name with
    | none => exact absurd (List.find?_eq_none.1 hfound command command.mem_all) (by simp)
    | some other => rw [name_injective (name_eq_of_ofName? hfound)]

theorem ofName?_eq_none_iff {name : String} :
    ofName? name = none ↔ ∀ command : Command, command.name ≠ name := by
  constructor
  · intro hnone command hname
    rw [ofName?_eq_some_iff.2 hname] at hnone
    cases hnone
  · intro hunknown
    cases hfound : ofName? name with
    | none => rfl
    | some command => exact absurd (ofName?_eq_some_iff.1 hfound) (hunknown command)

end Command

/-! ## Results -/

/-- A success, or a failure with a code among those allowed. -/
inductive CommandResult.Reports (allowed : Int → Prop) : CommandResult → Prop
  | ok (output : String) (result : Value) : Reports allowed (.ok output result)
  | failure {code : ErrorCode} (hcode : allowed code.number) (output : String) :
      Reports allowed (.failure code output)

namespace CommandResult.Reports

variable {allowed : Int → Prop} {result : CommandResult}

theorem success_iff (h : result.Reports allowed) :
    result.success = true ↔ result.code = ErrorCode.ok := by
  cases h with
  | ok output payload => exact iff_of_true rfl rfl
  | failure hcode output => exact iff_of_false Bool.false_ne_true (ErrorCode.number_ne_ok _)

theorem result_eq_none (h : result.Reports allowed) (hfailed : result.success = false) :
    result.result = .none := by
  cases h with
  | ok output payload => cases hfailed
  | failure hcode output => rfl

theorem code_allowed (h : result.Reports allowed) (hfailed : result.success = false) :
    allowed result.code := by
  cases h with
  | ok output payload => cases hfailed
  | failure hcode output => exact hcode

theorem mono {more : Int → Prop} (h : result.Reports allowed)
    (hmore : ∀ code, allowed code → more code) : result.Reports more := by
  cases h with
  | ok output payload => exact .ok output payload
  | failure hcode output => exact .failure (hmore _ hcode) output

end CommandResult.Reports

namespace Session

/-! ## Steps -/

/-- The step answers, if it answers at all, with a code among those allowed. -/
def Answering (allowed : Int → Prop) (step : Step CommandResult) : Prop :=
  ∀ session result, (step.run session).1 = .ok result → result.Reports allowed

namespace Answering

variable {allowed : Int → Prop}

theorem ok (output : String) (result : Value) :
    Answering allowed (pure (.ok output result)) := by
  rintro session _ ⟨⟩
  exact .ok output result

theorem failure {code : ErrorCode} (hcode : allowed code.number) (output : String) :
    Answering allowed (pure (.failure code output)) := by
  rintro session _ ⟨⟩
  exact .failure hcode output

theorem fail (error : CommandError) : Answering allowed (.fail error) := by
  rintro session _ ⟨⟩

/-- Only the end of a chain answers. -/
theorem bind {α : Type} {step : Step α} {next : α → Step CommandResult}
    (hnext : ∀ a, Answering allowed (next a)) : Answering allowed (step >>= next) := by
  intro session result hresult
  rw [Attempt.run_bind] at hresult
  rcases hrun : step.run session with ⟨error | a, between⟩ <;> rw [hrun] at hresult
  · cases hresult
  · exact hnext a between result hresult

/-- What breaks off is reported with a code of its own. -/
theorem guarded {step : Step CommandResult} (hstep : Answering allowed step) {code : ErrorCode}
    (hcode : allowed code.number) (what : String) (session : Session) :
    (guarded code what step session).1.Reports allowed := by
  have hresult := hstep session
  unfold Session.guarded
  rcases hrun : step.run session with ⟨error | result, after⟩ <;> rw [hrun] at hresult
  · exact .failure hcode _
  · exact hresult result rfl

end Answering

section

variable (params : Params)

theorem newSlide_answering : Answering Command.newSlide.Owns (newSlide params) := by
  rw [newSlide_eq]
  repeat refine .bind fun _ => ?_
  exact .ok _ _

theorem setSlideTitle_answering : Answering Command.setSlideTitle.Owns (setSlideTitle params) := by
  refine .bind fun text => ?_
  cases text with
  | none => exact .failure (by decide) _
  | some text =>
    refine .bind fun deck => .bind fun index => ?_
    split
    · exact .bind fun _ => .failure (by decide) _
    · exact .bind fun _ => .ok _ _

theorem addText_answering : Answering Command.addText.Owns (addText params) := by
  refine .bind fun text => ?_
  cases text with
  | none => exact .failure (by decide) _
  | some text =>
    refine .bind fun deck => .bind fun index => ?_
    dsimp only
    split
    · exact .bind fun _ => .failure (by decide) _
    · exact .bind fun _ => .ok _ _

theorem deleteSlide_answering : Answering Command.deleteSlide.Owns (deleteSlide params) := by
  refine .bind fun deck => .bind fun index => ?_
  split
  · exact .failure (by decide) _
  · split
    · exact .bind fun _ => .failure (by decide) _
    · exact .bind fun _ => .bind fun _ => .ok _ _

theorem duplicateSlide_answering :
    Answering Command.duplicateSlide.Owns (duplicateSlide params) := by
  unfold duplicateSlide
  split
  · exact .failure (by decide) _
  · refine .bind fun deck => .bind fun index => ?_
    split
    · exact .bind fun _ => .failure (by decide) _
    · exact .bind fun _ => .bind fun _ => .ok _ _

theorem gotoSlide_answering : Answering Command.gotoSlide.Owns (gotoSlide params) := by
  unfold gotoSlide
  split
  · exact .failure (by decide) _
  · refine .bind fun deck => .bind fun index => ?_
    split
    · exact .bind fun _ => .failure (by decide) _
    · exact .bind fun _ => .ok _ _

theorem getCurrentSlide_answering : Answering Command.getCurrentSlide.Owns getCurrentSlide := by
  refine .bind fun deck => ?_
  dsimp only
  split
  · exact .fail _
  · exact .ok _ _

theorem getSlideInfo_answering : Answering Command.getSlideInfo.Owns (getSlideInfo params) := by
  refine .bind fun deck => .bind fun index => ?_
  split
  · exact .bind fun _ => .failure (by decide) _
  · exact .ok _ _

/-- Undo and redo fail with the code of the refusal unless they break off. -/
theorem travel_answering {allowed : Int → Prop} {code : ErrorCode} (hcode : allowed code.number)
    (move : History → Except HistoryError (Deck × History)) (refusal output : String) :
    Answering allowed (travel move code refusal output) := by
  refine .bind fun session => ?_
  split
  · exact .failure hcode _
  · repeat refine .bind fun _ => ?_
    exact .ok _ _

/-- A command fails with the codes of its block only. -/
theorem perform_reports (command : Command) (session : Session) :
    (perform params command session).1.Reports command.Owns := by
  cases command with
  | newSlide => exact (newSlide_answering params).guarded (by decide) _ _
  | setSlideTitle => exact (setSlideTitle_answering params).guarded (by decide) _ _
  | addText => exact (addText_answering params).guarded (by decide) _ _
  | listSlides => exact Answering.guarded (.bind fun _ => .ok _ _) (by decide) _ _
  | getCurrentSlide => exact getCurrentSlide_answering.guarded (by decide) _ _
  | gotoSlide => exact (gotoSlide_answering params).guarded (by decide) _ _
  | deleteSlide => exact (deleteSlide_answering params).guarded (by decide) _ _
  | duplicateSlide => exact (duplicateSlide_answering params).guarded (by decide) _ _
  | undo =>
    rw [perform, undo_eq_travel]
    exact (travel_answering (by decide) _ _ _).guarded (by decide) _ _
  | redo =>
    rw [perform, redo_eq_travel]
    exact (travel_answering (by decide) _ _ _).guarded (by decide) _ _
  | getSlides => exact Answering.guarded (.bind fun _ => .ok _ _) (by decide) _ _
  | getSlideInfo => exact (getSlideInfo_answering params).guarded (by decide) _ _

end

/-! ## Lines -/

section

variable {session : Session} {line : String} {command : Command}

theorem commandOf_eq_some_iff :
    session.commandOf line = some command ↔
      command.name = session.expandAlias (CommandLine.ofText line).name :=
  Command.ofName?_eq_some_iff

theorem commandOf_eq_none_iff :
    session.commandOf line = none ↔
      ∀ command : Command, command.name ≠ session.expandAlias (CommandLine.ofText line).name :=
  Command.ofName?_eq_none_iff

/-- The deck cannot be read for the snapshot that follows a successful change. -/
def SnapshotFails (session : Session) (line : String) (command : Command) : Prop :=
  let performed := perform (CommandLine.ofText line).params command session
  command.changesDeck = true ∧ performed.1.success = true ∧
    ∃ error, (Store.read.run performed.2.store).1 = .error error

/-- The two ways for a known command to end: its own result stands, or the snapshot fails. -/
theorem run_of_known (hcommand : session.commandOf line = some command) :
    ¬SnapshotFails session line command ∧
        (run line session).1 = (perform (CommandLine.ofText line).params command session).1 ∨
      SnapshotFails session line command ∧
        ∃ output, (run line session).1 = .failure .runFailed output := by
  unfold SnapshotFails
  rcases hperform : perform (CommandLine.ofText line).params command session with ⟨result, after⟩
  cases hdone : result.success with
  | false =>
    obtain ⟨message, hrun⟩ := run_of_failed hcommand hperform hdone
    rw [hrun]
    exact .inl ⟨fun hfails => Bool.false_ne_true (hdone.symm.trans hfails.2.1), rfl⟩
  | true =>
    cases hchanges : command.changesDeck with
    | false =>
      rw [run_of_unrecorded hcommand hperform hdone hchanges]
      exact .inl ⟨fun hfails => Bool.false_ne_true hfails.1, rfl⟩
    | true =>
      rw [run_of_recorded hcommand hperform hdone hchanges, recordChange]
      rcases hread : Store.read.run after.store with ⟨error | deck, store⟩
      · exact .inr ⟨⟨rfl, hdone, error, congrArg Prod.fst hread⟩, _, rfl⟩
      · refine .inl ⟨?_, rfl⟩
        rintro ⟨-, -, error, hfails⟩
        rw [hread] at hfails
        cases hfails

theorem run_of_unknown_name (h : session.commandOf line = none) :
    ∃ output message, run line session =
      (.failure .unknown output, session.logged .warning message) := by
  unfold commandOf at h
  simp only [run, h]
  exact ⟨_, _, rfl⟩

/-- A known command fails with a code of its block, or because of the snapshot. -/
theorem run_reports (hcommand : session.commandOf line = some command) :
    (run line session).1.Reports fun code =>
      command.Owns code ∨ code = ErrorCode.runFailed.number := by
  rcases run_of_known hcommand with ⟨-, hown⟩ | ⟨-, output, hfailed⟩
  · rw [hown]
    exact (perform_reports _ command session).mono fun _ howns => .inl howns
  · rw [hfailed]
    exact .failure (.inr rfl) output

/-- The code of a failed snapshot is used for nothing else. -/
theorem code_eq_runFailed_iff (hcommand : session.commandOf line = some command) :
    (run line session).1.code = ErrorCode.runFailed.number ↔
      SnapshotFails session line command := by
  rcases run_of_known hcommand with ⟨hsnapshot, hown⟩ | ⟨hsnapshot, output, hfailed⟩
  · refine iff_of_false ?_ hsnapshot
    have hreports := perform_reports (CommandLine.ofText line).params command session
    rw [hown]
    intro hcode
    cases hdone : (perform (CommandLine.ofText line).params command session).1.success with
    | true => exact absurd (hcode.symm.trans (hreports.success_iff.1 hdone)) (by decide)
    | false =>
      have hbounds := Command.bounds_of_owns (hreports.code_allowed hdone)
      exact absurd hcode (Int.ne_of_lt hbounds.2)
  · rw [hfailed]
    exact iff_of_true rfl hsnapshot

end

/-- **Results are coherent, and codes name the command.**  Every line has a result.  It is a success
exactly if its code is zero, and a failure has no payload.  The code 2 stands for a command that
is not known, under its name or by an alias, and then the store and the history are left alone.
A known command fails with a code of its block, which is that of no other command, or with 99,
and that exactly when a change has succeeded and the deck could not be read for the snapshot. -/
theorem run_coherent (session : Session) (line : String) :
    let name := session.expandAlias (CommandLine.ofText line).name
    let result := (run line session).1
    let after := (run line session).2
    (result.success = true ↔ result.code = 0) ∧
    (result.success = false → result.result = .none) ∧
    (result.code = 2 ↔ ∀ command : Command, command.name ≠ name) ∧
    (result.code = 2 → after.store = session.store ∧ after.history = session.history) ∧
    (∀ command : Command, command.name = name → result.success = false →
      command.Owns result.code ∧ (∀ other : Command, other.Owns result.code → other = command) ∨
        result.code = 99) ∧
    (result.code = 99 ↔
      ∃ command : Command, command.name = name ∧ SnapshotFails session line command) := by
  intro name result after
  cases hcommand : session.commandOf line with
  | none =>
    have hunknown := commandOf_eq_none_iff.1 hcommand
    obtain ⟨output, message, hrun⟩ := run_of_unknown_name hcommand
    have hresult : result = .failure .unknown output := congrArg Prod.fst hrun
    have hafter : after = session.logged .warning message := congrArg Prod.snd hrun
    rw [hresult, hafter]
    have hzero : ErrorCode.unknown.number ≠ 0 := ErrorCode.number_ne_ok _
    have hsnapshot : ErrorCode.unknown.number ≠ 99 := by decide
    refine ⟨iff_of_false Bool.false_ne_true hzero, fun _ => rfl, iff_of_true rfl hunknown,
      fun _ => ⟨rfl, rfl⟩, ?_, ?_⟩
    · intro command hname
      exact absurd hname (hunknown command)
    · refine iff_of_false hsnapshot ?_
      rintro ⟨command, hname, -⟩
      exact hunknown command hname
  | some command =>
    have hname := commandOf_eq_some_iff.1 hcommand
    have hreports : result.Reports _ := run_reports hcommand
    have hcode : result.code ≠ 2 := by
      intro hcode
      cases hdone : result.success with
      | true => exact absurd (hcode.symm.trans (hreports.success_iff.1 hdone)) (by decide)
      | false =>
        rcases hreports.code_allowed hdone with howns | hsnapshot
        · exact absurd hcode (Int.ne_of_gt (Command.bounds_of_owns howns).1)
        · exact absurd (hcode.symm.trans hsnapshot) (by decide)
    refine ⟨hreports.success_iff, hreports.result_eq_none, ?_, fun h => absurd h hcode, ?_, ?_⟩
    · exact iff_of_false hcode fun hunknown => hunknown command hname
    · intro other hother hfailed
      obtain rfl : other = command := Command.name_injective (hother.trans hname.symm)
      rcases hreports.code_allowed hfailed with howns | hsnapshot
      · exact .inl ⟨howns, fun _ hanother => Command.eq_of_owns hanother howns⟩
      · exact .inr hsnapshot
    · rw [show result.code = 99 ↔ _ from code_eq_runFailed_iff hcommand]
      constructor
      · intro hsnapshot
        exact ⟨command, hname, hsnapshot⟩
      · rintro ⟨other, hother, hsnapshot⟩
        rwa [Command.name_injective (hname.trans hother.symm)]

/-- The slide is there, but the deck cannot be read for the snapshot. -/
example :
    let after := run "new-slide" (unreliable { reading := .after 1 ⟨"store offline"⟩ })
    after.1.code = 99 ∧ after.2.store.slides.length = 3 := by
  decide +kernel

end Session

end DeckScript
