import DeckScript.Proofs.Command.Run

/-!
# Runs of command lines

A session is opened on a store and then meets requests, each a command line at a time
of its own.
-/

namespace DeckScript

/-- A command line and the time at which it is given. -/
structure Request where
  line : String
  now : Number
deriving Repr

namespace Session

/-- A session that was just opened on a store: its deck is the baseline. -/
def opened (store : Store) (aliases : Table String) (idStem : String) (spacing : Int)
    (now : Number) : Session :=
  { store, history := .start (some store.slides), aliases, idStem, spacing, now }

/-- Runs a line at its time. -/
def serve (session : Session) (request : Request) : CommandResult × Session :=
  run request.line { session with now := request.now }

/-- The session after requests. -/
def serveAll (session : Session) : List Request → Session
  | [] => session
  | request :: rest => (session.serve request).2.serveAll rest

/-- The time has no part in what a line stands for, nor in the history and the store. -/
theorem serve_historyStep (session : Session) (request : Request) :
    HistoryStep session request.line (session.serve request).1 (session.serve request).2 := by
  cases run_historyStep request.line { session with now := request.now } with
  | kept hhistory hidle => exact .kept hhistory hidle
  | recorded entry hhistory hslides => exact .recorded entry hhistory hslides
  | moved slides hhistory hslides => exact .moved slides hhistory hslides

theorem serve_course {session : Session} (quiet : session.store.Quiet) (request : Request) :
    (session.serve request).2.store.Quiet ∧
      Course session request.line (session.serve request).1 (session.serve request).2 := by
  have hquiet : Store.Quiet { session with now := request.now }.store := quiet
  obtain ⟨hafter, hcourse⟩ := run_course hquiet request.line
  refine ⟨hafter, ?_⟩
  cases hcourse with
  | failed hfailed hslides hhistory hundo hredo =>
    exact .failed hfailed hslides hhistory hundo hredo
  | unrecorded command hcommand hdone hkeeps heffect hhistory =>
    exact .unrecorded command hcommand hdone hkeeps heffect hhistory
  | recorded command hcommand hdone hchanges heffect hhistory =>
    exact .recorded command hcommand hdone hchanges heffect hhistory
  | undone hcommand hdone hmove => exact .undone hcommand hdone hmove
  | redone hcommand hdone hmove => exact .redone hcommand hdone hmove

end Session

end DeckScript
