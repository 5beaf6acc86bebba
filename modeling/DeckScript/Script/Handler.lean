import DeckScript.Command.Session

/-!
# Address handlers

A script sends commands to addresses.  What answers there is a handler: it has a
state of its own, it may break off or never answer, and while it works someone may
ask the script to stop.  The only address of decks is `SLIDES`.
-/

namespace DeckScript.Script

/-- How a command sent to an address ends. -/
inductive Outcome where
  /-- The command was carried out and reports its result. -/
  | answered (result : CommandResult)
  /-- The handler broke off with an error of some kind. -/
  | raised (kind message : String)
  /-- No answer came within the time that was left. -/
  | overdue
deriving Repr

/-- The end of a command, and whether a stop was asked for meanwhile. -/
structure Reply where
  outcome : Outcome
  stops : Bool := false
deriving Repr

/-- Answers commands: address and command text, on a state of the handler. -/
abbrev AddressHandler (σ : Type) := String → String → σ → Reply × σ

/-- The address of decks. -/
def slidesAddress : String := "SLIDES"

/-- Sends commands for the slides, whatever the case of the address, to `run`, and refuses the
others. -/
def route {σ : Type} (run : Option (String → σ → CommandResult × σ)) (address command : String)
    (state : σ) : CommandResult × σ :=
  if Text.uppercase address = slidesAddress then
    match run with
    | none => (.failure .handlerMissing "Slides handler not initialized", state)
    | some run => run command state
  else (.failure .unknown ("Unknown address: " ++ address), state)

/-- The handler that routes to `run`. -/
def routed {σ : Type} (run : Option (String → σ → CommandResult × σ)) : AddressHandler σ :=
  fun address command state =>
    match route run address command state with
    | (result, state) => ({ outcome := .answered result }, state)

/-- The handler that runs commands in a session. -/
def sessionHandler : AddressHandler Session :=
  routed (some Session.run)

/-- The handler that gives prepared replies in order and repeats the last one. -/
def prepared : AddressHandler (List Reply) :=
  fun _ _ replies =>
    match replies with
    | [] => ({ outcome := .answered (.ok "done") }, [])
    | [reply] => (reply, [reply])
    | reply :: rest => (reply, rest)

end DeckScript.Script
