import DeckScript.Attempt
import DeckScript.Deck.Action

/-!
# The deck store

The store keeps the deck and tells its listeners after every change.  It may be
out of reach: a schedule says which of the coming calls fail.  A failing read or
dispatch has no effect; a failing listener is called after the change was made, and
listeners behind it are not called.
-/

namespace DeckScript

/-- The store, or a listener of it, cannot be reached. -/
structure Offline where
  reason : String
deriving Repr, DecidableEq

/-- The error as the log shows it. -/
def Offline.inspect (error : Offline) : String :=
  "RuntimeError(" ++ Text.quoted error.reason ++ ")"

/-- The failures to come, each with the number of calls that succeed before it.  Calls after the
last failure succeed. -/
abbrev Schedule := List (Nat × Offline)

/-- The schedule in which `count` calls succeed and the next one fails. -/
def Schedule.after (count : Nat) (error : Offline) : Schedule :=
  [(count, error)]

/-- How the next call fails, if it does, and the schedule after it. -/
def Schedule.next : Schedule → Option Offline × Schedule
  | [] => (none, [])
  | (0, error) :: rest => (some error, rest)
  | (count + 1, error) :: rest => (none, (count, error) :: rest)

/-- Schedules for the three kinds of calls. -/
structure Faults where
  reading : Schedule := []
  dispatching : Schedule := []
  listening : Schedule := []
deriving Repr, DecidableEq, Inhabited

/-- Someone who is told about changes.  Listeners of one name are told apart by their keys. -/
structure Listener where
  key : Nat
  name : String
deriving Repr, DecidableEq

/-- A call of a listener, and the deck it saw. -/
structure Notice where
  listener : Listener
  slides : Deck
deriving Repr, DecidableEq

/-- Why a dispatch failed. -/
inductive StoreError where
  | refused (error : ActionError)
  | offline (error : Offline)
deriving Repr, DecidableEq

/-- The wording of an error. -/
def StoreError.message : StoreError → String
  | refused error => error.message
  | offline error => error.reason

/-- The deck, its listeners, the failures to come and the calls of listeners made so far. -/
structure Store where
  slides : Deck
  listeners : List Listener := []
  nextKey : Nat := 0
  faults : Faults := {}
  notices : Array Notice := #[]
deriving Repr

namespace Store

/-- Adds a listener; the key tells it apart from others. -/
def subscribe (store : Store) (name : String) : Nat × Store :=
  (store.nextKey,
    { store with
      listeners := store.listeners ++ [⟨store.nextKey, name⟩]
      nextKey := store.nextKey + 1 })

/-- Removes the listener with a key, if it is still there. -/
def unsubscribe (store : Store) (key : Nat) : Store :=
  { store with listeners := store.listeners.filter fun listener => listener.key != key }

/-- The deck, as far as the store can be reached. -/
def read : Attempt Store Offline Deck where
  run store :=
    match store.faults.reading.next with
    | (failure, reading) =>
      let store := { store with faults := { store.faults with reading } }
      match failure with
      | some error => (.error error, store)
      | none => (.ok store.slides, store)

/-- Calls one listener. -/
def notify (listener : Listener) : Attempt Store Offline Unit where
  run store :=
    match store.faults.listening.next with
    | (failure, listening) =>
      let store :=
        { store with
          faults := { store.faults with listening }
          notices := store.notices.push ⟨listener, store.slides⟩ }
      match failure with
      | some error => (.error error, store)
      | none => (.ok (), store)

/-- Calls listeners one after the other, up to the first that fails. -/
def notifyAll : List Listener → Attempt Store Offline Unit
  | [] => pure ()
  | listener :: rest => do
    notify listener
    notifyAll rest

/-- Carries out an action and tells the listeners. -/
def dispatch (action : Action) : Attempt Store StoreError Unit where
  run store :=
    match store.faults.dispatching.next with
    | (failure, dispatching) =>
      let store := { store with faults := { store.faults with dispatching } }
      match failure with
      | some error => (.error (.offline error), store)
      | none =>
        match store.slides.apply action with
        | .error error => (.error (.refused error), store)
        | .ok slides =>
          match (notifyAll store.listeners).run { store with slides } with
          | (.ok (), store) => (.ok (), store)
          | (.error error, store) => (.error (.offline error), store)

end Store

end DeckScript
