import DeckScript.Proofs.Deck.Action
import DeckScript.Proofs.Deck.Store
import Mathlib.Data.List.Induction

/-!
# Listeners of a store

A store is used by three kinds of calls: listeners are added, removed again, and actions
are dispatched.  This file is about runs of such calls with listeners that do not fail.

* `Deck.Refuses` lists the actions that cannot be carried out, each with its reason.
* `Store.listening` reads off the calls alone who is listening after them: everyone who
  was added and not removed later on.
* `Store.dispatch_allOrNothing` says that a refused action leaves no trace, and that
  every other one is told to the listeners, to each once and in the order in which they
  were added.

A listener is known by its key, which counts the listeners added before it.  So two
listeners of the same name are still two.
-/

namespace DeckScript

/-! ## Actions that are refused -/

namespace Deck

/-- The action cannot be carried out on the deck. -/
inductive Refuses (deck : Deck) : Action → Prop
  | unrecognised (text : String) : Refuses deck (.unrecognised text)
  | fixedField {field : String} (id value : String) (htitle : field ≠ "title")
      (hcontent : field ≠ "content") : Refuses deck (.edit id field value)
  | editMissing {id : String} (field value : String) (hid : id ∉ deck.ids) :
      Refuses deck (.edit id field value)
  | activateMissing {id : String} (hid : id ∉ deck.ids) : Refuses deck (.activate id)
  | noActiveSlide (hactive : ∀ slide ∈ deck, slide.active = false) : Refuses deck .deleteActive

theorem hasId_eq_false {deck : Deck} {id : String} (hid : id ∉ deck.ids) :
    deck.hasId id = false :=
  Bool.eq_false_iff.2 fun h => hid (hasId_eq_true.1 h)

theorem activeIndex?_eq_none_iff {deck : Deck} :
    deck.activeIndex? = none ↔ ∀ slide ∈ deck, slide.active = false := by
  simp [activeIndex?]

/-- An action fails for one of the reasons listed, and for no other. -/
theorem exists_apply_eq_error_iff {deck : Deck} {action : Action} :
    (∃ error, deck.apply action = .error error) ↔ deck.Refuses action := by
  constructor
  · rintro ⟨error, herror⟩
    cases action with
    | add slide => simp [apply] at herror
    | replaceAll slides => simp [apply] at herror
    | unrecognised text => exact .unrecognised text
    | edit id field value =>
      by_cases hid : id ∈ deck.ids
      · have hhas := hasId_eq_true.2 hid
        refine .fixedField id value ?_ ?_
        · rintro rfl
          simp [apply, hhas] at herror
        · rintro rfl
          simp [apply, hhas] at herror
      · exact .editMissing field value hid
    | activate id =>
      refine .activateMissing fun hid => ?_
      rw [apply_activate hid] at herror
      cases herror
    | deleteActive =>
      refine .noActiveSlide (activeIndex?_eq_none_iff.1 ?_)
      cases hindex : deck.activeIndex? with
      | none => rfl
      | some index =>
        rw [apply_deleteActive hindex] at herror
        cases herror
  · intro hrefuses
    cases hrefuses with
    | unrecognised text => exact ⟨.unrecognised text, rfl⟩
    | @fixedField field id value htitle hcontent =>
      exact ⟨.fixedField field, by simp [apply, htitle, hcontent]⟩
    | @editMissing id field value hid =>
      simp only [apply, hasId_eq_false hid]
      split
      · exact ⟨.unknownSlide id, rfl⟩
      · split
        · exact ⟨.unknownSlide id, rfl⟩
        · exact ⟨.fixedField field, rfl⟩
    | @activateMissing id hid => exact ⟨.unknownSlide id, by simp [apply, hasId_eq_false hid]⟩
    | noActiveSlide hactive =>
      exact ⟨.noActiveSlide, by simp [apply, activeIndex?_eq_none_iff.2 hactive]⟩

end Deck

/-! ## Calls -/

/-- A call of the store.  A listener is removed by the key that was given out when it was added. -/
inductive StoreCall where
  | subscribe (name : String)
  | unsubscribe (key : Nat)
  | dispatch (action : Action)
deriving Repr, DecidableEq

namespace Store

/-- The store after a call. -/
def after (store : Store) : StoreCall → Store
  | .subscribe name => (store.subscribe name).2
  | .unsubscribe key => store.unsubscribe key
  | .dispatch action => ((dispatch action).run store).2

/-- A new store on a deck, after calls. -/
def ran (deck : Deck) (calls : List StoreCall) : Store :=
  calls.foldl after { slides := deck }

/-- The number of listeners that were added. -/
def subscriptions : List StoreCall → Nat
  | [] => 0
  | .subscribe _ :: rest => subscriptions rest + 1
  | .unsubscribe _ :: rest => subscriptions rest
  | .dispatch _ :: rest => subscriptions rest

/-- Those who were added and not removed later on, in order.  Keys are counted from `first` on. -/
def listening (first : Nat) : List StoreCall → List Listener
  | [] => []
  | .subscribe name :: rest =>
    if .unsubscribe first ∈ rest then listening (first + 1) rest
    else ⟨first, name⟩ :: listening (first + 1) rest
  | .unsubscribe _ :: rest => listening first rest
  | .dispatch _ :: rest => listening first rest

/-! ## Who is listening -/

theorem le_key_of_mem_listening {first : Nat} {calls : List StoreCall} {listener : Listener}
    (hmem : listener ∈ listening first calls) : first ≤ listener.key := by
  fun_induction listening first calls with
  | case1 => simp at hmem
  | case2 first name rest hremoved ih => exact Nat.le_of_succ_le (ih hmem)
  | case3 first name rest hremoved ih =>
    rcases List.mem_cons.1 hmem with rfl | hlater
    · exact Nat.le_refl first
    · exact Nat.le_of_succ_le (ih hlater)
  | case4 first key rest ih => exact ih hmem
  | case5 first action rest ih => exact ih hmem

/-- The listeners are listed in the order in which they were added, each of them once. -/
theorem listening_pairwise (first : Nat) (calls : List StoreCall) :
    (listening first calls).Pairwise fun one other => one.key < other.key := by
  fun_induction listening first calls with
  | case1 => exact .nil
  | case2 first name rest hremoved ih => exact ih
  | case3 first name rest hremoved ih =>
    exact .cons (fun _ hlater => le_key_of_mem_listening hlater) ih
  | case4 first key rest ih => exact ih
  | case5 first action rest ih => exact ih

theorem listening_concat_subscribe (first : Nat) (calls : List StoreCall) (name : String) :
    listening first (calls ++ [.subscribe name]) =
      listening first calls ++ [⟨first + subscriptions calls, name⟩] := by
  fun_induction listening first calls with
  | case1 first => simp [listening, subscriptions]
  | case2 first other rest hremoved ih =>
    simp [listening, subscriptions, hremoved, ih, Nat.add_assoc, Nat.add_comm 1]
  | case3 first other rest hremoved ih =>
    simp [listening, subscriptions, hremoved, ih, Nat.add_assoc, Nat.add_comm 1]
  | case4 first key rest ih => simpa [listening, subscriptions] using ih
  | case5 first action rest ih => simpa [listening, subscriptions] using ih

theorem listening_concat_unsubscribe (first : Nat) (calls : List StoreCall) (key : Nat) :
    listening first (calls ++ [.unsubscribe key]) =
      (listening first calls).filter fun listener => listener.key != key := by
  fun_induction listening first calls with
  | case1 first => rfl
  | case2 first name rest hremoved ih => simp [listening, hremoved, ih]
  | case3 first name rest hremoved ih =>
    by_cases hkey : first = key
    · subst hkey
      simp [listening, ih]
    · simp [listening, hremoved, hkey, ih]
  | case4 first other rest ih => simpa [listening] using ih
  | case5 first action rest ih => simpa [listening] using ih

theorem listening_concat_dispatch (first : Nat) (calls : List StoreCall) (action : Action) :
    listening first (calls ++ [.dispatch action]) = listening first calls := by
  fun_induction listening first calls with
  | case1 first => rfl
  | case2 first name rest hremoved ih => simp [listening, hremoved, ih]
  | case3 first name rest hremoved ih => simp [listening, hremoved, ih]
  | case4 first other rest ih => simpa [listening] using ih
  | case5 first other rest ih => simpa [listening] using ih

/-- Once removed, a listener does not come back. -/
theorem key_ne_of_removed {first key : Nat} {before after : List StoreCall} {listener : Listener}
    (hkey : key < first + subscriptions before) (hfirst : first ≤ key)
    (hmem : listener ∈ listening first (before ++ .unsubscribe key :: after)) :
    listener.key ≠ key := by
  induction before generalizing first with
  | nil => simp [subscriptions] at hkey; omega
  | cons call rest ih =>
    cases call with
    | subscribe name =>
      rw [subscriptions] at hkey
      rw [List.cons_append, listening] at hmem
      rcases Nat.lt_or_eq_of_le hfirst with hlt | rfl
      · split at hmem
        · exact ih (by omega) hlt hmem
        · rcases List.mem_cons.1 hmem with rfl | hlater
          · exact Nat.ne_of_lt hlt
          · exact ih (by omega) hlt hlater
      · rw [if_pos (by simp)] at hmem
        have hle := le_key_of_mem_listening hmem
        omega
    | unsubscribe other => exact ih hkey hfirst hmem
    | dispatch action => exact ih hkey hfirst hmem

theorem subscriptions_append (calls more : List StoreCall) :
    subscriptions (calls ++ more) = subscriptions calls + subscriptions more := by
  fun_induction subscriptions calls with
  | case1 => simp
  | case2 name rest ih => simp [subscriptions, ih, Nat.add_right_comm]
  | case3 key rest ih => simpa [subscriptions] using ih
  | case4 action rest ih => simpa [subscriptions] using ih

/-! ## Runs -/

/-- The store is what calls have made of a new one. -/
structure Tracks (store : Store) (calls : List StoreCall) : Prop where
  quiet : store.Quiet
  nextKey : store.nextKey = subscriptions calls
  listeners : store.listeners = listening 0 calls

namespace Tracks

variable {store : Store} {calls : List StoreCall}

/-- A dispatch keeps the listeners, whether it succeeds or not. -/
theorem dispatch (htracks : store.Tracks calls) (action : Action) :
    (store.after (.dispatch action)).Tracks (calls ++ [.dispatch action]) := by
  obtain ⟨hquiet, hkey, hlisteners⟩ := htracks
  have hsame : listening 0 (calls ++ [.dispatch action]) = listening 0 calls :=
    listening_concat_dispatch 0 calls action
  have hcount : subscriptions (calls ++ [.dispatch action]) = subscriptions calls := by
    simp [subscriptions_append, subscriptions]
  have hafter : store.after (.dispatch action) = store ∨ ∃ slides, store.after (.dispatch action) =
      { store with slides, notices := store.noticesAfter slides } := by
    rw [after, hquiet.run_dispatch]
    cases store.slides.apply action with
    | error error => exact .inl rfl
    | ok slides => exact .inr ⟨slides, rfl⟩
  rcases hafter with hafter | ⟨slides, hafter⟩ <;> rw [hafter]
  · exact ⟨hquiet, hkey.trans hcount.symm, hlisteners.trans hsame.symm⟩
  · exact ⟨hquiet, hkey.trans hcount.symm, hlisteners.trans hsame.symm⟩

theorem after (htracks : store.Tracks calls) (call : StoreCall) :
    (store.after call).Tracks (calls ++ [call]) := by
  cases call with
  | subscribe name =>
    obtain ⟨hquiet, hkey, hlisteners⟩ := htracks
    refine ⟨hquiet, ?_, ?_⟩
    · simp [Store.after, Store.subscribe, subscriptions_append, subscriptions, hkey]
    · rw [listening_concat_subscribe, Nat.zero_add, ← hkey, ← hlisteners]
      rfl
  | unsubscribe key =>
    obtain ⟨hquiet, hkey, hlisteners⟩ := htracks
    refine ⟨hquiet, ?_, ?_⟩
    · simp [Store.after, Store.unsubscribe, subscriptions_append, subscriptions, hkey]
    · rw [listening_concat_unsubscribe, ← hlisteners]
      rfl
  | dispatch action => exact htracks.dispatch action

theorem ran (deck : Deck) (calls : List StoreCall) : (Store.ran deck calls).Tracks calls := by
  induction calls using List.reverseRecOn with
  | nil => exact ⟨rfl, rfl, rfl⟩
  | append_singleton calls call ih =>
    rw [Store.ran, List.foldl_concat]
    exact ih.after call

/-- Removing a listener a second time does nothing. -/
theorem unsubscribe_again {before after : List StoreCall} {key : Nat}
    (htracks : store.Tracks (before ++ .unsubscribe key :: after))
    (hkey : key < subscriptions before) : store.unsubscribe key = store := by
  have hlisteners : (store.listeners.filter fun listener => listener.key != key) =
      store.listeners := by
    rw [List.filter_eq_self, htracks.listeners]
    intro listener hmem
    rw [bne_iff_ne]
    exact key_ne_of_removed (by omega) (Nat.zero_le key) hmem
  rw [unsubscribe, hlisteners]

end Tracks

theorem noticesAfter_eq (store : Store) (slides : Deck) :
    store.noticesAfter slides =
      store.notices ++ (store.listeners.map fun listener => ⟨listener, slides⟩).toArray :=
  List.foldl_push_eq_append

/-- **An action is carried out and told to everyone, or nothing happens.**  In a store after any
calls, a dispatch fails exactly if the deck refuses the action, and then nothing at all has changed.
Otherwise the deck is the one after the action, and each listener added and not yet removed has
been called once, in the order of their subscriptions, and has seen that deck.  To remove a
listener again has no effect. -/
theorem dispatch_allOrNothing (deck : Deck) (calls : List StoreCall) (action : Action) :
    let store := ran deck calls
    ((∃ error, ((dispatch action).run store).1 = .error error) ↔ store.slides.Refuses action) ∧
    (store.slides.Refuses action → ((dispatch action).run store).2 = store) ∧
    (¬store.slides.Refuses action → ∃ slides, store.slides.apply action = .ok slides ∧
      (dispatch action).run store =
        (.ok (), { store with
          slides
          notices := store.notices ++
            ((listening 0 calls).map fun listener => ⟨listener, slides⟩).toArray })) ∧
    ((listening 0 calls).Pairwise fun one other => one.key < other.key) ∧
    (∀ name, (store.subscribe name).1 = subscriptions calls) ∧
    ∀ before after key, calls = before ++ .unsubscribe key :: after → key < subscriptions before →
      store.unsubscribe key = store := by
  intro store
  have htracks : store.Tracks calls := .ran deck calls
  have hnotices (slides : Deck) : store.noticesAfter slides =
      store.notices ++ ((listening 0 calls).map fun listener => ⟨listener, slides⟩).toArray := by
    rw [noticesAfter_eq, htracks.listeners]
  have hrun := htracks.quiet.run_dispatch action
  simp only [hnotices] at hrun
  refine ⟨?_, ?_, ?_, listening_pairwise 0 calls, fun _ => htracks.nextKey, ?_⟩
  · rw [← Deck.exists_apply_eq_error_iff, hrun]
    cases store.slides.apply action with
    | error error => simp
    | ok slides => simp
  · intro hrefuses
    obtain ⟨error, herror⟩ := Deck.exists_apply_eq_error_iff.2 hrefuses
    rw [hrun, herror]
  · intro haccepts
    rw [hrun]
    cases happly : store.slides.apply action with
    | error error => exact absurd (Deck.exists_apply_eq_error_iff.1 ⟨error, happly⟩) haccepts
    | ok slides => exact ⟨slides, rfl, rfl⟩
  · rintro before after key rfl hkey
    exact htracks.unsubscribe_again hkey

/-- Three listeners are added, two of them of one name, and the first is removed twice. -/
def removedTwice : List StoreCall :=
  [.subscribe "x", .subscribe "y", .unsubscribe 0, .subscribe "x", .unsubscribe 0]

/-- The two that are left see the new deck. -/
theorem dispatch_allOrNothing_removedTwice :
    ((dispatch (.activate "b")).run
      (ran [{ id := "a", active := true }, { id := "b" }] removedTwice)).2.notices =
      #[⟨⟨1, "y"⟩, [{ id := "a" }, { id := "b", active := true }]⟩,
        ⟨⟨2, "x"⟩, [{ id := "a" }, { id := "b", active := true }]⟩] := by
  obtain ⟨-, -, haccepts, -⟩ :=
    dispatch_allOrNothing [{ id := "a", active := true }, { id := "b" }] removedTwice
      (.activate "b")
  have haccepted : ¬Deck.Refuses
      (ran [{ id := "a", active := true }, { id := "b" }] removedTwice).slides (.activate "b") := by
    intro hrefuses
    cases hrefuses with
    | activateMissing hid => exact hid (by decide)
  obtain ⟨slides, happly, hrun⟩ := haccepts haccepted
  obtain rfl := Except.ok.inj happly
  rw [hrun]
  decide

end Store

end DeckScript
