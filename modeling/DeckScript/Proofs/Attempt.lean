import DeckScript.Attempt

/-!
# What an attempt ensures

A command is a chain of small steps, each of which may break it off.  What is to be
shown of all its ways to end is pushed backwards through the chain, one step at a
time: `Ensures` holds of the whole if it holds of the first step with the rest as
its goal.
-/

namespace DeckScript.Attempt

variable {σ τ ε δ α β : Type}

/-- Run from `s`, the attempt succeeds in a state with `done` or breaks off in one with
`broken`. -/
def Ensures (attempt : Attempt σ ε α) (s : σ) (broken : ε → σ → Prop) (done : α → σ → Prop) :
    Prop :=
  match attempt.run s with
  | (.ok a, t) => done a t
  | (.error e, t) => broken e t

section

variable {s : σ} {broken : ε → σ → Prop} {done : α → σ → Prop}

@[simp] theorem ensures_pure (a : α) :
    (pure a : Attempt σ ε α).Ensures s broken done ↔ done a s := Iff.rfl

@[simp] theorem ensures_fail (e : ε) :
    (fail e : Attempt σ ε α).Ensures s broken done ↔ broken e s := Iff.rfl

@[simp] theorem ensures_get {done : σ → σ → Prop} :
    (get : Attempt σ ε σ).Ensures s broken done ↔ done s s := Iff.rfl

@[simp] theorem ensures_modify (change : σ → σ) {done : Unit → σ → Prop} :
    (modify change : Attempt σ ε Unit).Ensures s broken done ↔ done () (change s) := Iff.rfl

@[simp] theorem ensures_ofExcept_ok (rename : δ → ε) (a : α) :
    (ofExcept rename (.ok a) : Attempt σ ε α).Ensures s broken done ↔ done a s := Iff.rfl

/-- The rest of a chain is the goal of its first step. -/
@[simp] theorem ensures_bind (attempt : Attempt σ ε α) (next : α → Attempt σ ε β)
    {done : β → σ → Prop} :
    (attempt >>= next).Ensures s broken done ↔
      attempt.Ensures s broken fun a t => (next a).Ensures t broken done := by
  simp only [Ensures, run_bind]
  rcases attempt.run s with ⟨_ | _, t⟩ <;> rfl

theorem ensures_on (part : σ → τ) (replace : τ → σ → σ) (rename : δ → ε)
    (attempt : Attempt τ δ α) :
    (on part replace rename attempt).Ensures s broken done ↔
      attempt.Ensures (part s) (fun e t => broken (rename e) (replace t s))
        fun a t => done a (replace t s) := by
  simp only [Ensures, on]
  rcases attempt.run (part s) with ⟨_ | _, t⟩ <;> rfl

theorem Ensures.mono {attempt : Attempt σ ε α} {broken' : ε → σ → Prop} {done' : α → σ → Prop}
    (h : attempt.Ensures s broken done) (hbroken : ∀ e t, broken e t → broken' e t)
    (hdone : ∀ a t, done a t → done' a t) : attempt.Ensures s broken' done' := by
  unfold Ensures at h ⊢
  rcases hrun : attempt.run s with ⟨_ | _, t⟩ <;> rw [hrun] at h
  · exact hbroken _ _ h
  · exact hdone _ _ h

end

/-- A chain that succeeds consists of steps that succeed. -/
theorem run_bind_eq_ok {attempt : Attempt σ ε α} {next : α → Attempt σ ε β} {s u : σ} {b : β} :
    (attempt >>= next).run s = (.ok b, u) ↔
      ∃ a t, attempt.run s = (.ok a, t) ∧ (next a).run t = (.ok b, u) := by
  rw [run_bind]
  rcases attempt.run s with ⟨e | a, t⟩
  · simp
  · constructor
    · intro hnext
      exact ⟨a, t, rfl, hnext⟩
    · rintro ⟨_, _, hrun, hnext⟩
      cases hrun
      exact hnext

/-! ## Attempts that leave the state alone -/

/-- The attempt may fail, but it never changes the state. -/
def Inert (attempt : Attempt σ ε α) : Prop :=
  ∀ s, (attempt.run s).2 = s

namespace Inert

theorem pure (a : α) : (Pure.pure a : Attempt σ ε α).Inert := fun _ => rfl

theorem get : (Attempt.get : Attempt σ ε σ).Inert := fun _ => rfl

theorem ofExcept (rename : δ → ε) (result : Except δ α) :
    (Attempt.ofExcept rename result : Attempt σ ε α).Inert := by
  intro s
  cases result <;> rfl

theorem bind {attempt : Attempt σ ε α} {next : α → Attempt σ ε β} (h : attempt.Inert)
    (hnext : ∀ a, (next a).Inert) : (attempt >>= next).Inert := by
  intro s
  have hs := h s
  rw [run_bind]
  rcases hrun : attempt.run s with ⟨_ | a, t⟩ <;> rw [hrun] at hs <;> cases hs
  · rfl
  · exact hnext a _

theorem ensures {attempt : Attempt σ ε α} {s : σ} {broken : ε → σ → Prop} {done : α → σ → Prop}
    (h : attempt.Inert) (hbroken : ∀ e, broken e s)
    (hdone : ∀ a, (attempt.run s).1 = .ok a → done a s) : attempt.Ensures s broken done := by
  have hs := h s
  unfold Ensures
  rcases hrun : attempt.run s with ⟨e | a, t⟩ <;> rw [hrun] at hs hdone <;> cases hs
  · exact hbroken e
  · exact hdone a rfl

end Inert

end DeckScript.Attempt
