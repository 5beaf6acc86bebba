/-!
# Attempts

A command works on a state and may fail half-way.  Nothing is rolled back: changes
made before the failure remain.  `Attempt σ ε α` is such a computation, with state
`σ`, reasons of failure `ε` and result `α`.
-/

namespace DeckScript

/-- A computation on a state that may fail; the state it leaves is there in both cases. -/
structure Attempt (σ ε α : Type) where
  run : σ → Except ε α × σ

namespace Attempt

variable {σ ε α β : Type}

instance : Monad (Attempt σ ε) where
  pure a := ⟨fun s => (.ok a, s)⟩
  bind attempt next := ⟨fun s =>
    match attempt.run s with
    | (.ok a, t) => (next a).run t
    | (.error e, t) => (.error e, t)⟩

/-- Fails without touching the state. -/
def fail (e : ε) : Attempt σ ε α :=
  ⟨fun s => (.error e, s)⟩

/-- The state. -/
def get : Attempt σ ε σ :=
  ⟨fun s => (.ok s, s)⟩

/-- Changes the state. -/
def modify (change : σ → σ) : Attempt σ ε Unit :=
  ⟨fun s => (.ok (), change s)⟩

/-- A result that is computed without the state, its failure renamed. -/
def ofExcept {δ : Type} (rename : δ → ε) (result : Except δ α) : Attempt σ ε α :=
  ⟨fun s =>
    match result with
    | .ok a => (.ok a, s)
    | .error e => (.error (rename e), s)⟩

/-- An attempt on a part of the state, its failure renamed. -/
def on {τ δ : Type} (part : σ → τ) (replace : τ → σ → σ) (rename : δ → ε)
    (attempt : Attempt τ δ α) : Attempt σ ε α :=
  ⟨fun s =>
    match attempt.run (part s) with
    | (.ok a, t) => (.ok a, replace t s)
    | (.error e, t) => (.error (rename e), replace t s)⟩

@[simp] theorem run_pure (a : α) (s : σ) : (pure a : Attempt σ ε α).run s = (.ok a, s) := rfl

@[simp] theorem run_fail (e : ε) (s : σ) : (fail e : Attempt σ ε α).run s = (.error e, s) := rfl

@[simp] theorem run_get (s : σ) : (get : Attempt σ ε σ).run s = (.ok s, s) := rfl

@[simp] theorem run_modify (change : σ → σ) (s : σ) :
    (modify change : Attempt σ ε Unit).run s = (.ok (), change s) := rfl

@[simp] theorem run_ofExcept_ok {δ : Type} (rename : δ → ε) (a : α) (s : σ) :
    (ofExcept rename (.ok a) : Attempt σ ε α).run s = (.ok a, s) := rfl

@[simp] theorem run_ofExcept_error {δ : Type} (rename : δ → ε) (e : δ) (s : σ) :
    (ofExcept rename (.error e) : Attempt σ ε α).run s = (.error (rename e), s) := rfl

theorem run_bind (attempt : Attempt σ ε α) (next : α → Attempt σ ε β) (s : σ) :
    (attempt >>= next).run s =
      match attempt.run s with
      | (.ok a, t) => (next a).run t
      | (.error e, t) => (.error e, t) := rfl

/-- Attempts are equal if they run alike from every state. -/
theorem ext {first second : Attempt σ ε α} (h : ∀ s, first.run s = second.run s) :
    first = second := by
  obtain ⟨run⟩ := first
  obtain ⟨run'⟩ := second
  exact congrArg Attempt.mk (funext h)

instance : LawfulMonad (Attempt σ ε) :=
  LawfulMonad.mk' _
    (fun attempt => ext fun s => by
      show (match attempt.run s with | (.ok a, t) => _ | (.error e, t) => _) = _
      rcases attempt.run s with ⟨_ | _, _⟩ <;> rfl)
    (fun _ _ => rfl)
    (fun attempt f g => ext fun s => by
      simp only [run_bind]
      rcases attempt.run s with ⟨_ | _, _⟩ <;> rfl)

end Attempt

end DeckScript
