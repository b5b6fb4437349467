import Mathlib.Logic.Basic

/-!
# Methods that stop at a rejected call

A method awaits calls one after the other (`EStateM`): a call that rejects ends it, and what
the calls before it did to the stores stays.

* `await fault name`: a call with a name.  It rejects by itself, or because `fault` is its
  name, and then has no effect.
* `transaction rollback m`: what `m` did is rolled back when it rejects.
* `run m s`: the state a method ends in, with its result.
* `OnReject P m s`: wherever `m` rejects when it is started in `s`, the stores satisfy `P`.
  Each construct has its rule, so the exact condition is read off a method call by call.
-/

namespace Steps

variable {ε σ α β κ : Type}

/-- The state `m` ends in, and what it returns or rejects with. -/
def run (m : EStateM ε σ α) (s : σ) : σ × Except ε α :=
  match m s with
  | .ok a t => (t, .ok a)
  | .error e t => (t, .error e)

/-- Started in `s`, `m` rejects only in states with `P`. -/
def OnReject (P : σ → Prop) (m : EStateM ε σ α) (s : σ) : Prop := ∀ e t, m s = .error e t → P t

/-- A check of the method itself. -/
def check (x : Except ε α) : EStateM ε σ α := fun s =>
  match x with
  | .error e => .error e s
  | .ok a => .ok a s

section

variable [DecidableEq κ]

/-- The call `name`, which fails with `unavailable` when `fault` says so. -/
def await (fault : Option κ) (name : κ) (unavailable : ε) (f : σ → Except ε (α × σ)) :
    EStateM ε σ α := fun s =>
  if fault = some name then .error unavailable s
  else
    match f s with
    | .error e => .error e s
    | .ok (a, t) => .ok a t

end

/-- The writes that `rollback` undoes are undone when the method rejects. -/
def transaction (rollback : σ → σ → σ) (m : EStateM ε σ α) : EStateM ε σ α := fun s =>
  match m s with
  | .error e t => .error e (rollback s t)
  | .ok a t => .ok a t

theorem bind_apply (m : EStateM ε σ α) (f : α → EStateM ε σ β) (s : σ) :
    (m >>= f) s = match m s with
      | .ok a t => f a t
      | .error e t => .error e t := rfl

/-! ## Runs without a fault -/

section

variable {s : σ}

theorem run_bind (m : EStateM ε σ α) (f : α → EStateM ε σ β) :
    run (m >>= f) s = match run m s with
      | (t, .ok a) => run (f a) t
      | (t, .error e) => (t, .error e) := by
  unfold run
  rw [bind_apply]
  cases m s <;> rfl

theorem run_check_bind (x : Except ε α) (f : α → EStateM ε σ β) :
    run (check x >>= f) s = match x with
      | .error e => (s, .error e)
      | .ok a => run (f a) s := by
  rw [run_bind]
  cases x <;> rfl

variable [DecidableEq κ] {name : κ} {unavailable : ε}

theorem run_await (f : σ → Except ε (α × σ)) :
    run (await none name unavailable f) s = match f s with
      | .error e => (s, .error e)
      | .ok (a, t) => (t, .ok a) := by
  unfold run await
  rw [if_neg nofun]
  cases f s <;> rfl

theorem run_await_bind (f : σ → Except ε (α × σ)) (k : α → EStateM ε σ β) :
    run (await none name unavailable f >>= k) s = match f s with
      | .error e => (s, .error e)
      | .ok (a, t) => run (k a) t := by
  rw [run_bind, run_await]
  cases f s <;> rfl

end

theorem run_transaction (rollback : σ → σ → σ) (m : EStateM ε σ α) (s : σ) :
    run (transaction rollback m) s = match run m s with
      | (t, .ok a) => (t, .ok a)
      | (t, .error e) => (rollback s t, .error e) := by
  unfold run transaction
  cases m s <;> rfl

/-! ## Rules for rejections -/

section

variable {P : σ → Prop} {s : σ}

@[simp] theorem onReject_pure (a : α) : OnReject P (pure a : EStateM ε σ α) s ↔ True :=
  ⟨fun _ => trivial, fun _ => nofun⟩

theorem onReject_bind {m : EStateM ε σ α} {f : α → EStateM ε σ β} :
    OnReject P (m >>= f) s ↔
      OnReject P m s ∧ ∀ a t, m s = .ok a t → OnReject P (f a) t := by
  unfold OnReject
  rw [bind_apply]
  cases m s with
  | ok a t =>
    constructor
    · intro h
      refine ⟨nofun, fun a' t' ht => ?_⟩
      cases ht
      exact h
    · rintro ⟨-, h⟩
      exact h a t rfl
  | error e t =>
    constructor
    · intro h
      refine ⟨fun e' t' ht => ?_, nofun⟩
      cases ht
      exact h e t rfl
    · rintro ⟨h, -⟩ e' t' ht
      cases ht
      exact h e t rfl

theorem onReject_transaction {rollback : σ → σ → σ} {m : EStateM ε σ α} :
    OnReject P (transaction rollback m) s ↔ OnReject (fun t => P (rollback s t)) m s := by
  unfold OnReject transaction
  cases m s with
  | ok a t => exact ⟨fun _ => nofun, fun _ => nofun⟩
  | error e t =>
    constructor
    · intro h e' t' ht
      cases ht
      exact h e _ rfl
    · intro h e' t' ht
      cases ht
      exact h e t rfl

/-- A check that fails leaves the state. -/
theorem onReject_check_bind {x : Except ε α} {f : α → EStateM ε σ β} :
    OnReject P (check x >>= f) s ↔
      ((∃ e, x = .error e) → P s) ∧ ∀ a, x = .ok a → OnReject P (f a) s := by
  rw [onReject_bind]
  unfold OnReject check
  cases x <;> simp

@[simp] theorem check_ok_bind (a : α) (f : α → EStateM ε σ β) : (check (.ok a) >>= f) = f a := rfl

@[simp] theorem onReject_check_error_bind {e : ε} {f : α → EStateM ε σ β} :
    OnReject P (check (.error e) >>= f) s ↔ P s := by
  rw [onReject_check_bind]
  exact ⟨fun h => h.1 ⟨e, rfl⟩, fun h => ⟨fun _ => h, nofun⟩⟩

variable [DecidableEq κ] {fault : Option κ} {name : κ} {unavailable : ε}

/-- A call that fails leaves the state. -/
theorem onReject_await {f : σ → Except ε (α × σ)} :
    OnReject P (await fault name unavailable f) s ↔
      (fault = some name ∨ ∃ e, f s = .error e) → P s := by
  unfold OnReject await
  by_cases hf : fault = some name
  · simp [hf]
  · cases f s <;> simp [hf]

theorem await_eq_ok {f : σ → Except ε (α × σ)} {a : α} {t : σ} :
    await fault name unavailable f s = .ok a t ↔ fault ≠ some name ∧ f s = .ok (a, t) := by
  unfold await
  by_cases hf : fault = some name
  · simp [hf]
  · cases f s <;> simp [hf, Prod.ext_iff]

theorem onReject_await_bind {f : σ → Except ε (α × σ)} {k : α → EStateM ε σ β} :
    OnReject P (await fault name unavailable f >>= k) s ↔
      ((fault = some name ∨ ∃ e, f s = .error e) → P s) ∧
        (fault ≠ some name → ∀ a t, f s = .ok (a, t) → OnReject P (k a) t) := by
  rw [onReject_bind, onReject_await]
  simp only [await_eq_ok]
  exact and_congr_right fun _ => ⟨fun h hf a t ht => h a t ⟨hf, ht⟩, fun h a t ht => h ht.1 a t ht.2⟩

/-- A call that does not reject by itself. -/
theorem onReject_await_ok {f : σ → α × σ} :
    OnReject P (await fault name unavailable fun s => .ok (f s)) s ↔ (fault = some name → P s) := by
  rw [onReject_await]
  simp

theorem onReject_await_ok_bind {f : σ → α × σ} {k : α → EStateM ε σ β} :
    OnReject P (await fault name unavailable (fun s => .ok (f s)) >>= k) s ↔
      (fault = some name → P s) ∧ (fault ≠ some name → OnReject P (k (f s).1) (f s).2) := by
  rw [onReject_bind, onReject_await_ok]
  simp only [await_eq_ok, Except.ok.injEq]
  refine and_congr_right fun _ => ⟨fun h hf => h _ _ ⟨hf, rfl⟩, fun h a t ht => ?_⟩
  obtain ⟨hf, heq⟩ := ht
  rw [heq] at h
  exact h hf

end

end Steps
