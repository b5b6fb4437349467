import Mathlib.Logic.Basic

/-!
# Failures of a kind

Steps over `Except` may fail with many errors; some kinds of them matter more than others.

* `Fails P x`: `x` fails, with an error of the kind `P`.
* `fails_bind`: two steps fail when the first one does, or the second one after it.
* `not_fails_guard`: a check, and what comes after it when it passes.
* `not_fails_bind`, `not_fails_foldlM`: steps that never fail so, one after the other.
-/

namespace Failures

variable {ε σ α β : Type} {P : ε → Prop}

/-- It fails, with an error of the kind. -/
def Fails (P : ε → Prop) (x : Except ε α) : Prop := ∃ e, x = .error e ∧ P e

theorem fails_ok (a : α) : ¬ Fails P (.ok a : Except ε α) := by
  rintro ⟨e, h, -⟩
  cases h

theorem fails_error {e : ε} : Fails P (.error e : Except ε α) ↔ P e :=
  ⟨fun ⟨_, h, hp⟩ => Except.error.inj h ▸ hp, fun hp => ⟨e, rfl, hp⟩⟩

/-- An error that a step has not failed with is of another kind. -/
theorem not_fails_error {x : Except ε α} {e : ε} (hx : ¬ Fails P x) (h : x = .error e) :
    ¬ Fails P (.error e : Except ε β) := by
  rw [fails_error]
  exact fun hp => hx ⟨e, h, hp⟩

theorem fails_map {x : Except ε α} {f : α → β} : Fails P (x.map f) ↔ Fails P x := by
  cases x with
  | error e => exact fails_error.trans fails_error.symm
  | ok a => exact iff_of_false (fails_ok _) (fails_ok a)

theorem fails_bind {x : Except ε α} {f : α → Except ε β} :
    Fails P (x >>= f) ↔ Fails P x ∨ ∃ a, x = .ok a ∧ Fails P (f a) := by
  cases x with
  | error e =>
    refine fails_error.trans (fails_error.symm.trans (or_iff_left ?_).symm)
    rintro ⟨a, h, -⟩
    cases h
  | ok a =>
    refine Iff.trans ⟨fun h => ⟨a, rfl, h⟩, ?_⟩ (or_iff_right (fails_ok a)).symm
    rintro ⟨a', h, hf⟩
    obtain rfl := Except.ok.inj h
    exact hf

theorem fails_ok_bind {a : α} {f : α → Except ε β} : Fails P (.ok a >>= f) ↔ Fails P (f a) := Iff.rfl

theorem fails_error_bind {e : ε} {f : α → Except ε β} : Fails P (.error e >>= f) ↔ P e := fails_error

/-- The first step does not fail so. -/
theorem fails_bind_of_not {x : Except ε α} {f : α → Except ε β} (hx : ¬ Fails P x) :
    Fails P (x >>= f) ↔ ∃ a, x = .ok a ∧ Fails P (f a) := fails_bind.trans (or_iff_right hx)

theorem not_fails_bind {x : Except ε α} {f : α → Except ε β} (hx : ¬ Fails P x)
    (hf : ∀ a, x = .ok a → ¬ Fails P (f a)) : ¬ Fails P (x >>= f) := by
  rw [fails_bind_of_not hx]
  rintro ⟨a, ha, h⟩
  exact hf a ha h

/-- A check whose error is of another kind. -/
theorem not_fails_guard {c : Prop} [Decidable c] {e : ε} {x : Except ε α} (he : ¬ P e)
    (hx : ¬ c → ¬ Fails P x) : ¬ Fails P (if c then .error e else x) := by
  split
  · rw [fails_error]
    exact he
  · next hc => exact hx hc

/-- Nothing in a sequence fails so, when every step keeps what the next one needs. -/
theorem not_fails_foldlM {f : σ → α → Except ε σ} {I : σ → Prop} {as : List α}
    (hstep : ∀ a ∈ as, ∀ s, I s → ¬ Fails P (f s a) ∧ ∀ t, f s a = .ok t → I t) {s : σ} (hi : I s) :
    ¬ Fails P (as.foldlM f s) := by
  induction as generalizing s with
  | nil => exact fails_ok s
  | cons a as ih =>
    rw [List.foldlM_cons]
    obtain ⟨hhead, hkeeps⟩ := hstep a List.mem_cons_self s hi
    refine not_fails_bind hhead fun t ht => ?_
    exact ih (fun b hb => hstep b (List.mem_cons_of_mem a hb)) (hkeeps t ht)

end Failures
