import Mathlib.Data.List.Basic

/-!
# Runs of a step function

A run from `s` executes a list of events with `step : σ → α → σ`.

* `Always step P s as`: `P` holds in `s` and after every event of `as`.
* `Guarded step C s as`: every event finds a state in which `C` allows it.
* `always_of_step`: what one step keeps, every state of a run has.
* `always_iff_guarded`: when, from a good state, one step leads to a good state
  exactly under `C`, the runs that stay good are exactly the guarded ones.
* `always_iff_guarded_of_breaks`: the same when a good state is all that an invariant says.
* `run_iff_guarded`: the same from the last state, when what is lost stays lost.
* `guarded_congr`: two guards that agree where an invariant holds allow the same runs.
* `run_map`, `always_map`, `guarded_map`: a machine whose steps are those of another one.
* `bind_eq_ok`, `exists_bind_eq_ok`, `foldlM_of_step`, `mapM_ok`, `mapM_error`: steps that may
  fail.
-/

namespace Runs

variable {σ α : Type} (step : σ → α → σ)

/-- The state after the events. -/
def run (s : σ) (as : List α) : σ := as.foldl step s

/-- `P` in the first state and after every event. -/
def Always (P : σ → Prop) : σ → List α → Prop
  | s, [] => P s
  | s, a :: as => P s ∧ Always P (step s a) as

/-- Every event meets `C` in the state it finds. -/
def Guarded (C : σ → α → Prop) : σ → List α → Prop
  | _, [] => True
  | s, a :: as => C s a ∧ Guarded C (step s a) as

variable {step}

instance decidableGuarded {C : σ → α → Prop} [∀ s a, Decidable (C s a)] :
    ∀ s as, Decidable (Guarded step C s as)
  | _, [] => isTrue trivial
  | s, a :: as => @instDecidableAnd _ _ _ (decidableGuarded (step s a) as)

@[simp] theorem run_nil (s : σ) : run step s [] = s := rfl

@[simp] theorem run_cons (s : σ) (a : α) (as : List α) :
    run step s (a :: as) = run step (step s a) as := rfl

theorem run_append (s : σ) (as bs : List α) : run step s (as ++ bs) = run step (run step s as) bs :=
  List.foldl_append

theorem Always.head {P : σ → Prop} {s : σ} {as : List α} (h : Always step P s as) : P s := by
  cases as with
  | nil => exact h
  | cons a as => exact h.1

theorem Always.last {P : σ → Prop} {s : σ} {as : List α} (h : Always step P s as) :
    P (run step s as) := by
  induction as generalizing s with
  | nil => exact h
  | cons a as ih => exact ih h.2

theorem Always.imp {P Q : σ → Prop} (hPQ : ∀ s, P s → Q s) {s : σ} {as : List α}
    (h : Always step P s as) : Always step Q s as := by
  induction as generalizing s with
  | nil => exact hPQ s h
  | cons a as ih => exact ⟨hPQ s h.1, ih h.2⟩

theorem Always.before {P : σ → Prop} {s : σ} {as bs : List α} (h : Always step P s (as ++ bs)) :
    Always step P s as := by
  induction as generalizing s with
  | nil => exact h.head
  | cons a as ih => exact ⟨h.1, ih h.2⟩

/-- An invariant of the step holds in every state of a run. -/
theorem always_of_step {I : σ → Prop} (hstep : ∀ s a, I s → I (step s a)) {s : σ} (h : I s)
    (as : List α) : Always step I s as := by
  induction as generalizing s with
  | nil => exact h
  | cons a as ih => exact ⟨h, ih (hstep s a h)⟩

/-- An invariant that only the allowed steps keep holds throughout a guarded run. -/
theorem always_of_guarded {I : σ → Prop} {C : σ → α → Prop}
    (hstep : ∀ s a, I s → C s a → I (step s a)) {s : σ} (h : I s) {as : List α}
    (hg : Guarded step C s as) : Always step I s as := by
  induction as generalizing s with
  | nil => exact h
  | cons a as ih => exact ⟨h, ih (hstep s a h hg.1) hg.2⟩

theorem guarded_append {C : σ → α → Prop} (s : σ) (as bs : List α) :
    Guarded step C s (as ++ bs) ↔ Guarded step C s as ∧ Guarded step C (run step s as) bs := by
  induction as generalizing s with
  | nil => exact ⟨fun h => ⟨trivial, h⟩, And.right⟩
  | cons a as ih =>
    simp only [List.cons_append, Guarded, run_cons, ih, and_assoc]

theorem guarded_of_forall {C : α → Prop} {as : List α} (h : ∀ a ∈ as, C a) {s : σ} :
    Guarded step (fun _ a => C a) s as := by
  induction as generalizing s with
  | nil => trivial
  | cons a as ih => exact ⟨h a List.mem_cons_self, ih fun b hb => h b (List.mem_cons_of_mem a hb)⟩

/-- **Exact guard.**  `I` is kept by every step; from a state with `I` and `P`
a step leads to `P` exactly when `C` allows it.  Then a run has `P` throughout
exactly when all its steps are allowed. -/
theorem always_iff_guarded {I P : σ → Prop} {C : σ → α → Prop}
    (hI : ∀ s a, I s → I (step s a)) (hstep : ∀ s a, I s → P s → (P (step s a) ↔ C s a))
    {s : σ} (hi : I s) (hp : P s) (as : List α) :
    Always step P s as ↔ Guarded step C s as := by
  induction as generalizing s with
  | nil => exact ⟨fun _ => trivial, fun _ => hp⟩
  | cons a as ih =>
    simp only [Always, Guarded]
    constructor
    · rintro ⟨-, h⟩
      have hp' := h.head
      exact ⟨(hstep s a hi hp).1 hp', (ih (hI s a hi) hp').1 h⟩
    · rintro ⟨hc, h⟩
      have hp' := (hstep s a hi hp).2 hc
      exact ⟨hp, (ih (hI s a hi) hp').2 h⟩

/-- Where `I` holds so does `P`, an allowed step keeps `I`, and any other one loses `P`. -/
theorem always_iff_guarded_of_breaks {I P : σ → Prop} {C : σ → α → Prop} (hP : ∀ s, I s → P s)
    (hkeep : ∀ s a, I s → C s a → I (step s a)) (hbreak : ∀ s a, I s → ¬ C s a → ¬ P (step s a))
    {s : σ} (hi : I s) (as : List α) : Always step P s as ↔ Guarded step C s as := by
  constructor
  · intro h
    induction as generalizing s with
    | nil => trivial
    | cons a as ih =>
      have hc : C s a := by
        by_contra hc
        exact hbreak s a hi hc h.2.head
      exact ⟨hc, ih (hkeep s a hi hc) h.2⟩
  · exact fun h => (always_of_guarded hkeep hi h).imp hP

/-- Guards that agree where `I` holds, which the allowed steps keep, allow the same runs. -/
theorem guarded_congr {I : σ → Prop} {C D : σ → α → Prop} (hCD : ∀ s a, I s → (C s a ↔ D s a))
    (hI : ∀ s a, I s → D s a → I (step s a)) {s : σ} (hi : I s) (as : List α) :
    Guarded step C s as ↔ Guarded step D s as := by
  induction as generalizing s with
  | nil => exact Iff.rfl
  | cons a as ih =>
    unfold Guarded
    rw [hCD s a hi]
    exact and_congr_right fun hd => ih (hI s a hi hd)

/-- When what is lost is never regained, and a step keeps `P` exactly when `C` allows it, the
last state tells whether the whole run was allowed. -/
theorem run_iff_guarded {I P : σ → Prop} {C : σ → α → Prop}
    (hstep : ∀ s a, I s → I (step s a) ∧ (P (step s a) ↔ P s ∧ C s a)) {s : σ} (hi : I s)
    (as : List α) : P (run step s as) ↔ P s ∧ Guarded step C s as := by
  induction as generalizing s with
  | nil => exact ⟨fun h => ⟨h, trivial⟩, And.left⟩
  | cons a as ih =>
    obtain ⟨hi', hp⟩ := hstep s a hi
    rw [run_cons, ih hi', hp, and_assoc]
    exact Iff.rfl

/-! ## Simulation -/

section

variable {τ β : Type} {step' : τ → β → τ} {f : σ → τ} {g : α → β}

/-- A run is taken to the run of the other machine when each step is. -/
theorem run_map (h : ∀ s a, f (step s a) = step' (f s) (g a)) (s : σ) (as : List α) :
    f (run step s as) = run step' (f s) (as.map g) := by
  induction as generalizing s with
  | nil => rfl
  | cons a as ih => rw [run_cons, ih, h, List.map_cons, run_cons]

theorem always_map (h : ∀ s a, f (step s a) = step' (f s) (g a)) {P : σ → Prop} {Q : τ → Prop}
    (hPQ : ∀ s, P s ↔ Q (f s)) (s : σ) (as : List α) :
    Always step P s as ↔ Always step' Q (f s) (as.map g) := by
  induction as generalizing s with
  | nil => exact hPQ s
  | cons a as ih =>
    unfold Always
    rw [hPQ, ih, h]
    rfl

theorem guarded_map (h : ∀ s a, f (step s a) = step' (f s) (g a)) {C : σ → α → Prop}
    {D : τ → β → Prop} (hCD : ∀ s a, C s a ↔ D (f s) (g a)) (s : σ) (as : List α) :
    Guarded step C s as ↔ Guarded step' D (f s) (as.map g) := by
  induction as generalizing s with
  | nil => exact Iff.rfl
  | cons a as ih =>
    unfold Guarded
    rw [hCD, ih, h]
    rfl

end

/-! ## Lists of processes -/

/-- After one process was replaced, a process is the new one or was there before. -/
theorem getElem?_set_cases {l : List α} {i j : Nat} {a b : α} (h : (l.set i a)[j]? = some b) :
    (j = i ∧ b = a) ∨ (j ≠ i ∧ l[j]? = some b) := by
  by_cases he : j = i
  · subst he
    have hlt : j < (l.set j a).length := (List.getElem?_eq_some_iff.1 h).1
    rw [List.length_set] at hlt
    rw [List.getElem?_set_self hlt] at h
    exact Or.inl ⟨rfl, (Option.some.inj h).symm⟩
  · rw [List.getElem?_set_ne (Ne.symm he)] at h
    exact Or.inr ⟨he, h⟩

/-- A process that was added is the last one. -/
theorem getElem?_concat_cases {l : List α} {i : Nat} {a b : α} (h : (l ++ [a])[i]? = some b) :
    l[i]? = some b ∨ b = a := by
  by_cases hlt : i < l.length
  · rw [List.getElem?_append_left hlt] at h
    exact Or.inl h
  · rw [List.getElem?_append_right (Nat.le_of_not_lt hlt)] at h
    exact Or.inr (List.mem_singleton.1 (List.mem_of_getElem? h))

theorem modify_concat (l : List α) (a : α) (f : α → α) :
    (l ++ [a]).modify l.length f = l ++ [f a] := by
  induction l with
  | nil => rfl
  | cons b l ih => simp [ih]

/-- After one process was rewritten, a process is a rewritten one or was there before. -/
theorem mem_modify_cases {l : List α} {i : Nat} {f : α → α} {b : α} (h : b ∈ l.modify i f) :
    b ∈ l ∨ ∃ a ∈ l, b = f a := by
  obtain ⟨j, hj, rfl⟩ := List.mem_iff_getElem.1 h
  rw [List.getElem_modify]
  rw [List.length_modify] at hj
  split
  · exact Or.inr ⟨l[j], List.getElem_mem hj, rfl⟩
  · exact Or.inl (List.getElem_mem hj)

/-! ## Steps that may fail -/

theorem bind_eq_ok {ε β γ : Type} {x : Except ε β} {f : β → Except ε γ} {c : γ} :
    (x >>= f) = .ok c ↔ ∃ b, x = .ok b ∧ f b = .ok c := by
  cases x with
  | error e => simp [bind, Except.bind]
  | ok b => simp [bind, Except.bind]

theorem exists_bind_eq_ok {ε β γ : Type} {x : Except ε β} {f : β → Except ε γ} :
    (∃ c, (x >>= f) = .ok c) ↔ ∃ b, x = .ok b ∧ ∃ c, f b = .ok c := by
  constructor
  · rintro ⟨c, h⟩
    obtain ⟨b, hb, hc⟩ := bind_eq_ok.1 h
    exact ⟨b, hb, c, hc⟩
  · rintro ⟨b, hb, c, hc⟩
    exact ⟨c, bind_eq_ok.2 ⟨b, hb, hc⟩⟩

/-- What every successful step keeps, a successful sequence of steps keeps. -/
theorem foldlM_of_step {ε : Type} {f : σ → α → Except ε σ} {I : σ → Prop}
    (hstep : ∀ s a s', f s a = .ok s' → I s → I s') {as : List α} {s s' : σ}
    (h : as.foldlM f s = .ok s') (hi : I s) : I s' := by
  induction as generalizing s with
  | nil => cases h; exact hi
  | cons a as ih =>
    rw [List.foldlM_cons] at h
    obtain ⟨t, ha, ht⟩ := bind_eq_ok.1 h
    exact ih ht (hstep s a t ha hi)

/-- Steps that all succeed are a plain fold. -/
theorem foldlM_ok {ε : Type} {f : σ → α → Except ε σ} {g : σ → α → σ} {as : List α}
    (h : ∀ a ∈ as, ∀ s, f s a = .ok (g s a)) (s : σ) : as.foldlM f s = .ok (as.foldl g s) := by
  induction as generalizing s with
  | nil => rfl
  | cons a as ih =>
    rw [List.foldlM_cons, h a List.mem_cons_self]
    exact ih (fun c hc => h c (List.mem_cons_of_mem a hc)) (g s a)

/-- In a successful sequence every step has succeeded somewhere. -/
theorem ok_of_foldlM {ε : Type} {f : σ → α → Except ε σ} {as : List α} {s s' : σ}
    (h : as.foldlM f s = .ok s') {a : α} (ha : a ∈ as) : ∃ t t', f t a = .ok t' := by
  induction as generalizing s with
  | nil => cases ha
  | cons c as ih =>
    rw [List.foldlM_cons] at h
    obtain ⟨t, hc, ht⟩ := bind_eq_ok.1 h
    rcases List.mem_cons.1 ha with rfl | ha
    · exact ⟨s, t, hc⟩
    · exact ih ht ha

theorem mapM_ok {ε β : Type} {f : α → Except ε β} {g : α → β} {as : List α}
    (h : ∀ a ∈ as, f a = .ok (g a)) : as.mapM f = .ok (as.map g) := by
  induction as with
  | nil => rfl
  | cons a as ih =>
    rw [List.mapM_cons, h a List.mem_cons_self]
    simp only [bind, Except.bind, ih fun c hc => h c (List.mem_cons_of_mem a hc)]
    rfl

/-- One step that fails, the others do not fail in another way. -/
theorem mapM_error {ε β : Type} {f : α → Except ε β} {e : ε} {as : List α}
    (h : ∀ a ∈ as, f a = .error e ∨ ∃ b, f a = .ok b) (he : ∃ a ∈ as, f a = .error e) :
    as.mapM f = .error e := by
  induction as with
  | nil =>
    obtain ⟨a, ha, -⟩ := he
    cases ha
  | cons a as ih =>
    rw [List.mapM_cons]
    rcases h a List.mem_cons_self with ha | ⟨b, ha⟩
    · rw [ha]
      rfl
    · have htail : ∃ c ∈ as, f c = .error e := by
        obtain ⟨c, hc, hfail⟩ := he
        rcases List.mem_cons.1 hc with rfl | hc
        · cases ha.symm.trans hfail
        · exact ⟨c, hc, hfail⟩
      rw [ha]
      simp only [bind, Except.bind, ih (fun c hc => h c (List.mem_cons_of_mem a hc)) htail]

end Runs
