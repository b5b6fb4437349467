import Mathlib.Logic.Function.Basic
import VictoryFairy.Lib.Runs

/-!
# Rows that are looked up and inserted in two steps

A request looks for a row under its key and inserts one when it finds none; nothing else
keeps a second row out.  Any number of requests do this at once, while the rows of a key
are removed.

`load s k` counts the rows under `k` and the requests that will insert one.  An insert
keeps it, a lookup that finds nothing adds one to it.

    load_insert  : an insert only moves the load
    safe_iff_load: at most one row, however the open requests finish, is a load of at most 1
    step_safe    : the load stays so exactly when a lookup that finds nothing is alone
-/

namespace CheckInsert

open Runs

/-- `cleared` when the last lookup found no row; the insert is then ahead. -/
structure Request (κ : Type) where
  key : κ
  cleared : Bool
deriving DecidableEq, Repr

/-- The number of rows under each key, and the requests in the order of their calls. -/
structure Race (κ : Type) where
  rows : κ → Nat
  requests : List (Request κ)

inductive Event (κ : Type) where
  | call (key : κ)
  | find (i : Nat)
  | insert (i : Nat)
  | remove (key : κ)

variable {κ : Type}

/-- A request that is replaced changes the count by what it was and is. -/
theorem countP_replace {l : List (Request κ)} {i : Nat} {p q : Request κ} (hi : l[i]? = some p)
    (f : Request κ → Bool) :
    (l.set i q).countP f + (if f p then 1 else 0) = l.countP f + (if f q then 1 else 0) := by
  obtain ⟨hlt, hget⟩ := List.getElem?_eq_some_iff.1 hi
  rw [List.countP_set hlt, hget]
  have hpos : f p = true → 0 < l.countP f := fun hp =>
    List.countP_pos_iff.2 ⟨p, hget ▸ List.getElem_mem hlt, hp⟩
  by_cases hp : f p = true
  · have := hpos hp
    simp only [hp, if_true]
    omega
  · simp only [hp, Bool.false_eq_true, if_false]
    omega

variable [DecidableEq κ]

def step (s : Race κ) : Event κ → Race κ
  | .call key => { s with requests := s.requests ++ [⟨key, false⟩] }
  | .find i =>
    match s.requests[i]? with
    | some ⟨key, false⟩ =>
      { s with requests := s.requests.set i ⟨key, decide (s.rows key = 0)⟩ }
    | _ => s
  | .insert i =>
    match s.requests[i]? with
    | some ⟨key, true⟩ =>
      { rows := Function.update s.rows key (s.rows key + 1),
        requests := s.requests.set i ⟨key, false⟩ }
    | _ => s
  | .remove key => { s with rows := Function.update s.rows key 0 }

/-- The requests that will insert a row under the key. -/
def pending (s : Race κ) (k : κ) : Nat := s.requests.countP fun p => p = ⟨k, true⟩

def load (s : Race κ) (k : κ) : Nat := s.rows k + pending s k

/-- However the open requests finish, no key has two rows. -/
def Safe (s : Race κ) : Prop :=
  ∀ (inserts : List Nat) (k : κ), (run step s (inserts.map .insert)).rows k ≤ 1

/-- A lookup that finds nothing is the only one with an insert ahead. -/
def Alone (s : Race κ) : Event κ → Prop
  | .find i => ∀ key, s.requests[i]? = some ⟨key, false⟩ → s.rows key = 0 →
      ∀ j : Nat, s.requests[j]? ≠ some ⟨key, true⟩
  | _ => True

/-! ## The load -/

theorem load_insert (s : Race κ) (i : Nat) (k : κ) : load (step s (.insert i)) k = load s k := by
  unfold step
  dsimp only
  split
  · next key hi =>
    have hcount := countP_replace (q := ⟨key, false⟩) hi fun p => p = ⟨k, true⟩
    unfold load pending
    dsimp only
    by_cases hk : key = k
    · subst hk
      rw [Function.update_self]
      simp at hcount
      omega
    · rw [Function.update_of_ne (Ne.symm hk)]
      simp [hk] at hcount
      omega
  · rfl

theorem load_inserts (s : Race κ) (inserts : List Nat) (k : κ) :
    load (run step s (inserts.map .insert)) k = load s k := by
  induction inserts generalizing s with
  | nil => rfl
  | cons i inserts ih => rw [List.map_cons, run_cons, ih, load_insert]

/-- An insert is not ahead of its request any more, and of no new one. -/
theorem insert_closes {s : Race κ} {i j : Nat} {p : Request κ}
    (h : (step s (.insert i)).requests[j]? = some p) (hp : p.cleared = true) :
    j ≠ i ∧ s.requests[j]? = some p := by
  unfold step at h
  dsimp only at h
  split at h
  · rcases getElem?_set_cases h with ⟨-, rfl⟩ | ⟨hne, h⟩
    · cases hp
    · exact ⟨hne, h⟩
  · next hno =>
    refine ⟨?_, h⟩
    rintro rfl
    obtain ⟨key, cleared⟩ := p
    cases hp
    exact hno key h

/-- After the inserts of all requests, none is open. -/
theorem inserts_close (s : Race κ) (inserts : List Nat) {j : Nat} {p : Request κ}
    (h : (run step s (inserts.map .insert)).requests[j]? = some p) (hp : p.cleared = true) :
    j ∉ inserts ∧ s.requests[j]? = some p := by
  induction inserts generalizing s with
  | nil => exact ⟨List.not_mem_nil, h⟩
  | cons i inserts ih =>
    obtain ⟨hnot, h⟩ := ih (step s (.insert i)) h
    obtain ⟨hne, h⟩ := insert_closes h hp
    exact ⟨fun hm => (List.mem_cons.1 hm).elim hne hnot, h⟩

theorem pending_eq_zero {s : Race κ} {k : κ} :
    pending s k = 0 ↔ ∀ j : Nat, s.requests[j]? ≠ some ⟨k, true⟩ := by
  unfold pending
  rw [List.countP_eq_zero]
  constructor
  · intro h j hj
    exact h _ (List.mem_of_getElem? hj) (by simp)
  · intro h p hp hk
    obtain ⟨j, hj⟩ := List.mem_iff_getElem?.1 hp
    exact h j (hj.trans (congrArg some (by simpa using hk)))

/-- The whole load can become rows. -/
theorem safe_iff_load {s : Race κ} : Safe s ↔ ∀ k, load s k ≤ 1 := by
  constructor
  · intro h k
    have hrows := h (List.range s.requests.length) k
    have hopen : pending (run step s ((List.range s.requests.length).map .insert)) k = 0 := by
      refine pending_eq_zero.2 fun j hj => ?_
      obtain ⟨hnot, hj⟩ := inserts_close s _ hj rfl
      exact hnot (List.mem_range.2 (List.getElem?_eq_some_iff.1 hj).1)
    have hload := load_inserts s (List.range s.requests.length) k
    unfold load at hload ⊢
    omega
  · intro h inserts k
    have hload := load_inserts s inserts k
    have hk := h k
    unfold load at hload hk
    omega

/-! ## Steps -/

theorem load_find {s : Race κ} {i : Nat} {key : κ} (hi : s.requests[i]? = some ⟨key, false⟩) (k : κ) :
    load (step s (.find i)) k = load s k + if key = k ∧ s.rows key = 0 then 1 else 0 := by
  have hstep : step s (.find i) =
      { s with requests := s.requests.set i ⟨key, decide (s.rows key = 0)⟩ } := by
    unfold step
    dsimp only
    rw [hi]
  have hcount := countP_replace (q := ⟨key, decide (s.rows key = 0)⟩) hi fun p => p = ⟨k, true⟩
  rw [hstep]
  unfold load pending
  dsimp only
  by_cases hzero : s.rows key = 0
  · simp [hzero] at hcount ⊢
    omega
  · simp [hzero] at hcount ⊢
    omega

/-- A request that is not there, or has looked already, does not look. -/
theorem find_none {s : Race κ} {i : Nat} (hi : ∀ key, s.requests[i]? ≠ some ⟨key, false⟩) :
    step s (.find i) = s := by
  unfold step
  dsimp only
  split
  · next key hkey => exact absurd hkey (hi key)
  · rfl

/-- **One step.**  From a safe state, a step leads to a safe one exactly when it is alone. -/
theorem step_safe {s : Race κ} (h : Safe s) (e : Event κ) : Safe (step s e) ↔ Alone s e := by
  rw [safe_iff_load] at h
  rw [safe_iff_load]
  cases e with
  | call key =>
    refine iff_of_true (fun k => ?_) trivial
    have hsame : load (step s (.call key)) k = load s k := by
      simp [load, pending, step]
    exact hsame ▸ h k
  | find i =>
    by_cases hi : ∃ key, s.requests[i]? = some ⟨key, false⟩
    · obtain ⟨key, hi⟩ := hi
      constructor
      · intro hload key' hkey' hzero
        obtain ⟨rfl⟩ : key = key' := congrArg Request.key (Option.some.inj (hi.symm.trans hkey'))
        have hk := hload key
        rw [load_find hi, if_pos ⟨rfl, hzero⟩] at hk
        refine pending_eq_zero.1 ?_
        unfold load at hk
        omega
      · intro halone k
        rw [load_find hi]
        split
        · next hk =>
          obtain ⟨rfl, hzero⟩ := hk
          have hpending := pending_eq_zero.2 (halone key hi hzero)
          unfold load
          omega
        · exact h k
    · rw [not_exists] at hi
      rw [find_none hi]
      exact iff_of_true h fun key hkey => absurd hkey (hi key)
  | insert i => exact iff_of_true (fun k => load_insert s i k ▸ h k) trivial
  | remove key =>
    refine iff_of_true (fun k => ?_) trivial
    have hle : load (step s (.remove key)) k ≤ load s k := by
      unfold load pending step
      dsimp only
      by_cases hk : k = key
      · rw [hk, Function.update_self]
        omega
      · have hrow : Function.update s.rows key 0 k = s.rows k := Function.update_of_ne hk _ _
        omega
    exact Nat.le_trans hle (h k)

end CheckInsert
