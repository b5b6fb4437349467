import Mathlib.Logic.Function.Basic
import VictoryFairy.Lib.Runs

/-!
# One-time values that are read and deleted in two steps

A store holds a value under each key.  A request first reads the value under its key, and
when it accepts what it finds, deletes the key and is accepted.  Any number of requests do
this at once, while values are stored and expire.

Every value stored under a key gets the next version of the key, so that two values can be
told apart (no request sees the version).

    taken_step      : only a read that finds its value takes one
    singleUse_iff   : no value is accepted twice exactly when none is read again between
                      a read and its delete
-/

namespace OneTime

open Runs

/-- Where a request looks, and what it does with what it finds there; with nothing there it
is rejected. -/
structure Scheme (κ ν ρ ε : Type) where
  key : ρ → κ
  fetch : ρ → Option ν → Except ε ν
  fetch_none : ∀ token value, fetch token none ≠ .ok value

inductive Phase (ν ε : Type) where
  | called
  | fetched (version : Nat) (value : ν)
  | accepted (version : Nat) (value : ν)
  | rejected (e : ε)
deriving DecidableEq, Repr

structure Request (ν ρ ε : Type) where
  token : ρ
  phase : Phase ν ε
deriving DecidableEq, Repr

structure Race (κ ν ρ ε : Type) where
  cell : κ → Option ν
  version : κ → Nat
  requests : List (Request ν ρ ε)

inductive Event (κ ν ρ : Type) where
  | store (key : κ) (value : ν)
  | expire (key : κ)
  | call (token : ρ)
  | get (i : Nat)
  | del (i : Nat)

variable {κ ν ρ ε : Type}

/-- The phase after a read. -/
def Phase.ofFetch (version : Nat) : Except ε ν → Phase ν ε
  | .error e => .rejected e
  | .ok value => .fetched version value

namespace Scheme

variable (S : Scheme κ ν ρ ε)

/-- The value of the request, while it has not deleted it. -/
def fetchedBy (p : Request ν ρ ε) : Option (κ × Nat) :=
  match p.phase with
  | .fetched version _ => some (S.key p.token, version)
  | _ => none

/-- The value the request was accepted with. -/
def acceptedBy (p : Request ν ρ ε) : Option (κ × Nat) :=
  match p.phase with
  | .accepted version _ => some (S.key p.token, version)
  | _ => none

/-- The value the request has read. -/
def takenBy (p : Request ν ρ ε) : Option (κ × Nat) :=
  match p.phase with
  | .fetched version _ => some (S.key p.token, version)
  | .accepted version _ => some (S.key p.token, version)
  | _ => none

/-- No value was accepted twice. -/
def AcceptedOnce (requests : List (Request ν ρ ε)) : Prop :=
  ∀ (i j : Nat) v, requests[i]?.bind S.acceptedBy = some v →
    requests[j]?.bind S.acceptedBy = some v → i = j

/-- No value was read by two requests. -/
def TakenOnce (requests : List (Request ν ρ ε)) : Prop :=
  ∀ (i j : Nat) v, requests[i]?.bind S.takenBy = some v →
    requests[j]?.bind S.takenBy = some v → i = j

variable [DecidableEq κ]

def step (s : Race κ ν ρ ε) : Event κ ν ρ → Race κ ν ρ ε
  | .store key value =>
    { s with
      cell := Function.update s.cell key (some value),
      version := Function.update s.version key (s.version key + 1) }
  | .expire key => { s with cell := Function.update s.cell key none }
  | .call token => { s with requests := s.requests ++ [⟨token, .called⟩] }
  | .get i =>
    match s.requests[i]? with
    | some ⟨token, .called⟩ =>
      { s with
        requests := s.requests.set i ⟨token,
          .ofFetch (s.version (S.key token)) (S.fetch token (s.cell (S.key token)))⟩ }
    | _ => s
  | .del i =>
    match s.requests[i]? with
    | some ⟨token, .fetched version value⟩ =>
      { s with
        cell := Function.update s.cell (S.key token) none,
        requests := s.requests.set i ⟨token, .accepted version value⟩ }
    | _ => s

/-- However the open requests finish, no value is accepted twice. -/
def SingleUse (s : Race κ ν ρ ε) : Prop :=
  ∀ dels : List Nat, S.AcceptedOnce (run S.step s (dels.map .del)).requests

/-- A read that finds its value finds one that no request is about to delete. -/
def OneReader (s : Race κ ν ρ ε) : Event κ ν ρ → Prop
  | .get i => ∀ token value, s.requests[i]? = some ⟨token, .called⟩ →
      S.fetch token (s.cell (S.key token)) = .ok value →
      ∀ j : Nat, s.requests[j]?.bind S.fetchedBy ≠ some (S.key token, s.version (S.key token))
  | _ => True

end Scheme

variable {S : Scheme κ ν ρ ε}

theorem takenBy_eq_some {p : Request ν ρ ε} {v : κ × Nat} :
    S.takenBy p = some v ↔ S.fetchedBy p = some v ∨ S.acceptedBy p = some v := by
  unfold Scheme.takenBy Scheme.fetchedBy Scheme.acceptedBy
  cases p.phase <;> simp

theorem taken_iff {l : List (Request ν ρ ε)} {i : Nat} {v : κ × Nat} :
    l[i]?.bind S.takenBy = some v ↔
      l[i]?.bind S.fetchedBy = some v ∨ l[i]?.bind S.acceptedBy = some v := by
  cases l[i]? with
  | none => simp
  | some p => exact takenBy_eq_some

/-- A request whose value does not change can be replaced. -/
theorem set_bind_congr {f : Request ν ρ ε → Option (κ × Nat)} {l : List (Request ν ρ ε)} {i : Nat}
    {p q : Request ν ρ ε} (hi : l[i]? = some p) (hf : f q = f p) (j : Nat) :
    (l.set i q)[j]?.bind f = l[j]?.bind f := by
  by_cases hij : j = i
  · subst hij
    rw [List.getElem?_set_self (List.getElem?_eq_some_iff.1 hi).1, hi]
    exact hf
  · rw [List.getElem?_set_ne (Ne.symm hij)]

theorem concat_bind {f : Request ν ρ ε → Option (κ × Nat)} {l : List (Request ν ρ ε)}
    {p : Request ν ρ ε} (hf : f p = none) (j : Nat) : (l ++ [p])[j]?.bind f = l[j]?.bind f := by
  rcases Nat.lt_trichotomy j l.length with h | h | h
  · rw [List.getElem?_append_left h]
  · subst h
    rw [List.getElem?_concat_length, List.getElem?_eq_none (Nat.le_refl _)]
    exact hf
  · rw [List.getElem?_eq_none (Nat.le_of_lt h),
      List.getElem?_eq_none (by rw [List.length_append]; exact h)]

variable [DecidableEq κ]

/-- Reads from this event on: the request and the value it found. -/
def Reads (S : Scheme κ ν ρ ε) (s : Race κ ν ρ ε) (a : Event κ ν ρ) (i : Nat) (token : ρ) : Prop :=
  a = .get i ∧ s.requests[i]? = some ⟨token, .called⟩ ∧
    ∃ value, S.fetch token (s.cell (S.key token)) = .ok value

/-- Only a read that finds its value takes one, and it takes the version it finds. -/
theorem taken_step (s : Race κ ν ρ ε) (a : Event κ ν ρ) :
    ((∀ i token, ¬ Reads S s a i token) ∧
      ∀ j : Nat, (S.step s a).requests[j]?.bind S.takenBy = s.requests[j]?.bind S.takenBy) ∨
    ∃ i token, Reads S s a i token ∧ s.requests[i]?.bind S.takenBy = none ∧
      (S.step s a).requests[i]?.bind S.takenBy = some (S.key token, s.version (S.key token)) ∧
      ∀ j : Nat, j ≠ i → (S.step s a).requests[j]?.bind S.takenBy = s.requests[j]?.bind S.takenBy := by
  cases a with
  | store key value => exact Or.inl ⟨fun _ _ h => (nomatch h.1), fun _ => rfl⟩
  | expire key => exact Or.inl ⟨fun _ _ h => (nomatch h.1), fun _ => rfl⟩
  | call token => exact Or.inl ⟨fun _ _ h => (nomatch h.1), concat_bind rfl⟩
  | get i =>
    unfold Scheme.step
    dsimp only
    split
    · next token hi =>
      cases hfetch : S.fetch token (s.cell (S.key token)) with
      | error e =>
        refine Or.inl ⟨?_, set_bind_congr hi rfl⟩
        rintro i' token' ⟨hget, hi', value, hvalue⟩
        cases hget
        cases hi.symm.trans hi'
        rw [hfetch] at hvalue
        cases hvalue
      | ok value =>
        refine Or.inr ⟨i, token, ⟨rfl, hi, value, hfetch⟩, by rw [hi]; rfl, ?_, fun j hj => ?_⟩
        · dsimp only
          rw [List.getElem?_set_self (List.getElem?_eq_some_iff.1 hi).1]
          rfl
        · dsimp only
          rw [List.getElem?_set_ne (Ne.symm hj)]
    · next hno =>
      refine Or.inl ⟨?_, fun _ => rfl⟩
      rintro i' token ⟨hget, hi, -⟩
      cases hget
      exact hno token hi
  | del i =>
    refine Or.inl ⟨fun _ _ h => (nomatch h.1), ?_⟩
    unfold Scheme.step
    dsimp only
    split
    · next token version value hi => exact set_bind_congr hi rfl
    · exact fun _ => rfl

/-! ## Deletes -/

/-- A delete accepts its request. -/
theorem accepted_del {s : Race κ ν ρ ε} {i : Nat} {v : κ × Nat}
    (h : s.requests[i]?.bind S.takenBy = some v) :
    (S.step s (.del i)).requests[i]?.bind S.acceptedBy = some v := by
  unfold Scheme.step
  dsimp only
  split
  · next token version value hi =>
    rw [hi] at h
    dsimp only
    rw [List.getElem?_set_self (List.getElem?_eq_some_iff.1 hi).1]
    exact h
  · next hno =>
    rcases taken_iff.1 h with hf | ha
    · cases hi : s.requests[i]? with
      | none =>
        rw [hi] at hf
        cases hf
      | some p =>
        obtain ⟨token, phase⟩ := p
        cases phase with
        | fetched version value => exact absurd hi (hno token version value)
        | called | accepted | rejected =>
          rw [hi] at hf
          cases hf
    · exact ha

theorem accepted_of_del {s : Race κ ν ρ ε} {i j : Nat} {v : κ × Nat}
    (h : s.requests[j]?.bind S.acceptedBy = some v) :
    (S.step s (.del i)).requests[j]?.bind S.acceptedBy = some v := by
  unfold Scheme.step
  dsimp only
  split
  · next token version value hi =>
    by_cases hij : j = i
    · subst hij
      rw [hi] at h
      cases h
    · dsimp only
      rwa [List.getElem?_set_ne (Ne.symm hij)]
  · exact h

theorem taken_dels (s : Race κ ν ρ ε) (dels : List Nat) (j : Nat) :
    (run S.step s (dels.map .del)).requests[j]?.bind S.takenBy = s.requests[j]?.bind S.takenBy := by
  induction dels generalizing s with
  | nil => rfl
  | cons i dels ih =>
    rw [List.map_cons, run_cons, ih]
    rcases taken_step (S := S) s (.del i) with ⟨-, h⟩ | ⟨i', token, ⟨hget, -⟩, -⟩
    · exact h j
    · cases hget

/-- What was read twice can be accepted twice. -/
theorem singleUse_iff_takenOnce {s : Race κ ν ρ ε} : S.SingleUse s ↔ S.TakenOnce s.requests := by
  constructor
  · intro h i j v hi hj
    refine h [i, j] i j v (accepted_of_del (accepted_del hi)) (accepted_del ?_)
    rwa [← taken_dels (S := S) s [i] j] at hj
  · intro h dels i j v hi hj
    refine h i j v ?_ ?_
    · rw [← taken_dels (S := S) s dels i]
      exact taken_iff.2 (Or.inr hi)
    · rw [← taken_dels (S := S) s dels j]
      exact taken_iff.2 (Or.inr hj)

/-! ## Runs -/

/-- A value that was accepted is no longer in the store. -/
structure Spent (S : Scheme κ ν ρ ε) (s : Race κ ν ρ ε) : Prop where
  le : ∀ (i : Nat) k n, s.requests[i]?.bind S.takenBy = some (k, n) → n ≤ s.version k
  gone : ∀ (i : Nat) k n, s.requests[i]?.bind S.acceptedBy = some (k, n) →
    s.cell k = none ∨ n < s.version k

/-- Where an accepted request comes from. -/
theorem accepted_step {s : Race κ ν ρ ε} {a : Event κ ν ρ} {j : Nat} {k : κ} {n : Nat}
    (h : (S.step s a).requests[j]?.bind S.acceptedBy = some (k, n)) :
    s.requests[j]?.bind S.acceptedBy = some (k, n) ∨
      (S.step s a).cell k = none := by
  cases a with
  | store key value => exact Or.inl h
  | expire key => exact Or.inl h
  | call token => exact Or.inl ((concat_bind rfl j).symm.trans h)
  | get i =>
    left
    unfold Scheme.step at h
    dsimp only at h
    split at h
    · next token hi =>
      refine (set_bind_congr hi ?_ j).symm.trans h
      cases S.fetch token (s.cell (S.key token)) <;> rfl
    · exact h
  | del i =>
    unfold Scheme.step at h ⊢
    dsimp only at h ⊢
    split at h
    · next token version value hi =>
      by_cases hij : j = i
      · subst hij
        dsimp only at h
        rw [List.getElem?_set_self (List.getElem?_eq_some_iff.1 hi).1] at h
        cases h
        exact Or.inr (Function.update_self ..)
      · dsimp only at h
        rw [List.getElem?_set_ne (Ne.symm hij)] at h
        exact Or.inl h
    · exact Or.inl h

theorem version_step (s : Race κ ν ρ ε) (a : Event κ ν ρ) (k : κ) :
    s.version k ≤ (S.step s a).version k ∧
      ((S.step s a).cell k ≠ none → s.cell k = none → s.version k < (S.step s a).version k) := by
  cases a with
  | store key value =>
    by_cases hk : k = key
    · subst hk
      simp [Scheme.step]
    · simp [Scheme.step, hk]
  | expire key =>
    refine ⟨Nat.le_refl _, fun h h' => absurd ?_ h⟩
    by_cases hk : k = key
    · subst hk
      simp [Scheme.step]
    · simpa [Scheme.step, hk] using h'
  | call token => exact ⟨Nat.le_refl _, fun h h' => absurd h' h⟩
  | get i =>
    unfold Scheme.step
    dsimp only
    split <;> exact ⟨Nat.le_refl _, fun h h' => absurd h' h⟩
  | del i =>
    unfold Scheme.step
    dsimp only
    split
    · next token version value hi =>
      refine ⟨Nat.le_refl _, fun h h' => absurd ?_ h⟩
      by_cases hk : k = S.key token
      · subst hk
        exact Function.update_self ..
      · exact (Function.update_of_ne hk ..).trans h'
    · exact ⟨Nat.le_refl _, fun h h' => absurd h' h⟩

theorem Spent.step {s : Race κ ν ρ ε} (h : Spent S s) (a : Event κ ν ρ) : Spent S (S.step s a) := by
  refine ⟨fun j k n hj => ?_, fun j k n hj => ?_⟩
  · rcases taken_step (S := S) s a with ⟨-, hsame⟩ | ⟨i, token, -, -, hi, hother⟩
    · rw [hsame] at hj
      exact Nat.le_trans (h.le j k n hj) (version_step s a k).1
    · by_cases hij : j = i
      · subst hij
        cases hi.symm.trans hj
        exact (version_step s a _).1
      · rw [hother j hij] at hj
        exact Nat.le_trans (h.le j k n hj) (version_step s a k).1
  · rcases accepted_step hj with hold | hnone
    · obtain ⟨hmono, hnew⟩ := version_step (S := S) s a k
      rcases h.gone j k n hold with hgone | hlt
      · by_cases hcell : (S.step s a).cell k = none
        · exact Or.inl hcell
        · exact Or.inr (Nat.lt_of_le_of_lt (h.le j k n (taken_iff.2 (Or.inr hold)))
            (hnew hcell hgone))
      · exact Or.inr (Nat.lt_of_lt_of_le hlt hmono)
    · exact Or.inl hnone

/-- A step keeps every value with one reader exactly when it does not read one that is
about to be deleted. -/
theorem takenOnce_step {s : Race κ ν ρ ε} (hs : Spent S s) (a : Event κ ν ρ)
    (h : S.TakenOnce s.requests) : S.TakenOnce (S.step s a).requests ↔ S.OneReader s a := by
  rcases taken_step (S := S) s a with ⟨hno, hsame⟩ | ⟨i, token, hreads, hnone, hi, hother⟩
  · refine iff_of_true ?_ ?_
    · intro i j v hv hv'
      rw [hsame] at hv hv'
      exact h i j v hv hv'
    · cases a with
      | get i => exact fun token value hi hvalue => absurd ⟨rfl, hi, value, hvalue⟩ (hno i token)
      | _ => trivial
  · obtain ⟨rfl, hcalled, value, hvalue⟩ := hreads
    constructor
    · intro honce token' value' hcalled' hvalue' j hj
      cases hcalled.symm.trans hcalled'
      have hji : j ≠ i := by
        rintro rfl
        rw [taken_iff.2 (Or.inl hj)] at hnone
        cases hnone
      refine hji (honce j i _ ?_ hi)
      rw [hother j hji]
      exact taken_iff.2 (Or.inl hj)
    · intro hone
      -- the value in the store was not accepted, so whoever has read it has not deleted it
      have hfree : ∀ j : Nat,
          s.requests[j]?.bind S.takenBy ≠ some (S.key token, s.version (S.key token)) := by
        intro j hj
        rcases taken_iff.1 hj with hf | ha
        · exact hone token value hcalled hvalue j hf
        · rcases hs.gone j _ _ ha with hgone | hlt
          · rw [hgone] at hvalue
            exact S.fetch_none token value hvalue
          · exact Nat.lt_irrefl _ hlt
      intro j j' v hj hj'
      by_cases hji : j = i
      · subst hji
        by_cases hji' : j' = j
        · exact hji'.symm
        · cases hi.symm.trans hj
          rw [hother j' hji'] at hj'
          exact absurd hj' (hfree j')
      · rw [hother j hji] at hj
        by_cases hji' : j' = i
        · subst hji'
          cases hi.symm.trans hj'
          exact absurd hj (hfree j)
        · rw [hother j' hji'] at hj'
          exact h j j' v hj hj'

/-- **Single use.**  In a run from a state without requests, no value is accepted twice
exactly when no value is read again before the delete that follows its first read. -/
theorem singleUse_iff {s : Race κ ν ρ ε} (hs : s.requests = []) (events : List (Event κ ν ρ)) :
    Always S.step S.SingleUse s events ↔ Guarded S.step S.OneReader s events := by
  have hnil : ∀ {f : Request ν ρ ε → Option (κ × Nat)} {i : Nat} {v},
      s.requests[i]?.bind f ≠ some v := by
    intro f i v h
    rw [hs] at h
    cases h
  refine always_iff_guarded (I := Spent S) (fun t a ht => ht.step a) (fun t a ht hp => ?_)
    ⟨fun _ _ _ h => absurd h hnil, fun _ _ _ h => absurd h hnil⟩
    (singleUse_iff_takenOnce.2 fun _ _ _ h => absurd h hnil) events
  rw [singleUse_iff_takenOnce]
  exact takenOnce_step ht a (singleUse_iff_takenOnce.1 hp)

end OneTime
