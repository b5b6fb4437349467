import Mathlib.Data.List.Basic

/-!
# Keys that get the next number

A store finds the number of a key, or hands out the next one of a sequence, which need not
know what numbers are in use.  Which keys of a batch get a new number, and which one, is told
beforehand: `newKeys` are those keys, each once, in the order they come.

    newKeys_insert, room_insert : a new key takes the next number, the rest the ones after it
    number_insert               : and the numbers of all keys are what they would have been
-/

namespace Numbering

variable {κ : Type} [DecidableEq κ]

/-- The keys that are not known, each once, in the order they come. -/
def missing (known : κ → Bool) : List κ → List κ
  | [] => []
  | k :: ks => if known k then missing known ks else k :: missing (fun x => known x || x = k) ks

/-- The keys the store has no number for. -/
def newKeys (find : κ → Option Nat) (ks : List κ) : List κ := missing (fun x => (find x).isSome) ks

/-- None of the next numbers is in use, as many as there are new keys. -/
def Room (find : κ → Option Nat) (used : Nat → Prop) (next : Nat) (ks : List κ) : Prop :=
  ∀ i < (newKeys find ks).length, ¬ used (next + i)

/-- The number a key has after the batch: the one it had, or its place among the new ones. -/
def number (find : κ → Option Nat) (next : Nat) (ks : List κ) (k : κ) : Nat :=
  (find k).getD (next + (newKeys find ks).idxOf k)

/-! ## New keys -/

/-- Only what is known of the keys of the batch matters. -/
theorem missing_congr {known known' : κ → Bool} {ks : List κ} (h : ∀ x ∈ ks, known x = known' x) :
    missing known ks = missing known' ks := by
  induction ks generalizing known known' with
  | nil => rfl
  | cons k ks ih =>
    have hrest : ∀ x ∈ ks, known x = known' x := fun x hx => h x (List.mem_cons_of_mem _ hx)
    have hinsert : ∀ x ∈ ks, (known x || x = k) = (known' x || x = k) := fun x hx => by rw [hrest x hx]
    unfold missing
    rw [h k List.mem_cons_self, ih hrest, ih hinsert]

theorem mem_missing {known : κ → Bool} {ks : List κ} {x : κ} :
    x ∈ missing known ks ↔ x ∈ ks ∧ known x = false := by
  induction ks generalizing known with
  | nil => simp [missing]
  | cons k ks ih =>
    unfold missing
    cases hk : known k with
    | true =>
      rw [if_pos rfl, ih, List.mem_cons]
      constructor
      · rintro ⟨hx, hnew⟩
        exact ⟨Or.inr hx, hnew⟩
      · rintro ⟨rfl | hx, hnew⟩
        · cases hk.symm.trans hnew
        · exact ⟨hx, hnew⟩
    | false =>
      rw [if_neg Bool.false_ne_true, List.mem_cons, ih, List.mem_cons, Bool.or_eq_false_iff,
        decide_eq_false_iff_not]
      constructor
      · rintro (rfl | ⟨hx, hnew, -⟩)
        · exact ⟨Or.inl rfl, hk⟩
        · exact ⟨Or.inr hx, hnew⟩
      · rintro ⟨hx, hnew⟩
        by_cases hsame : x = k
        · exact Or.inl hsame
        · exact Or.inr ⟨hx.resolve_left hsame, hnew, hsame⟩

variable {find find' : κ → Option Nat} {used used' : Nat → Prop} {next : Nat} {k x : κ} {ks : List κ}

theorem mem_newKeys : x ∈ newKeys find ks ↔ x ∈ ks ∧ find x = none := by
  unfold newKeys
  rw [mem_missing, Option.isSome_eq_false_iff, Option.isNone_iff_eq_none]

theorem newKeys_found (h : (find k).isSome = true) : newKeys find (k :: ks) = newKeys find ks :=
  if_pos h

/-- **A new key** is the first of them; the others are those of the store that has it. -/
theorem newKeys_insert (h : find k = none)
    (hfind : ∀ y ∈ ks, find' y = if y = k then some next else find y) :
    newKeys find (k :: ks) = k :: newKeys find' ks := by
  have hnone : ¬ (find k).isSome = true := by
    rw [h]
    exact Bool.false_ne_true
  refine (if_neg hnone).trans (congrArg (k :: ·) (missing_congr fun y hy => ?_))
  rw [hfind y hy]
  by_cases hsame : y = k
  · simp [hsame]
  · simp [hsame]

/-! ## Room -/

/-- **A new key** takes the next number, and the rest the ones after it. -/
theorem room_insert (h : find k = none)
    (hfind : ∀ y ∈ ks, find' y = if y = k then some next else find y)
    (hused : ∀ n, used' n ↔ used n ∨ n = next) :
    Room find used next (k :: ks) ↔ ¬ used next ∧ Room find' used' (next + 1) ks := by
  unfold Room
  rw [newKeys_insert h hfind, List.length_cons]
  constructor
  · intro hroom
    refine ⟨hroom 0 (Nat.succ_pos _), fun i hi hin => ?_⟩
    rcases (hused _).1 hin with hin | hin
    · refine hroom (i + 1) (Nat.succ_lt_succ hi) ?_
      rwa [show next + (i + 1) = next + 1 + i by omega]
    · omega
  · rintro ⟨hnext, hroom⟩ i hi
    cases i with
    | zero => exact hnext
    | succ i =>
      rw [show next + (i + 1) = next + 1 + i by omega]
      exact fun hin => hroom i (Nat.lt_of_succ_lt_succ hi) ((hused _).2 (Or.inl hin))

/-! ## Numbers -/

theorem number_known {n : Nat} (h : find k = some n) : number find next ks k = n := by
  unfold number
  rw [h]
  rfl

theorem number_found (h : (find k).isSome = true) :
    number find next (k :: ks) x = number find next ks x := by
  unfold number
  rw [newKeys_found h]

/-- **A new key** has the next number, and the others the numbers they would have had. -/
theorem number_insert (h : find k = none)
    (hfind : ∀ y ∈ ks, find' y = if y = k then some next else find y)
    (hx : find' x = if x = k then some next else find x) :
    number find next (k :: ks) x = number find' (next + 1) ks x := by
  unfold number
  rw [newKeys_insert h hfind, hx]
  by_cases hsame : x = k
  · subst hsame
    rw [h, if_pos rfl, List.idxOf_cons_self]
    rfl
  · rw [if_neg hsame, List.idxOf_cons_ne _ fun he => hsame he.symm]
    cases find x with
    | some n => rfl
    | none =>
      show next + _ = next + 1 + _
      omega

end Numbering
