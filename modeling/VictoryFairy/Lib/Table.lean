import Mathlib.Data.List.Nodup
import Mathlib.Algebra.Order.BigOperators.Group.List
import Mathlib.Algebra.Order.Ring.Nat

/-!
# Keyed tables

A relational table under one unique key: `rows` in storage order, no two with
the same key, so that every operation keeps the key unique by construction.

* `save` replaces the row of its key or appends a new one, `remove` drops one
  key, `reject` drops every row a predicate selects (a cascade).
* `find?` after each of them is given by one equation.
* `total f` sums a measure over the rows; it changes by exactly the rows an
  operation exchanges (`total_save`, `total_remove`, `total_reject`).  Counting
  rows is the case of an indicator.
* `findAny p n` is a query without an order: which of the rows that satisfy `p`
  it returns is decided by `n` alone.
-/

/-- Rows in storage order, at most one for each key. -/
structure Table {α κ : Type} (key : α → κ) where
  rows : List α
  nodup : (rows.map key).Nodup

namespace Table

variable {α κ : Type} {key : α → κ}

@[ext] theorem ext {t u : Table key} (h : t.rows = u.rows) : t = u := by
  cases t; cases u; cases h; rfl

def empty : Table key := ⟨[], List.nodup_nil⟩

/-- Rows satisfying `p` are dropped. -/
def reject (t : Table key) (p : α → Bool) : Table key where
  rows := t.rows.filter fun a => !p a
  nodup := t.nodup.sublist (List.filter_sublist.map key)

/-- Some row satisfying `p`, chosen by `n` among all that do. -/
def findAny (t : Table key) (p : α → Bool) (n : Nat) : Option α :=
  let hits := t.rows.filter p
  hits[n % hits.length]?

/-- Sum of `f` over the rows. -/
def total (f : α → Nat) (t : Table key) : Nat := (t.rows.map f).sum

/-- Every row is rewritten under its own key. -/
def modify (t : Table key) (f : α → α) (h : ∀ a, key (f a) = key a) : Table key where
  rows := t.rows.map f
  nodup := by
    rw [List.map_map, show key ∘ f = key from funext h]
    exact t.nodup

theorem mem_reject {t : Table key} {p : α → Bool} {a : α} :
    a ∈ (t.reject p).rows ↔ a ∈ t.rows ∧ p a = false := by
  simp [reject]

theorem findAny_eq_some {t : Table key} {p : α → Bool} {n : Nat} {a : α}
    (h : t.findAny p n = some a) : a ∈ t.rows ∧ p a = true := by
  unfold findAny at h
  exact List.mem_filter.1 (List.mem_of_getElem? h)

theorem findAny_eq_none {t : Table key} {p : α → Bool} {n : Nat} :
    t.findAny p n = none ↔ ∀ a ∈ t.rows, p a = false := by
  unfold findAny
  simp only [List.getElem?_eq_none_iff]
  constructor
  · intro h a ha
    by_contra hp
    have hm : a ∈ t.rows.filter p := List.mem_filter.2 ⟨ha, by simpa using hp⟩
    have := Nat.mod_lt n (List.length_pos_of_mem hm)
    omega
  · intro h
    have : t.rows.filter p = [] := List.filter_eq_nil_iff.2 fun a ha => by simp [h a ha]
    simp [this]

/-- Every row that satisfies the predicate may be the one returned. -/
theorem exists_findAny {t : Table key} {p : α → Bool} {a : α} (ha : a ∈ t.rows) (hp : p a = true) :
    ∃ n, t.findAny p n = some a := by
  obtain ⟨i, hi, hget⟩ := List.mem_iff_getElem.1 (List.mem_filter.2 ⟨ha, hp⟩)
  refine ⟨i, ?_⟩
  unfold findAny
  dsimp only
  rw [Nat.mod_eq_of_lt hi, List.getElem?_eq_getElem hi, hget]

/-! ## Totals of the rows -/

theorem total_reject (f : α → Nat) (t : Table key) (p : α → Bool) :
    (t.reject p).total f + t.total (fun a => if p a then f a else 0) = t.total f := by
  obtain ⟨l, hn⟩ := t
  simp only [total, reject]
  clear hn
  induction l with
  | nil => rfl
  | cons b bs ih =>
    cases hp : p b <;> simp [hp] <;> omega

theorem total_congr {t : Table key} {f g : α → Nat} (h : ∀ a ∈ t.rows, f a = g a) :
    t.total f = t.total g := by
  unfold total
  rw [List.map_congr_left h]

theorem total_eq_zero {t : Table key} {f : α → Nat} : t.total f = 0 ↔ ∀ a ∈ t.rows, f a = 0 := by
  unfold total
  rw [List.sum_eq_zero_iff_forall_eq_nat]
  simp

/-- Summing over the groups of `g` is summing over the rows. -/
theorem sum_groups {β : Type} [DecidableEq β] (f : α → Nat) (g : α → β) (l : List α)
    (groups : List β) (hn : groups.Nodup) (hg : ∀ a ∈ l, g a ∈ groups) :
    (groups.map fun b => (l.map fun a => if g a = b then f a else 0).sum).sum = (l.map f).sum := by
  induction l with
  | nil => simp
  | cons a l ih =>
    have hone : (groups.map fun b => if g a = b then f a else 0).sum = f a := by
      rw [List.sum_map_eq_nsmul_single (g a) _ fun b hb _ => if_neg (Ne.symm hb),
        List.count_eq_one_of_mem hn (hg a List.mem_cons_self)]
      simp
    simp only [List.map_cons, List.sum_cons]
    rw [List.sum_map_add, hone, ih fun b hb => hg b (List.mem_cons_of_mem a hb)]

/-- Dropping elements that measure nothing does not change a sum. -/
theorem sum_filter_eq (f : α → Nat) (p : α → Bool) (l : List α)
    (h : ∀ a ∈ l, p a = false → f a = 0) : ((l.filter p).map f).sum = (l.map f).sum := by
  induction l with
  | nil => rfl
  | cons a l ih =>
    have ih := ih fun b hb => h b (List.mem_cons_of_mem a hb)
    cases hp : p a with
    | true => simp [hp, ih]
    | false => simp [hp, ih, h a List.mem_cons_self hp]

theorem le_total {t : Table key} (f : α → Nat) {a : α} (h : a ∈ t.rows) : f a ≤ t.total f :=
  List.single_le_sum (by simp) _ (List.mem_map_of_mem h)

/-! ## Keyed operations -/

variable [DecidableEq κ]

def find? (t : Table key) (k : κ) : Option α := t.rows.find? fun a => decide (key a = k)

/-- Replaces the row with the key of `a`, or appends `a`. -/
def saveRow (key : α → κ) (a : α) : List α → List α
  | [] => [a]
  | b :: bs => if key b = key a then a :: bs else b :: saveRow key a bs

theorem map_saveRow (a : α) (l : List α) :
    (saveRow key a l).map key = if key a ∈ l.map key then l.map key else l.map key ++ [key a] := by
  induction l with
  | nil => simp [saveRow]
  | cons b bs ih =>
    by_cases hb : key b = key a
    · simp [saveRow, hb]
    · simp only [saveRow, if_neg hb, List.map_cons, ih, List.mem_cons]
      by_cases hm : key a ∈ bs.map key
      · rw [if_pos hm, if_pos (Or.inr hm)]
      · rw [if_neg hm, if_neg (by rintro (h | h); exacts [hb h.symm, hm h])]
        rfl

def save (t : Table key) (a : α) : Table key where
  rows := saveRow key a t.rows
  nodup := by
    rw [map_saveRow]
    split
    · exact t.nodup
    · next h =>
      refine List.nodup_append.2 ⟨t.nodup, by simp, fun x hx y hy e => h ?_⟩
      rw [List.mem_singleton] at hy
      rwa [← hy, ← e]

def remove (t : Table key) (k : κ) : Table key := t.reject fun a => decide (key a = k)

/-- A plain insert: rejected when the key is taken. -/
def insert? (t : Table key) (a : α) : Option (Table key) :=
  if (t.find? (key a)).isSome then none else some (t.save a)

def saveAll (t : Table key) (l : List α) : Table key := l.foldl save t

/-! ## Lookups -/

theorem find?_eq_some {t : Table key} {k : κ} {a : α} :
    t.find? k = some a ↔ a ∈ t.rows ∧ key a = k := by
  obtain ⟨l, hn⟩ := t
  simp only [find?]
  induction l with
  | nil => simp
  | cons b bs ih =>
    simp only [List.map_cons, List.nodup_cons, List.mem_map, not_exists, not_and] at hn
    rw [List.find?_cons]
    by_cases hb : key b = k
    · simp only [hb, decide_true, Option.some.injEq, List.mem_cons]
      constructor
      · rintro rfl; exact ⟨Or.inl rfl, hb⟩
      · rintro ⟨rfl | hm, hk⟩
        · rfl
        · exact absurd (hk.trans hb.symm) (hn.1 a hm)
    · simp only [hb, decide_false, List.mem_cons]
      rw [ih hn.2]
      constructor
      · rintro ⟨hm, hk⟩; exact ⟨Or.inr hm, hk⟩
      · rintro ⟨rfl | hm, hk⟩
        · exact absurd hk hb
        · exact ⟨hm, hk⟩

theorem find?_key {t : Table key} {k : κ} {a : α} (h : t.find? k = some a) : key a = k :=
  (find?_eq_some.1 h).2

theorem mem_of_find? {t : Table key} {k : κ} {a : α} (h : t.find? k = some a) : a ∈ t.rows :=
  (find?_eq_some.1 h).1

theorem find?_of_mem {t : Table key} {a : α} (h : a ∈ t.rows) : t.find? (key a) = some a :=
  find?_eq_some.2 ⟨h, rfl⟩

/-- Rows of one key are one row. -/
theorem eq_of_key {t : Table key} {a b : α} (ha : a ∈ t.rows) (hb : b ∈ t.rows)
    (h : key a = key b) : a = b := by
  have hfind := find?_of_mem ha
  rw [h, find?_of_mem hb] at hfind
  exact (Option.some.inj hfind).symm

theorem find?_eq_none {t : Table key} {k : κ} : t.find? k = none ↔ ∀ a ∈ t.rows, key a ≠ k := by
  simp [find?]

@[simp] theorem find?_empty (k : κ) : (empty : Table key).find? k = none := rfl

theorem find?_saveRow (a : α) (l : List α) (k : κ) :
    (saveRow key a l).find? (fun b => decide (key b = k)) =
      if key a = k then some a else l.find? fun b => decide (key b = k) := by
  induction l with
  | nil => by_cases hk : key a = k <;> simp [saveRow, hk]
  | cons b bs ih =>
    by_cases hb : key b = key a
    · by_cases hk : key a = k <;> simp [saveRow, hb, hk]
    · simp only [saveRow, if_neg hb, List.find?_cons, ih]
      by_cases hk : key a = k
      · simp [hk, show key b ≠ k from fun h => hb (h.trans hk.symm)]
      · simp [hk]

@[simp] theorem find?_save (t : Table key) (a : α) (k : κ) :
    (t.save a).find? k = if key a = k then some a else t.find? k :=
  find?_saveRow a t.rows k

theorem find?_save_self (t : Table key) (a : α) : (t.save a).find? (key a) = some a := by simp

theorem find?_save_of_ne (t : Table key) {a : α} {k : κ} (h : key a ≠ k) :
    (t.save a).find? k = t.find? k := by simp [h]

theorem mem_save {t : Table key} {a b : α} :
    b ∈ (t.save a).rows ↔ b = a ∨ (b ∈ t.rows ∧ key b ≠ key a) := by
  constructor
  · intro h
    have hf := find?_of_mem h
    rw [find?_save] at hf
    split at hf
    · exact Or.inl (Option.some.inj hf).symm
    · next hne => exact Or.inr ⟨mem_of_find? hf, fun e => hne e.symm⟩
  · rintro (rfl | ⟨hm, hne⟩)
    · exact mem_of_find? (find?_save_self t b)
    · exact mem_of_find? ((find?_save_of_ne t (Ne.symm hne)).trans (find?_of_mem hm))

theorem find?_modify (t : Table key) (f : α → α) (h : ∀ a, key (f a) = key a) (k : κ) :
    (t.modify f h).find? k = (t.find? k).map f := by
  simp only [find?, modify, List.find?_map, Function.comp_def, h]

theorem find?_reject (t : Table key) (p : α → Bool) (k : κ) :
    (t.reject p).find? k = (t.find? k).filter fun a => !p a := by
  cases h : t.find? k with
  | none =>
    rw [find?_eq_none] at h
    exact find?_eq_none.2 fun a ha => h a (mem_reject.1 ha).1
  | some a =>
    obtain ⟨hm, hk⟩ := find?_eq_some.1 h
    cases hp : p a with
    | false =>
      simp only [Option.filter, hp, Bool.not_false, if_true]
      exact find?_eq_some.2 ⟨mem_reject.2 ⟨hm, hp⟩, hk⟩
    | true =>
      simp only [Option.filter, hp, Bool.not_true, Bool.false_eq_true, if_false]
      refine find?_eq_none.2 fun b hb hkb => ?_
      obtain ⟨hbm, hpb⟩ := mem_reject.1 hb
      have hab : b = a := Option.some.inj ((find?_eq_some.2 ⟨hbm, hkb⟩).symm.trans h)
      rw [hab, hp] at hpb
      cases hpb

/-- A save does not touch the rows of a query that neither selects the new row nor the
one it replaces. -/
theorem filter_save_of_mem (t : Table key) (a : α) (p : α → Bool) (ha : p a = false)
    (h : ∀ b ∈ t.rows, key b = key a → p b = false) :
    (t.save a).rows.filter p = t.rows.filter p := by
  obtain ⟨l, hn⟩ := t
  simp only [save]
  dsimp only at h
  clear hn
  induction l with
  | nil => simp [saveRow, ha]
  | cons b bs ih =>
    by_cases hb : key b = key a
    · simp [saveRow, hb, ha, h b List.mem_cons_self hb]
    · simp only [saveRow, if_neg hb, List.filter_cons,
        ih fun c hc => h c (List.mem_cons_of_mem b hc)]

theorem filter_save (t : Table key) (a : α) (p : α → Bool) (h : ∀ b, key b = key a → p b = false) :
    (t.save a).rows.filter p = t.rows.filter p :=
  filter_save_of_mem t a p (h a rfl) fun b _ => h b

/-- A query that selects the row and those of its key sees the save. -/
theorem filter_save_own (t : Table key) (a : α) (p : α → Bool) (ha : p a = true)
    (h : ∀ b ∈ t.rows, key b = key a → p b = true) :
    (t.save a).rows.filter p = saveRow key a (t.rows.filter p) := by
  obtain ⟨l, hn⟩ := t
  simp only [save]
  dsimp only at h
  clear hn
  induction l with
  | nil => simp [saveRow, ha]
  | cons b bs ih =>
    have ih := ih fun c hc => h c (List.mem_cons_of_mem b hc)
    by_cases hb : key b = key a
    · have hpb := h b List.mem_cons_self hb
      simp [saveRow, hb, ha, hpb]
    · cases hpb : p b with
      | false => simp [saveRow, hb, hpb, ih]
      | true => simp [saveRow, hb, hpb, ih]

/-- A row found by its key and selected by a query is found among the rows of the query. -/
theorem find?_filter (t : Table key) (p : α → Bool) (k : κ) :
    (t.find? k).filter p = (t.rows.filter p).find? fun a => decide (key a = k) := by
  have h := find?_reject t (fun a => !p a) k
  simp only [Bool.not_not] at h
  rw [← h]
  simp only [find?, reject, Bool.not_not]

omit [DecidableEq κ] in
/-- A cascade does not touch the rows of a query that selects none of those it drops. -/
theorem filter_reject (t : Table key) (q p : α → Bool) (h : ∀ a ∈ t.rows, p a = true → q a = false) :
    (t.reject q).rows.filter p = t.rows.filter p := by
  unfold reject
  rw [List.filter_filter]
  refine List.filter_congr fun a ha => ?_
  cases hp : p a with
  | false => rfl
  | true => simp [h a ha hp]

theorem mem_remove {t : Table key} {k : κ} {a : α} :
    a ∈ (t.remove k).rows ↔ a ∈ t.rows ∧ key a ≠ k := by
  simp [remove, mem_reject]

@[simp] theorem find?_remove (t : Table key) (k k' : κ) :
    (t.remove k).find? k' = if k = k' then none else t.find? k' := by
  unfold remove
  rw [find?_reject]
  cases h : t.find? k' with
  | none => simp
  | some a =>
    have hk := find?_key h
    by_cases e : k = k'
    · simp [Option.filter, hk, e]
    · simp [Option.filter, hk, e, Ne.symm e]

/-- The second save of a key wins. -/
theorem save_save (t : Table key) {a b : α} (h : key a = key b) : (t.save a).save b = t.save b := by
  have hrow : ∀ l : List α, saveRow key b (saveRow key a l) = saveRow key b l := by
    intro l
    induction l with
    | nil => simp [saveRow, h]
    | cons c cs ih =>
      by_cases hc : key c = key b
      · simp [saveRow, h, hc]
      · simp [saveRow, h, hc, ih]
  exact ext (hrow t.rows)

/-- A row with a new key is appended. -/
theorem rows_save_of_fresh {t : Table key} {a : α} (h : ∀ b ∈ t.rows, key b ≠ key a) :
    (t.save a).rows = t.rows ++ [a] := by
  have hrow : ∀ l : List α, (∀ b ∈ l, key b ≠ key a) → saveRow key a l = l ++ [a] := by
    intro l
    induction l with
    | nil => exact fun _ => rfl
    | cons b bs ih =>
      intro hl
      unfold saveRow
      rw [if_neg (hl b List.mem_cons_self), ih fun c hc => hl c (List.mem_cons_of_mem b hc)]
      rfl
  exact hrow t.rows h

theorem remove_of_absent {t : Table key} {k : κ} (h : ∀ a ∈ t.rows, key a ≠ k) : t.remove k = t :=
  Table.ext (List.filter_eq_self.2 fun a ha => by simpa using h a ha)

/-- Removing the row of a new key undoes its save. -/
theorem remove_save_of_fresh {t : Table key} {a : α} (h : ∀ b ∈ t.rows, key b ≠ key a) :
    (t.save a).remove (key a) = t := by
  refine Table.ext ?_
  show (t.save a).rows.filter _ = t.rows
  rw [rows_save_of_fresh h, List.filter_append, List.filter_eq_self.2 fun b hb => by simpa using h b hb]
  simp

theorem insert?_eq_some {t t' : Table key} {a : α} :
    t.insert? a = some t' ↔ t.find? (key a) = none ∧ t' = t.save a := by
  unfold insert?
  split
  · next h =>
    constructor
    · intro e; cases e
    · rintro ⟨e, -⟩; rw [e] at h; cases h
  · next h =>
    rw [Option.not_isSome_iff_eq_none] at h
    simp [h, eq_comm]

theorem saveAll_append (t : Table key) (l l' : List α) :
    t.saveAll (l ++ l') = (t.saveAll l).saveAll l' :=
  List.foldl_append

theorem saveAll_concat (t : Table key) (l : List α) (a : α) :
    t.saveAll (l ++ [a]) = (t.saveAll l).save a := by
  rw [saveAll_append]; rfl

theorem mem_of_mem_saveAll {t : Table key} {l : List α} {a : α} (h : a ∈ (t.saveAll l).rows) :
    a ∈ t.rows ∨ a ∈ l := by
  induction l generalizing t with
  | nil => exact Or.inl h
  | cons b l ih =>
    rcases ih (t := t.save b) h with h | h
    · rcases mem_save.1 h with rfl | ⟨h, -⟩
      · exact Or.inr List.mem_cons_self
      · exact Or.inl h
    · exact Or.inr (List.mem_cons_of_mem b h)

theorem find?_saveAll_of_notMem (t : Table key) (l : List α) {k : κ} (h : ∀ a ∈ l, key a ≠ k) :
    (t.saveAll l).find? k = t.find? k := by
  induction l generalizing t with
  | nil => rfl
  | cons a l ih =>
    show ((t.save a).saveAll l).find? k = _
    rw [ih _ fun b hb => h b (List.mem_cons_of_mem a hb), find?_save_of_ne _ (h a List.mem_cons_self)]

/-- Two tables that agree on `k` agree on it after the same saves. -/
theorem find?_saveAll_congr {t u : Table key} (l : List α) {k : κ} (h : t.find? k = u.find? k) :
    (t.saveAll l).find? k = (u.saveAll l).find? k := by
  induction l generalizing t u with
  | nil => exact h
  | cons a l ih =>
    refine ih (t := t.save a) (u := u.save a) ?_
    rw [find?_save, find?_save, h]

/-- Saving the row that is there changes nothing. -/
theorem save_of_find? {t : Table key} {a : α} (h : t.find? (key a) = some a) : t.save a = t := by
  obtain ⟨l, hn⟩ := t
  refine Table.ext ?_
  simp only [save, find?] at h ⊢
  clear hn
  induction l with
  | nil => cases h
  | cons b bs ih =>
    by_cases hb : key b = key a
    · simp only [List.find?_cons, hb, decide_true, Option.some.injEq] at h
      simp [saveRow, h]
    · simp only [List.find?_cons, hb, decide_false] at h
      simp only [saveRow, if_neg hb, ih h]

/-- Saving rows that are there changes nothing. -/
theorem saveAll_of_find? {t : Table key} {l : List α} (h : ∀ a ∈ l, t.find? (key a) = some a) :
    t.saveAll l = t := by
  induction l with
  | nil => rfl
  | cons a l ih =>
    show (t.save a).saveAll l = t
    rw [save_of_find? (h a List.mem_cons_self)]
    exact ih fun b hb => h b (List.mem_cons_of_mem a hb)

/-- A row of one of the keys saved is found by the saved rows alone. -/
theorem find?_saveAll_of_mem (t u : Table key) (l : List α) {k : κ} (h : ∃ a ∈ l, key a = k) :
    (t.saveAll l).find? k = (u.saveAll l).find? k := by
  induction l generalizing t u with
  | nil => obtain ⟨a, ha, -⟩ := h; cases ha
  | cons b l ih =>
    by_cases hl : ∃ a ∈ l, key a = k
    · exact ih (t.save b) (u.save b) hl
    · obtain ⟨a, ha, hk⟩ := h
      have hb : key b = k := by
        rcases List.mem_cons.1 ha with rfl | ha
        · exact hk
        · exact absurd ⟨a, ha, hk⟩ hl
      refine find?_saveAll_congr (t := t.save b) (u := u.save b) l ?_
      rw [find?_save, find?_save, if_pos hb, if_pos hb]

theorem isSome_find?_saveAll (t : Table key) (l : List α) {k : κ} (h : (t.find? k).isSome) :
    ((t.saveAll l).find? k).isSome := by
  induction l generalizing t with
  | nil => exact h
  | cons a l ih =>
    refine ih (t := t.save a) ?_
    rw [find?_save]
    split
    · rfl
    · exact h

/-! ## Totals after an operation -/

theorem total_saveRow (f : α → Nat) (a : α) (l : List α) :
    ((saveRow key a l).map f).sum + ((l.find? fun b => decide (key b = key a)).elim 0 f) =
      (l.map f).sum + f a := by
  induction l with
  | nil => simp [saveRow]
  | cons b bs ih =>
    by_cases hb : key b = key a
    · simp [saveRow, hb]; omega
    · rw [saveRow, if_neg hb, List.find?_cons, decide_eq_false hb]
      simp only [List.map_cons, List.sum_cons]
      omega

/-- A save exchanges the old row of the key for the new one. -/
theorem total_save (f : α → Nat) (t : Table key) (a : α) :
    (t.save a).total f + (t.find? (key a)).elim 0 f = t.total f + f a :=
  total_saveRow f a t.rows

/-- A row that measures `n` more than the one it replaces. -/
theorem total_save_add {f : α → Nat} {t : Table key} {a : α} {n : Nat}
    (h : f a = (t.find? (key a)).elim 0 f + n) : (t.save a).total f = t.total f + n := by
  have hsave := total_save f t a
  omega

theorem total_single (f : α → Nat) (t : Table key) (k : κ) :
    t.total (fun a => if decide (key a = k) then f a else 0) = (t.find? k).elim 0 f := by
  obtain ⟨l, hn⟩ := t
  simp only [total, find?]
  induction l with
  | nil => rfl
  | cons b bs ih =>
    simp only [List.map_cons, List.nodup_cons, List.mem_map, not_exists, not_and] at hn
    by_cases hb : key b = k
    · have hz : (bs.map fun a => if decide (key a = k) then f a else 0).sum = 0 := by
        rw [List.sum_eq_zero_iff_forall_eq_nat]
        simp only [List.mem_map]
        rintro _ ⟨a, ha, rfl⟩
        have : key a ≠ k := fun e => hn.1 a ha (e.trans hb.symm)
        simp [this]
      simp [hb] at hz ⊢
      exact hz
    · simp only [List.map_cons, List.sum_cons, hb, decide_false, List.find?_cons, ih hn.2]
      simp

theorem total_remove (f : α → Nat) (t : Table key) (k : κ) :
    (t.remove k).total f + (t.find? k).elim 0 f = t.total f := by
  rw [← total_single]
  exact total_reject f t _

end Table
