import Mathlib.Data.List.Sort
import Mathlib.Order.Basic

/-!
# Pages after a key

A table is read page by page.  A request fetches, in the order of a key, the rows after the
cursor, one more than it shows: the extra row tells that there is more.  The cursor of the
next request is the key of the last row shown.  The table may change between two requests.

    page                 : one request
    Scan take c ls ps    : a client that starts with the cursor `c`, finds the tables `ls` and
                           gets the pages `ps`
    Scan.sorted          : no row comes twice, whatever happens to the table
    Scan.complete        : a key that every request finds is shown
    Scan.fixed, Scan.length_le, exists_scan
                         : on a fixed table the scan ends, with exactly its rows
    exists_scan_zero     : with pages of no rows it need not
-/

namespace Paging

structure Page (α κ : Type) where
  data : List α
  hasNextData : Bool
  cursor : Option κ

section

variable {α κ : Type} [LinearOrder κ] (key : α → κ)

/-- The rows come in the order of their keys, each key once. -/
def Sorted (l : List α) : Prop := l.Pairwise fun a b => key a < key b

/-- The key is after the cursor, if there is one. -/
def After (cursor : Option κ) (k : κ) : Prop := ∀ c, cursor = some c → c < k

instance (cursor : Option κ) (k : κ) : Decidable (After cursor k) :=
  inferInstanceAs (Decidable (∀ c ∈ cursor, c < k))

/-- The rows of a table after the cursor. -/
def rowsAfter (cursor : Option κ) (l : List α) : List α := l.filter fun a => After cursor (key a)

/-- The page of the rows that were fetched. -/
def pageOf (take : Nat) (fetched : List α) : Page α κ :=
  let hasNextData := decide (take < fetched.length)
  let data := if hasNextData then fetched.dropLast else fetched
  { data, hasNextData, cursor := data.getLast?.map key }

def page (take : Nat) (cursor : Option κ) (l : List α) : Page α κ :=
  pageOf key take ((rowsAfter key cursor l).take (take + 1))

/-- The requests of a client: after a page that promises more it asks for the next one. -/
inductive Scan (take : Nat) : Option κ → List (List α) → List (Page α κ) → Prop
  | stop (cursor : Option κ) (l : List α) : Scan take cursor [l] [page key take cursor l]
  | next {cursor : Option κ} {l : List α} {ls : List (List α)} {ps : List (Page α κ)}
      (hmore : (page key take cursor l).hasNextData = true)
      (rest : Scan take (page key take cursor l).cursor ls ps) :
      Scan take cursor (l :: ls) (page key take cursor l :: ps)

/-- The rows shown. -/
def shown (ps : List (Page α κ)) : List α := ps.flatMap Page.data

/-- The last page promises nothing. -/
def Finished (ps : List (Page α κ)) : Prop := ∃ p, ps.getLast? = some p ∧ p.hasNextData = false

end

variable {α κ : Type} [LinearOrder κ] {key : α → κ} {take : Nat} {cursor : Option κ} {l : List α}
  {ls : List (List α)} {ps : List (Page α κ)}

/-! ## One page -/

theorem mem_rowsAfter {a : α} : a ∈ rowsAfter key cursor l ↔ a ∈ l ∧ After cursor (key a) := by
  unfold rowsAfter
  rw [List.mem_filter, decide_eq_true_iff]

theorem Sorted.rowsAfter (h : Sorted key l) : Sorted key (rowsAfter key cursor l) :=
  List.Pairwise.sublist List.filter_sublist h

/-- The look-ahead row is dropped. -/
theorem page_data : (page key take cursor l).data = (rowsAfter key cursor l).take take := by
  unfold page pageOf
  generalize rowsAfter key cursor l = rows
  dsimp only
  rw [List.length_take]
  by_cases h : take < rows.length
  · have hlen : (rows.take (take + 1)).length = take + 1 := by
      rw [List.length_take]
      omega
    rw [if_pos (by simpa using h), List.dropLast_eq_take, hlen, Nat.add_sub_cancel, List.take_take,
      Nat.min_eq_left (Nat.le_succ take)]
  · rw [if_neg (by simpa using h), List.take_of_length_le (by omega), List.take_of_length_le (by omega)]

theorem page_hasNextData :
    (page key take cursor l).hasNextData = true ↔ take < (rowsAfter key cursor l).length := by
  unfold page pageOf
  rw [decide_eq_true_iff, List.length_take]
  omega

theorem page_cursor :
    (page key take cursor l).cursor = (page key take cursor l).data.getLast?.map key := rfl

theorem length_data_le : (page key take cursor l).data.length ≤ take := by
  rw [page_data, List.length_take]
  exact Nat.min_le_left _ _

/-- A page that promises more shows a row, and its cursor is the key of the last one. -/
theorem exists_cursor (htake : 1 ≤ take) (hmore : (page key take cursor l).hasNextData = true) :
    ∃ before last, (page key take cursor l).data = before ++ [last] ∧
      (page key take cursor l).cursor = some (key last) := by
  rw [page_hasNextData] at hmore
  have hne : (page key take cursor l).data ≠ [] := by
    rw [page_data, ← List.length_pos_iff, List.length_take]
    omega
  refine ⟨_, _, (List.dropLast_append_getLast hne).symm, ?_⟩
  rw [page_cursor, List.getLast?_eq_some_getLast hne]
  rfl

/-- What the page leaves for the next request of the same table. -/
theorem rowsAfter_cursor (htake : 1 ≤ take) (hsorted : Sorted key l)
    (hmore : (page key take cursor l).hasNextData = true) :
    rowsAfter key (page key take cursor l).cursor l = (rowsAfter key cursor l).drop take := by
  obtain ⟨before, last, hdata, hcursor⟩ := exists_cursor htake hmore
  rw [page_data] at hdata
  have hrows : rowsAfter key cursor l = before ++ [last] ++ (rowsAfter key cursor l).drop take := by
    rw [← hdata, List.take_append_drop]
  have hord : Sorted key (rowsAfter key cursor l) := hsorted.rowsAfter
  have hlast : After cursor (key last) :=
    (mem_rowsAfter.1 (hrows ▸ by simp : last ∈ rowsAfter key cursor l)).2
  have hagain : rowsAfter key (some (key last)) l =
      (rowsAfter key cursor l).filter fun a => After (some (key last)) (key a) := by
    unfold rowsAfter
    rw [List.filter_filter]
    refine List.filter_congr fun a _ => ?_
    rw [← Bool.decide_and, decide_eq_decide]
    refine ⟨fun h => ⟨h, fun c hc => lt_trans (hlast c hc) (h _ rfl)⟩, And.left⟩
  rw [hcursor, hagain]
  generalize (rowsAfter key cursor l).drop take = rest at hrows
  rw [hrows] at hord ⊢
  obtain ⟨hshown, -, hrest⟩ := List.pairwise_append.1 hord
  obtain ⟨-, -, hbefore⟩ := List.pairwise_append.1 hshown
  rw [List.filter_append, List.filter_eq_nil_iff.2, List.filter_eq_self.2, List.nil_append]
  · intro a ha
    rw [decide_eq_true_iff]
    rintro c ⟨⟩
    exact hrest last (by simp) a ha
  · intro a ha
    rw [decide_eq_true_iff]
    intro h
    have hlt : key last < key a := h _ rfl
    rcases List.mem_append.1 ha with ha | ha
    · exact lt_asymm hlt (hbefore a ha last (List.mem_singleton_self last))
    · exact lt_irrefl _ (List.mem_singleton.1 ha ▸ hlt)

/-- Every row of the table that is after the cursor is shown, or left for the next request. -/
theorem shown_or_after (htake : 1 ≤ take) (hsorted : Sorted key l)
    (hmore : (page key take cursor l).hasNextData = true) {a : α} (ha : a ∈ l)
    (hafter : After cursor (key a)) :
    a ∈ (page key take cursor l).data ∨ After (page key take cursor l).cursor (key a) := by
  have hmem : a ∈ rowsAfter key cursor l := mem_rowsAfter.2 ⟨ha, hafter⟩
  rw [← List.take_append_drop take (rowsAfter key cursor l), List.mem_append] at hmem
  rcases hmem with hmem | hmem
  · rw [page_data]
    exact Or.inl hmem
  · rw [← rowsAfter_cursor htake hsorted hmore] at hmem
    exact Or.inr (mem_rowsAfter.1 hmem).2

theorem mem_data {a : α} (h : a ∈ (page key take cursor l).data) : a ∈ l ∧ After cursor (key a) := by
  rw [page_data] at h
  exact mem_rowsAfter.1 (List.mem_of_mem_take h)

theorem sorted_data (hsorted : Sorted key l) : Sorted key (page key take cursor l).data := by
  have hrows : Sorted key (rowsAfter key cursor l) := hsorted.rowsAfter
  rw [page_data]
  exact List.Pairwise.sublist (List.take_sublist _ _) hrows

/-- What comes after the next cursor comes after every row of the page, and after the cursor. -/
theorem lt_of_after_cursor (htake : 1 ≤ take) (hsorted : Sorted key l)
    (hmore : (page key take cursor l).hasNextData = true) {k : κ}
    (hk : After (page key take cursor l).cursor k) :
    (∀ a ∈ (page key take cursor l).data, key a < k) ∧ After cursor k := by
  obtain ⟨before, last, hdata, hcursor⟩ := exists_cursor htake hmore
  have hlast : key last < k := hk _ hcursor
  have hord : Sorted key (page key take cursor l).data := sorted_data hsorted
  refine ⟨fun a ha => ?_, fun c hc => ?_⟩
  · rw [hdata] at ha hord
    rcases List.mem_append.1 ha with ha | ha
    · have hbefore : key a < key last :=
        (List.pairwise_append.1 hord).2.2 a ha last (List.mem_singleton_self last)
      exact lt_trans hbefore hlast
    · exact List.mem_singleton.1 ha ▸ hlast
  · have hmem : last ∈ (page key take cursor l).data := by rw [hdata]; simp
    exact lt_trans ((mem_data hmem).2 c hc) hlast

/-! ## Scans -/

theorem data_of_finished (h : Finished [page key take cursor l]) :
    (page key take cursor l).data = rowsAfter key cursor l := by
  obtain ⟨p, hp, hlast⟩ := h
  have he : page key take cursor l = p := Option.some.inj hp
  rw [← he] at hlast
  have hall : (rowsAfter key cursor l).length ≤ take :=
    Nat.le_of_not_lt fun hlt => Bool.false_ne_true (hlast.symm.trans (page_hasNextData.2 hlt))
  rw [page_data, List.take_of_length_le hall]

/-- No page has more than `take` rows. -/
theorem Scan.length_page_le (h : Scan key take cursor ls ps) : ∀ p ∈ ps, p.data.length ≤ take := by
  induction h with
  | stop cursor l => exact fun p hp => List.mem_singleton.1 hp ▸ length_data_le
  | next hmore rest ih =>
    intro p hp
    rcases List.mem_cons.1 hp with rfl | hp
    · exact length_data_le
    · exact ih p hp

theorem Scan.finished_cons (h : Scan key take cursor ls ps) {p : Page α κ} :
    Finished (p :: ps) ↔ Finished ps := by
  unfold Finished
  cases h <;> rw [List.getLast?_cons_cons]

section

variable (htake : 1 ≤ take)

include htake

/-- What a scan shows comes after its cursor, in order. -/
theorem Scan.sorted (h : Scan key take cursor ls ps) (hsorted : ∀ l ∈ ls, Sorted key l) :
    Sorted key (shown ps) ∧ ∀ a ∈ shown ps, After cursor (key a) := by
  induction h with
  | stop cursor l =>
    have hone : shown [page key take cursor l] = (page key take cursor l).data := by
      simp [shown]
    rw [hone]
    exact ⟨sorted_data (hsorted l List.mem_cons_self), fun a ha => (mem_data ha).2⟩
  | next hmore rest ih =>
    next cursor l ls ps =>
    have hl := hsorted l List.mem_cons_self
    obtain ⟨hord, hafter⟩ := ih fun l' hl' => hsorted l' (List.mem_cons_of_mem l hl')
    have hcons : shown (page key take cursor l :: ps) = (page key take cursor l).data ++ shown ps := rfl
    rw [hcons]
    refine ⟨List.pairwise_append.2 ⟨sorted_data hl, hord, fun a ha b hb => ?_⟩, fun a ha => ?_⟩
    · exact (lt_of_after_cursor htake hl hmore (hafter b hb)).1 a ha
    · rcases List.mem_append.1 ha with ha | ha
      · exact (mem_data ha).2
      · exact (lt_of_after_cursor htake hl hmore (hafter a ha)).2

/-- A key after the cursor that every request finds is shown before the scan is finished. -/
theorem Scan.complete (h : Scan key take cursor ls ps) (hsorted : ∀ l ∈ ls, Sorted key l)
    (hfinished : Finished ps) {k : κ} (hk : After cursor k)
    (hfound : ∀ l ∈ ls, ∃ a ∈ l, key a = k) : ∃ a ∈ shown ps, key a = k := by
  induction h with
  | stop cursor l =>
    obtain ⟨a, ha, rfl⟩ := hfound l List.mem_cons_self
    refine ⟨a, List.mem_flatMap.2 ⟨_, List.mem_cons_self, ?_⟩, rfl⟩
    rw [data_of_finished hfinished]
    exact mem_rowsAfter.2 ⟨ha, hk⟩
  | next hmore rest ih =>
    next cursor l ls ps =>
    have hl := hsorted l List.mem_cons_self
    obtain ⟨a, ha, rfl⟩ := hfound l List.mem_cons_self
    rcases shown_or_after htake hl hmore ha hk with hdata | hafter
    · exact ⟨a, List.mem_append_left _ hdata, rfl⟩
    · obtain ⟨b, hb, he⟩ := ih (fun l' hl' => hsorted l' (List.mem_cons_of_mem l hl'))
        (rest.finished_cons.1 hfinished) hafter fun l' hl' => hfound l' (List.mem_cons_of_mem l hl')
      exact ⟨b, List.mem_append_right _ hb, he⟩

/-- On a fixed table a scan has at most one request for each row and one more, and in the end
all rows are shown. -/
theorem Scan.fixed {n : Nat} (hl : Sorted key l) (h : Scan key take cursor (List.replicate n l) ps) :
    n ≤ (rowsAfter key cursor l).length + 1 ∧ (Finished ps → shown ps = rowsAfter key cursor l) := by
  generalize hls : List.replicate n l = ls at h
  induction h generalizing n with
  | stop cursor l' =>
    obtain ⟨rfl, rfl⟩ : n = 1 ∧ l' = l := by
      obtain ⟨hn, hmem⟩ := List.eq_replicate_iff.1 hls.symm
      exact ⟨hn.symm, hmem l' List.mem_cons_self⟩
    refine ⟨by omega, fun hfinished => ?_⟩
    have hone : shown [page key take cursor l'] = (page key take cursor l').data := by
      simp [shown]
    rw [hone, data_of_finished hfinished]
  | next hmore rest ih =>
    next cursor l' ls ps =>
    obtain ⟨hn, hmem⟩ := List.eq_replicate_iff.1 hls.symm
    obtain rfl : l' = l := hmem l' List.mem_cons_self
    obtain ⟨hle, hshown⟩ := ih (n := ls.length)
      (List.eq_replicate_iff.2 ⟨rfl, fun b hb => hmem b (List.mem_cons_of_mem _ hb)⟩).symm
    rw [rowsAfter_cursor htake hl hmore] at hle hshown
    rw [page_hasNextData] at hmore
    rw [List.length_drop] at hle
    rw [List.length_cons] at hn
    refine ⟨by omega, fun hfinished => ?_⟩
    have hcons : shown (page key take cursor l' :: ps) =
        (page key take cursor l').data ++ shown ps := rfl
    rw [hcons, hshown (rest.finished_cons.1 hfinished), page_data, List.take_append_drop]

/-- On a fixed table the client comes to the end. -/
theorem exists_scan (hl : Sorted key l) (cursor : Option κ) :
    ∃ n ps, Scan key take cursor (List.replicate n l) ps ∧ Finished ps := by
  generalize hsize : (rowsAfter key cursor l).length = size
  induction size using Nat.strongRecOn generalizing cursor with
  | ind size ih =>
    by_cases hmore : (page key take cursor l).hasNextData = true
    · have hrest : (rowsAfter key (page key take cursor l).cursor l).length < size := by
        rw [rowsAfter_cursor htake hl hmore, List.length_drop]
        rw [page_hasNextData] at hmore
        omega
      obtain ⟨n, ps, hscan, hfinished⟩ := ih _ hrest _ rfl
      exact ⟨n + 1, _, .next hmore hscan, hscan.finished_cons.2 hfinished⟩
    · exact ⟨1, _, .stop cursor l, _, rfl, Bool.eq_false_iff.2 hmore⟩

end

/-! ## Pages without rows -/

theorem page_zero_cursor : (page key 0 cursor l).cursor = none := by
  rw [page_cursor, page_data, List.take_zero]
  rfl

/-- A client that asks for no rows asks for ever, once there is one. -/
theorem exists_scan_zero (hrows : rowsAfter key cursor l ≠ []) (n : Nat) :
    ∃ ps, Scan key 0 cursor (List.replicate (n + 1) l) ps := by
  induction n generalizing cursor with
  | zero => exact ⟨_, .stop cursor l⟩
  | succ n ih =>
    have hmore : (page key 0 cursor l).hasNextData = true :=
      page_hasNextData.2 (List.length_pos_iff.2 hrows)
    have hall : rowsAfter key (page key 0 cursor l).cursor l ≠ [] := by
      obtain ⟨a, ha⟩ := List.exists_mem_of_ne_nil _ hrows
      rw [page_zero_cursor]
      exact List.ne_nil_of_mem (mem_rowsAfter.2 ⟨(mem_rowsAfter.1 ha).1, nofun⟩)
    obtain ⟨ps, hscan⟩ := ih hall
    exact ⟨_, .next hmore hscan⟩

end Paging
