import Mathlib.Data.List.Induction
import VictoryFairy.Lib.Runs

/-!
# The past of a run

Which events a run has had, each with the events before it.

* `Occurs E as`: some event of `as` met `E`, which also sees the events before it.
* `Since S K as`: some event met `S`, and no later one met `K`.
* `occurs_of_run`: what holds now and did not hold at first was brought about by an event.
* `run_iff_since`: what `S` brings about and `K` ends holds when it did not end since.
* `SinceAt`, `run_iff_sinceAt`: the same where both depend on the state an event finds.
* `draw_unique`: an event that draws a new number is the only one with this number.
-/

namespace Runs

variable {σ α : Type} {step : σ → α → σ}

/-- Some event met `E`, given the events before it. -/
def Occurs (E : List α → α → Prop) (as : List α) : Prop :=
  ∃ bs a cs, as = bs ++ a :: cs ∧ E bs a

/-- Some event met `S`, and none after it met `K`. -/
def Since (S K : α → Prop) (as : List α) : Prop :=
  ∃ bs a cs, as = bs ++ a :: cs ∧ S a ∧ ∀ b ∈ cs, ¬ K b

/-- An event of a run that has one more event is the last one or one before it. -/
theorem concat_eq_append_cons {as bs cs : List α} {a b : α} :
    as ++ [a] = bs ++ b :: cs ↔
      (as = bs ∧ a = b ∧ cs = []) ∨ ∃ ds, as = bs ++ b :: ds ∧ cs = ds ++ [a] := by
  constructor
  · intro h
    rcases cs.eq_nil_or_concat with rfl | ⟨ds, c, rfl⟩
    · obtain ⟨hbs, hb⟩ := List.append_inj' h rfl
      exact Or.inl ⟨hbs, List.singleton_inj.1 hb, rfl⟩
    · rw [List.concat_eq_append, ← List.cons_append, ← List.append_assoc] at h
      obtain ⟨has, ha⟩ := List.append_inj' h rfl
      exact Or.inr ⟨ds, has, by rw [List.concat_eq_append, List.singleton_inj.1 ha]⟩
  · rintro (⟨rfl, rfl, rfl⟩ | ⟨ds, rfl, rfl⟩)
    · rfl
    · rw [List.append_assoc, List.cons_append]

theorem occurs_concat {E : List α → α → Prop} {as : List α} {a : α} :
    Occurs E (as ++ [a]) ↔ Occurs E as ∨ E as a := by
  constructor
  · rintro ⟨bs, b, cs, h, hE⟩
    rcases concat_eq_append_cons.1 h with ⟨rfl, rfl, -⟩ | ⟨ds, hds, -⟩
    · exact Or.inr hE
    · exact Or.inl ⟨bs, b, ds, hds, hE⟩
  · rintro (⟨bs, b, ds, hds, hE⟩ | hE)
    · exact ⟨bs, b, ds ++ [a], concat_eq_append_cons.2 (Or.inr ⟨ds, hds, rfl⟩), hE⟩
    · exact ⟨as, a, [], rfl, hE⟩

theorem Occurs.imp {E F : List α → α → Prop} {as : List α} (h : Occurs E as)
    (hEF : ∀ bs a, E bs a → F bs a) : Occurs F as := by
  obtain ⟨bs, a, cs, has, hE⟩ := h
  exact ⟨bs, a, cs, has, hEF bs a hE⟩

theorem not_since_nil {S K : α → Prop} : ¬ Since S K [] := by
  rintro ⟨bs, a, cs, h, -⟩
  cases bs <;> cases h

theorem since_concat {S K : α → Prop} {as : List α} {a : α} :
    Since S K (as ++ [a]) ↔ S a ∨ Since S K as ∧ ¬ K a := by
  constructor
  · rintro ⟨bs, b, cs, h, hS, hK⟩
    rcases concat_eq_append_cons.1 h with ⟨-, rfl, -⟩ | ⟨ds, hds, rfl⟩
    · exact Or.inl hS
    · exact Or.inr ⟨⟨bs, b, ds, hds, hS, fun c hc => hK c (List.mem_append_left _ hc)⟩,
        hK a (List.mem_append_right _ List.mem_cons_self)⟩
  · rintro (hS | ⟨⟨bs, b, ds, hds, hS, hK⟩, ha⟩)
    · exact ⟨as, a, [], rfl, hS, fun _ h => absurd h List.not_mem_nil⟩
    · refine ⟨bs, b, ds ++ [a], concat_eq_append_cons.2 (Or.inr ⟨ds, hds, rfl⟩), hS, ?_⟩
      intro c hc
      rcases List.mem_append.1 hc with hc | hc
      · exact hK c hc
      · rw [List.mem_singleton.1 hc]
        exact ha

theorem run_concat (s : σ) (as : List α) (a : α) :
    run step s (as ++ [a]) = step (run step s as) a := by
  rw [run_append]
  rfl

/-- What did not hold at first and holds now was brought about. -/
theorem occurs_of_run {P : σ → Prop} {s : σ} (h0 : ¬ P s) {as : List α}
    (h : P (run step s as)) :
    Occurs (fun bs a => ¬ P (run step s bs) ∧ P (step (run step s bs) a)) as := by
  induction as using List.reverseRecOn with
  | nil => exact absurd h h0
  | append_singleton as a ih =>
    rw [occurs_concat]
    rw [run_concat] at h
    by_cases hbefore : P (run step s as)
    · exact Or.inl (ih hbefore)
    · exact Or.inr ⟨hbefore, h⟩

/-- What `S` brings about and `K` ends holds exactly when it was brought about and has not
ended since. -/
theorem run_iff_since {P : σ → Prop} {S K : α → Prop}
    (hstep : ∀ s a, P (step s a) ↔ S a ∨ P s ∧ ¬ K a) {s : σ} (h0 : ¬ P s) (as : List α) :
    P (run step s as) ↔ Since S K as := by
  induction as using List.reverseRecOn with
  | nil => exact ⟨fun h => absurd h h0, fun h => absurd h not_since_nil⟩
  | append_singleton as a ih => rw [run_concat, hstep, ih, since_concat]

/-- Some event met `S` in the state it found, and none after it met `K` in its own. -/
def SinceAt (step : σ → α → σ) (S K : σ → α → Prop) (s : σ) (as : List α) : Prop :=
  ∃ bs a cs, as = bs ++ a :: cs ∧ S (run step s bs) a ∧
    Guarded step (fun s b => ¬ K s b) (step (run step s bs) a) cs

theorem not_sinceAt_nil {S K : σ → α → Prop} {s : σ} : ¬ SinceAt step S K s [] := by
  rintro ⟨bs, a, cs, h, -⟩
  cases bs <;> cases h

theorem sinceAt_concat {S K : σ → α → Prop} {s : σ} {as : List α} {a : α} :
    SinceAt step S K s (as ++ [a]) ↔
      S (run step s as) a ∨ SinceAt step S K s as ∧ ¬ K (run step s as) a := by
  constructor
  · rintro ⟨bs, b, cs, h, hS, hK⟩
    rcases concat_eq_append_cons.1 h with ⟨rfl, rfl, -⟩ | ⟨ds, rfl, rfl⟩
    · exact Or.inl hS
    · rw [guarded_append] at hK
      obtain ⟨hds, ha, -⟩ := hK
      rw [run_append, run_cons]
      exact Or.inr ⟨⟨bs, b, ds, rfl, hS, hds⟩, ha⟩
  · rintro (hS | ⟨⟨bs, b, ds, rfl, hS, hds⟩, ha⟩)
    · exact ⟨as, a, [], rfl, hS, trivial⟩
    · refine ⟨bs, b, ds ++ [a], concat_eq_append_cons.2 (Or.inr ⟨ds, rfl, rfl⟩), hS, ?_⟩
      rw [run_append, run_cons] at ha
      exact (guarded_append _ ds [a]).2 ⟨hds, ha, trivial⟩

/-- What `S` brings about and `K` ends, where `I` holds, holds exactly when it was brought about
and has not ended since. -/
theorem run_iff_sinceAt {I P : σ → Prop} {S K : σ → α → Prop} (hI : ∀ s a, I s → I (step s a))
    (hstep : ∀ s a, I s → (P (step s a) ↔ S s a ∨ P s ∧ ¬ K s a)) {s : σ} (hi : I s) (h0 : ¬ P s)
    (as : List α) : P (run step s as) ↔ SinceAt step S K s as := by
  induction as using List.reverseRecOn with
  | nil => exact ⟨fun h => absurd h h0, fun h => absurd h not_sinceAt_nil⟩
  | append_singleton as a ih =>
    have hrun : I (run step s as) := (always_of_step hI hi as).last
    rw [run_concat, hstep _ _ hrun, ih, sinceAt_concat]

/-- Where `next` never goes down, two events that drew the same number are one. -/
theorem draw_unique {next : σ → Nat} (hstep : ∀ s a, next s ≤ next (step s a)) {s : σ}
    {as bs cs bs' cs' : List α} {a a' : α} (h : as = bs ++ a :: cs) (h' : as = bs' ++ a' :: cs')
    (ha : next (run step s bs) < next (step (run step s bs) a))
    (ha' : next (run step s bs') < next (step (run step s bs') a'))
    (hn : next (run step s bs) = next (run step s bs')) : bs = bs' ∧ a = a' := by
  -- a later event finds a larger number
  have hlater : ∀ {bs ds : List α} {a : α}, next (run step s bs) < next (step (run step s bs) a) →
      next (run step s bs) < next (run step s (bs ++ a :: ds)) := by
    intro bs ds a ha
    rw [run_append, run_cons]
    refine Nat.lt_of_lt_of_le ha ?_
    generalize step (run step s bs) a = t
    induction ds generalizing t with
    | nil => exact Nat.le_refl _
    | cons d ds ih => exact Nat.le_trans (hstep t d) (ih _)
  rw [h] at h'
  rcases List.append_eq_append_iff.1 h' with ⟨ds, rfl, hds⟩ | ⟨ds, rfl, hds⟩
  · cases ds with
    | nil =>
      rw [List.nil_append] at hds
      exact ⟨(List.append_nil bs).symm, (List.cons.inj hds).1⟩
    | cons d ds =>
      obtain ⟨rfl, -⟩ := List.cons.inj hds
      exact absurd hn (Nat.ne_of_lt (hlater ha))
  · cases ds with
    | nil =>
      rw [List.nil_append] at hds
      exact ⟨List.append_nil bs', (List.cons.inj hds).1.symm⟩
    | cons d ds =>
      obtain ⟨rfl, -⟩ := List.cons.inj hds
      exact absurd hn.symm (Nat.ne_of_lt (hlater ha'))

end Runs
