import VictoryFairy.Lib.Runs

/-!
# Two runs seen by one observer

Two runs of one machine whose selected events are the same, in the same order, while the
other events differ in any way.

* `outputs`: what the selected events of a run answer.
* `runs_agree`: when a selected event answers alike and keeps alike what looks alike, and any
  other event is not seen, the two runs look alike in the end and have given the same answers.
* `Related`, `Related.bind`: steps that may fail, one in each run, fail alike or succeed alike.
-/

namespace Runs

/-! ## Runs -/

section

variable {σ α β : Type} (step : σ → α → σ) (out : σ → α → β) (own : α → Bool)

def outputs : σ → List α → List β
  | _, [] => []
  | s, a :: as => if own a then out s a :: outputs (step s a) as else outputs (step s a) as

variable {step out own} {view : σ → σ → Prop} {C : σ → α → Prop}

theorem outputs_own {s : σ} {a : α} {as : List α} (h : own a = true) :
    outputs step out own s (a :: as) = out s a :: outputs step out own (step s a) as :=
  if_pos h

theorem outputs_other {s : σ} {a : α} {as : List α} (h : own a = false) :
    outputs step out own s (a :: as) = outputs step out own (step s a) as :=
  if_neg (by simp [h])

variable (out) in
/-- Events of the second run that are not seen. -/
theorem runs_agree_of_unseen
    (hright : ∀ s t a, view s t → own a = false → C t a → view s (step t a)) {s t : σ}
    {bs : List α} (h : view s t) (hown : bs.filter own = []) (hC : Guarded step C t bs) :
    view s (run step t bs) ∧ outputs step out own t bs = [] := by
  induction bs generalizing t with
  | nil => exact ⟨h, rfl⟩
  | cons b bs ih =>
    have hb : own b = false := by
      cases hb : own b with
      | false => rfl
      | true => rw [List.filter_cons_of_pos hb] at hown; cases hown
    rw [List.filter_cons_of_neg (by simp [hb])] at hown
    obtain ⟨hview, hout⟩ := ih (hright s t b h hb hC.1) hown hC.2
    exact ⟨hview, (outputs_other hb).trans hout⟩

/-- **Runs that agree on the selected events.** -/
theorem runs_agree
    (hown : ∀ s t a, view s t → own a = true → C s a → C t a →
      view (step s a) (step t a) ∧ out s a = out t a)
    (hleft : ∀ s t a, view s t → own a = false → C s a → view (step s a) t)
    (hright : ∀ s t a, view s t → own a = false → C t a → view s (step t a)) {s t : σ}
    {as bs : List α} (h : view s t) (hsame : as.filter own = bs.filter own)
    (hs : Guarded step C s as) (ht : Guarded step C t bs) :
    view (run step s as) (run step t bs) ∧ outputs step out own s as = outputs step out own t bs := by
  induction as generalizing s t bs with
  | nil =>
    obtain ⟨hview, hout⟩ := runs_agree_of_unseen out hright h hsame.symm ht
    exact ⟨hview, hout.symm⟩
  | cons a as ih =>
    cases ha : own a with
    | false =>
      rw [List.filter_cons_of_neg (by simp [ha])] at hsame
      rw [outputs_other ha]
      exact ih (hleft s t a h ha hs.1) hsame hs.2 ht
    | true =>
      rw [List.filter_cons_of_pos ha] at hsame
      -- the second run comes to the same event after some that are not seen
      induction bs generalizing t with
      | nil => cases hsame
      | cons b bs ihb =>
        cases hb : own b with
        | false =>
          rw [List.filter_cons_of_neg (by simp [hb])] at hsame
          obtain ⟨hview, hout⟩ := ihb (hright s t b h hb ht.1) hsame ht.2
          exact ⟨hview, hout.trans (outputs_other hb).symm⟩
        | true =>
          rw [List.filter_cons_of_pos hb] at hsame
          obtain ⟨rfl, hrest⟩ := List.cons.inj hsame
          obtain ⟨hview, hout⟩ := hown s t a h ha hs.1 ht.1
          obtain ⟨hview', hout'⟩ := ih hview hrest hs.2 ht.2
          refine ⟨hview', ?_⟩
          rw [outputs_own ha, outputs_own ha, hout, hout']

end

/-! ## Steps that may fail -/

section

variable {ε β γ β' γ' : Type}

/-- Both fail alike, or both succeed with related results. -/
inductive Related (R : β → γ → Prop) : Except ε β → Except ε γ → Prop where
  | error (e : ε) : Related R (.error e) (.error e)
  | ok {b : β} {c : γ} (h : R b c) : Related R (.ok b) (.ok c)

theorem Related.refl {R : β → β → Prop} (h : ∀ b, R b b) (x : Except ε β) : Related R x x := by
  cases x with
  | error e => exact .error e
  | ok b => exact .ok (h b)

theorem Related.bind {R : β → γ → Prop} {S : β' → γ' → Prop} {x : Except ε β} {y : Except ε γ}
    {f : β → Except ε β'} {g : γ → Except ε γ'} (h : Related R x y)
    (hf : ∀ b c, R b c → Related S (f b) (g c)) : Related S (x >>= f) (y >>= g) := by
  cases h with
  | error e => exact .error e
  | ok h => exact hf _ _ h

end

end Runs
