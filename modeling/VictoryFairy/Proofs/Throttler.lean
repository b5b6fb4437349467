import VictoryFairy.Model.Throttler

/-!
# Windows of the throttler

`INCR` makes the counter and `EXPIRE` bounds its life, and only the call that was answered
`1` sends the second.  While it has not, no other call can be answered `1`; when it fails,
none ever will.

    ThrottleInv             : what the counter, the calls and the lives of the key agree on
    step_throttleInv        : every event keeps it, unless an `EXPIRE` fails
    expire_fails            : which leaves a counter without expiry
    stuck_forever           : and in the end blocks the client for good
    throttle_windows_iff    : the windows open and close exactly when none fails
-/

namespace VictoryFairy

open Runs

/-! ## The lives of the key -/

/-- A run with the calls whose `INCR` succeeded, one list for each life of the key, the
latest life first. -/
structure ThrottleHistory where
  state : ThrottleRun
  lives : List (List Nat)

namespace ThrottleHistory

def init : ThrottleHistory := ⟨.init, []⟩

/-- An `INCR` that finds the key belongs to its life, any other one begins the next. -/
def livesAfter (h : ThrottleHistory) : ThrottleEvent → List (List Nat)
  | .incr i false =>
    match h.state.calls[i]?, h.state.live, h.lives with
    | some (.incr _), some _, life :: past => (life ++ [i]) :: past
    | some (.incr _), _, lives => [i] :: lives
    | _, _, lives => lives
  | _ => h.lives

def step (o : ThrottleOptions) (h : ThrottleHistory) (e : ThrottleEvent) : ThrottleHistory :=
  ⟨h.state.step o e, h.livesAfter e⟩

/-- The history is that of the run. -/
theorem run_state (o : ThrottleOptions) (h : ThrottleHistory) (events : List ThrottleEvent) :
    (run (step o) h events).state = run (ThrottleRun.step o) h.state events := by
  induction events generalizing h with
  | nil => rfl
  | cons e events ih => exact ih (step o h e)

/-- No call is in progress. -/
def Idle (h : ThrottleHistory) : Prop :=
  ∀ call ∈ h.state.calls, (∃ record, call = .returned record) ∨ call = .rejected

/-- No call is between its two commands; a call before its `INCR` has done nothing yet. -/
def Settled (h : ThrottleHistory) : Prop :=
  ∀ i now hits : Nat, h.state.calls[i]? ≠ some (.expire now hits)

theorem Idle.settled {h : ThrottleHistory} (hidle : h.Idle) : h.Settled := by
  intro i now hits hi
  rcases hidle _ (List.mem_of_getElem? hi) with ⟨record, he⟩ | he <;> cases he

/-- The `EXPIRE` of a call that is about to send it does not fail. -/
def ExpireSucceeds (h : ThrottleHistory) (e : ThrottleEvent) : Prop :=
  ∀ i now hits : Nat, h.state.calls[i]? = some (.expire now hits) → e ≠ .expire i true

/-- The counter expires within a `ttl`, the calls of each life were all answered and the first
`limit` of them not blocked, and after a `ttl` without requests the next one is not blocked. -/
structure Windows (o : ThrottleOptions) (h : ThrottleHistory) : Prop where
  bounded : ∀ c, h.state.live = some c →
    ∃ t, c.expireAt = some t ∧ t ≤ h.state.time + o.ttl * 1000
  served : ∀ life ∈ h.lives, ∀ k i : Nat, life[k]? = some i →
    ∃ record, h.state.calls[i]? = some (.returned record) ∧
      (record.isBlocked = false ↔ k < o.limit)
  reopens : ∀ ms, o.ttl * 1000 ≤ ms → ∃ record,
    ((h.state.step o (.elapse ms)).request o).calls[h.state.calls.length]? =
        some (.returned record) ∧
      record.isBlocked = false

end ThrottleHistory

/-- While a call is about to send its `EXPIRE`, it is the only one and the counter has no
expiry; the last life is the counter's, and a call has the number of its `INCR` in its life. -/
structure ThrottleInv (o : ThrottleOptions) (h : ThrottleHistory) : Prop where
  bounded : h.Settled → ∀ c, h.state.live = some c →
    ∃ t, c.expireAt = some t ∧ t ≤ h.state.time + o.ttl * 1000
  waiting : ∀ i now hits : Nat, h.state.calls[i]? = some (.expire now hits) →
    (∃ c, h.state.counter = some c ∧ c.expireAt = none) ∧
      ∀ j now' hits' : Nat, h.state.calls[j]? = some (.expire now' hits') → j = i
  current : ∀ c, h.state.live = some c →
    0 < c.hits ∧ ∃ life past, h.lives = life :: past ∧ life.length = c.hits
  answered : ∀ life ∈ h.lives, ∀ k i : Nat, life[k]? = some i →
    (∃ now, h.state.calls[i]? = some (.expire now (k + 1))) ∨
      ∃ now, h.state.calls[i]? = some (.returned (o.record now (k + 1)))

/-- At least `n` hits, no expiry, and no call about to send one. -/
def Stuck (n : Nat) (s : ThrottleRun) : Prop :=
  (∀ i now hits : Nat, s.calls[i]? ≠ some (.expire now hits)) ∧
    ∃ c, s.counter = some c ∧ c.expireAt = none ∧ 0 < c.hits ∧ n ≤ c.hits

/-! ## The counter -/

namespace ThrottleRun

variable {o : ThrottleOptions}

theorem live_eq_some {s : ThrottleRun} {c : HitCounter} :
    s.live = some c ↔ s.counter = some c ∧ ∀ t, c.expireAt = some t → s.time < t := by
  unfold live
  rw [Option.filter_eq_some_iff, Option.all_eq_true]
  simp

/-- A counter without expiry is there. -/
theorem live_of_unbounded {s : ThrottleRun} {c : HitCounter} (h : s.counter = some c)
    (hnone : c.expireAt = none) : s.live = some c :=
  live_eq_some.2 ⟨h, fun t ht => by rw [hnone] at ht; cases ht⟩

theorem live_elapse {s : ThrottleRun} {ms : Nat} {c : HitCounter}
    (h : (s.step o (.elapse ms)).live = some c) : s.live = some c := by
  obtain ⟨hc, ht⟩ := live_eq_some.1 h
  exact live_eq_some.2 ⟨hc, fun t he => Nat.lt_of_le_of_lt (Nat.le_add_right s.time ms) (ht t he)⟩

theorem step_incr {s : ThrottleRun} {i now : Nat} (h : s.calls[i]? = some (.incr now)) :
    s.step o (.incr i false) =
      { s with
        counter := some s.incremented
        calls := s.calls.set i (o.afterIncr now s.incremented.hits) } := by
  unfold step
  dsimp only
  rw [h]
  rfl

theorem step_expire {s : ThrottleRun} {i now hits : Nat}
    (h : s.calls[i]? = some (.expire now hits)) :
    s.step o (.expire i false) =
      { s with
        counter := s.expired o.ttl
        calls := s.calls.set i (.returned (o.record now hits)) } := by
  unfold step
  dsimp only
  rw [h]
  rfl

/-- The call whose command fails is rejected, and nothing else changes. -/
theorem step_expire_fails {s : ThrottleRun} {i now hits : Nat}
    (h : s.calls[i]? = some (.expire now hits)) :
    s.step o (.expire i true) = { s with calls := s.calls.set i .rejected } := by
  unfold step
  dsimp only
  rw [h]
  rfl

theorem step_incr_fails {s : ThrottleRun} {i now : Nat} (h : s.calls[i]? = some (.incr now)) :
    s.step o (.incr i true) = { s with calls := s.calls.set i .rejected } := by
  unfold step
  dsimp only
  rw [h]
  rfl

theorem step_incr_other {s : ThrottleRun} {i : Nat} {fails : Bool}
    (hi : ∀ now, s.calls[i]? ≠ some (.incr now)) : s.step o (.incr i fails) = s := by
  unfold step
  dsimp only
  split
  · next now hincr => exact absurd hincr (hi now)
  · rfl

theorem step_expire_other {s : ThrottleRun} {i : Nat} {fails : Bool}
    (hi : ∀ now hits, s.calls[i]? ≠ some (.expire now hits)) : s.step o (.expire i fails) = s := by
  unfold step
  dsimp only
  split
  · next now hits hexpire => exact absurd hexpire (hi now hits)
  · rfl

/-- A call that moves on to anything else leaves the other waiting calls. -/
theorem waiting_set {calls : List IncrementCall} {call : IncrementCall} {i j now hits : Nat}
    (hcall : ∀ now hits, call ≠ .expire now hits)
    (hj : (calls.set i call)[j]? = some (.expire now hits)) :
    j ≠ i ∧ calls[j]? = some (.expire now hits) := by
  rcases getElem?_set_cases hj with ⟨-, he⟩ | hother
  · exact absurd he.symm (hcall now hits)
  · exact hother

/-- The call that moves on has not sent its `INCR` before. -/
theorem waiting_set_iff {calls : List IncrementCall} {call : IncrementCall} {i j now now' hits : Nat}
    (hi : calls[i]? = some (.incr now')) (hcall : ∀ now hits, call ≠ .expire now hits) :
    (calls.set i call)[j]? = some (.expire now hits) ↔ calls[j]? = some (.expire now hits) := by
  constructor
  · intro hj
    exact (waiting_set hcall hj).2
  · intro hj
    have hji : i ≠ j := by
      rintro rfl
      cases hi.symm.trans hj
    rw [List.getElem?_set_ne hji]
    exact hj

/-- A request on its own is answered `1` when there is no counter. -/
theorem request_of_missing {s : ThrottleRun} (h : s.live = none) :
    (s.request o).calls[s.calls.length]? = some (.returned (o.record s.time 1)) := by
  have hincr : (s.step o .call).calls[s.calls.length]? = some (.incr s.time) :=
    List.getElem?_concat_length
  have hfirst : (s.step o .call).incremented = { hits := 1, expireAt := none } := by
    unfold incremented
    rw [show (s.step o .call).live = none from h]
  have hexpire : ((s.step o .call).step o (.incr s.calls.length false)).calls[s.calls.length]? =
      some (.expire s.time 1) := by
    rw [step_incr hincr, hfirst]
    exact List.getElem?_set_self (by simp [step])
  unfold request
  rw [run_cons, run_cons, run_cons, run_nil, step_expire hexpire]
  exact List.getElem?_set_self (List.getElem?_eq_some_iff.1 hexpire).1

end ThrottleRun

/-! ## One event -/

namespace ThrottleHistory

variable {o : ThrottleOptions} {h : ThrottleHistory}

theorem step_incr_other {i : Nat} {fails : Bool}
    (hi : ∀ now, h.state.calls[i]? ≠ some (.incr now)) : h.step o (.incr i fails) = h := by
  have hlives : h.livesAfter (.incr i fails) = h.lives := by
    unfold livesAfter
    cases fails with
    | true => rfl
    | false =>
      dsimp only
      split
      · next now c life past hincr _ _ => exact absurd hincr (hi now)
      · next now hincr _ => exact absurd hincr (hi now)
      · rfl
  unfold step
  rw [ThrottleRun.step_incr_other hi, hlives]

theorem step_expire_other {i : Nat} {fails : Bool}
    (hi : ∀ now hits, h.state.calls[i]? ≠ some (.expire now hits)) :
    h.step o (.expire i fails) = h := by
  unfold step
  rw [ThrottleRun.step_expire_other hi]
  rfl

end ThrottleHistory

section

variable {o : ThrottleOptions} {h h' : ThrottleHistory}

/-- Where no call begins to wait and no answer changes. -/
theorem ThrottleInv.congr (hinv : ThrottleInv o h) (hlives : h'.lives = h.lives)
    (hcounter : h'.state.counter = h.state.counter) (htime : h.state.time ≤ h'.state.time)
    (hwaits : ∀ i now hits : Nat, h'.state.calls[i]? = some (.expire now hits) ↔
      h.state.calls[i]? = some (.expire now hits))
    (hreturned : ∀ (i : Nat) (record : ThrottlerStorageRecord), h.state.calls[i]? = some (.returned record) →
      h'.state.calls[i]? = some (.returned record)) : ThrottleInv o h' := by
  have hlive : ∀ c, h'.state.live = some c → h.state.live = some c := by
    intro c hc
    obtain ⟨hc, ht⟩ := ThrottleRun.live_eq_some.1 hc
    exact ThrottleRun.live_eq_some.2
      ⟨hcounter ▸ hc, fun t he => Nat.lt_of_le_of_lt htime (ht t he)⟩
  refine ⟨fun hs c hc => ?_, fun i now hits hi => ?_, fun c hc => ?_, fun life hl k i hk => ?_⟩
  · have hs' : h.Settled := fun i now hits hi => hs i now hits ((hwaits i now hits).2 hi)
    obtain ⟨t, ht, hle⟩ := hinv.bounded hs' c (hlive c hc)
    exact ⟨t, ht, Nat.le_trans hle (Nat.add_le_add_right htime _)⟩
  · obtain ⟨hc, honly⟩ := hinv.waiting i now hits ((hwaits i now hits).1 hi)
    rw [hcounter]
    exact ⟨hc, fun j now' hits' hj => honly j now' hits' ((hwaits j now' hits').1 hj)⟩
  · rw [hlives]
    exact hinv.current c (hlive c hc)
  · rcases hinv.answered life (hlives ▸ hl) k i hk with ⟨now, hi⟩ | ⟨now, hi⟩
    · exact Or.inl ⟨now, (hwaits i now (k + 1)).2 hi⟩
    · exact Or.inr ⟨now, hreturned i _ hi⟩

theorem call_throttleInv (hinv : ThrottleInv o h) : ThrottleInv o (h.step o .call) := by
  have hold : ∀ {i : Nat} {call : IncrementCall}, h.state.calls[i]? = some call →
      (h.state.calls ++ [.incr h.state.time])[i]? = some call := by
    intro i call hi
    rw [List.getElem?_append_left (List.getElem?_eq_some_iff.1 hi).1]
    exact hi
  refine hinv.congr rfl rfl (Nat.le_refl _) (fun i now hits => ⟨fun hi => ?_, hold⟩)
    fun i record hi => hold hi
  rcases getElem?_concat_cases hi with hi | hi
  · exact hi
  · cases hi

/-- A call whose command failed before it had an answer leaves no trace. -/
theorem incr_fails_throttleInv (hinv : ThrottleInv o h) {i now : Nat}
    (hi : h.state.calls[i]? = some (.incr now)) : ThrottleInv o (h.step o (.incr i true)) := by
  have hstate : (h.step o (.incr i true)).state =
      { h.state with calls := h.state.calls.set i .rejected } := ThrottleRun.step_incr_fails hi
  refine hinv.congr rfl (by rw [hstate]) (Nat.le_of_eq (by rw [hstate]))
    (fun j now' hits => ?_) fun j record hj => ?_
  · rw [hstate]
    exact ThrottleRun.waiting_set_iff hi (by simp)
  · have hji : i ≠ j := by
      rintro rfl
      cases hi.symm.trans hj
    rw [hstate, List.getElem?_set_ne hji]
    exact hj

/-- A call that has not sent its `INCR` is in no life. -/
theorem ThrottleInv.ne_of_incr (hinv : ThrottleInv o h) {i now : Nat}
    (hi : h.state.calls[i]? = some (.incr now)) {life : List Nat} (hl : life ∈ h.lives) {k j : Nat}
    (hk : life[k]? = some j) : j ≠ i := by
  rintro rfl
  rcases hinv.answered life hl k j hk with ⟨now', hj⟩ | ⟨now', hj⟩
  · cases hi.symm.trans hj
  · cases hi.symm.trans hj

/-- The answers of the lives so far stay when such a call moves on. -/
theorem ThrottleInv.answered_set (hinv : ThrottleInv o h) {i now : Nat}
    (hi : h.state.calls[i]? = some (.incr now)) (call : IncrementCall) {life : List Nat}
    (hl : life ∈ h.lives) {k j : Nat} (hk : life[k]? = some j) :
    (∃ now, (h.state.calls.set i call)[j]? = some (.expire now (k + 1))) ∨
      ∃ now, (h.state.calls.set i call)[j]? = some (.returned (o.record now (k + 1))) := by
  rw [List.getElem?_set_ne (hinv.ne_of_incr hi hl hk).symm]
  exact hinv.answered life hl k j hk

/-- An `INCR` that finds no counter is answered `1` and begins a life. -/
theorem incr_missing_throttleInv (hinv : ThrottleInv o h) {i now : Nat}
    (hi : h.state.calls[i]? = some (.incr now)) (hlive : h.state.live = none) :
    ThrottleInv o (h.step o (.incr i false)) := by
  have hsettled : h.Settled := by
    intro j now' hits hj
    obtain ⟨⟨c, hc, hnone⟩, -⟩ := hinv.waiting j now' hits hj
    rw [ThrottleRun.live_of_unbounded hc hnone] at hlive
    cases hlive
  have hincr : h.state.incremented = { hits := 1, expireAt := none } := by
    unfold ThrottleRun.incremented
    rw [hlive]
  have hstate : (h.step o (.incr i false)).state =
      { h.state with
        counter := some { hits := 1, expireAt := none }
        calls := h.state.calls.set i (.expire now 1) } := by
    show h.state.step o (.incr i false) = _
    rw [ThrottleRun.step_incr hi, hincr]
    rfl
  have hlives : (h.step o (.incr i false)).lives = [i] :: h.lives := by
    show h.livesAfter (.incr i false) = _
    unfold ThrottleHistory.livesAfter
    simp only [hi, hlive]
  have hself : (h.state.calls.set i (.expire now 1))[i]? = some (.expire now 1) :=
    List.getElem?_set_self (List.getElem?_eq_some_iff.1 hi).1
  have honly : ∀ j now' hits' : Nat,
      (h.state.calls.set i (.expire now 1))[j]? = some (.expire now' hits') → j = i := by
    intro j now' hits' hj
    rcases getElem?_set_cases hj with ⟨he, -⟩ | ⟨-, hj⟩
    · exact he
    · exact absurd hj (hsettled j now' hits')
  refine ⟨fun hs => ?_, fun j now' hits hj => ?_, fun c hc => ?_, fun life hl k j hk => ?_⟩
  · rw [ThrottleHistory.Settled, hstate] at hs
    exact absurd hself (hs i now 1)
  · rw [hstate] at hj ⊢
    exact ⟨⟨_, rfl, rfl⟩, fun j' now'' hits'' hj' => (honly j' _ _ hj').trans (honly j _ _ hj).symm⟩
  · rw [hstate] at hc
    cases (ThrottleRun.live_eq_some.1 hc).1
    exact ⟨Nat.one_pos, [i], h.lives, hlives, rfl⟩
  · rw [hlives] at hl
    rw [hstate]
    rcases List.mem_cons.1 hl with rfl | hold
    · cases k with
      | zero =>
        cases hk
        exact Or.inl ⟨now, hself⟩
      | succ k => cases hk
    · exact hinv.answered_set hi (.expire now 1) hold hk

/-- An `INCR` that finds the counter has the next number of its life. -/
theorem incr_live_throttleInv (hinv : ThrottleInv o h) {i now : Nat}
    (hi : h.state.calls[i]? = some (.incr now)) {c : HitCounter} (hlive : h.state.live = some c) :
    ThrottleInv o (h.step o (.incr i false)) := by
  obtain ⟨hpos, life, past, hbefore, hlen⟩ := hinv.current c hlive
  have hincr : h.state.incremented = { c with hits := c.hits + 1 } := by
    unfold ThrottleRun.incremented
    rw [hlive]
  have hafter : o.afterIncr now (c.hits + 1) = .returned (o.record now (c.hits + 1)) :=
    if_neg (by omega)
  have hstate : (h.step o (.incr i false)).state =
      { h.state with
        counter := some { c with hits := c.hits + 1 }
        calls := h.state.calls.set i (.returned (o.record now (c.hits + 1))) } := by
    show h.state.step o (.incr i false) = _
    rw [ThrottleRun.step_incr hi, hincr, hafter]
  have hlives : (h.step o (.incr i false)).lives = (life ++ [i]) :: past := by
    show h.livesAfter (.incr i false) = _
    unfold ThrottleHistory.livesAfter
    simp only [hi, hlive, hbefore]
  have hwaits : ∀ {j now' hits' : Nat},
      (h.state.calls.set i (.returned (o.record now (c.hits + 1))))[j]? = some (.expire now' hits') ↔
        h.state.calls[j]? = some (.expire now' hits') :=
    ThrottleRun.waiting_set_iff hi (by simp)
  refine ⟨fun hs c' hc => ?_, fun j now' hits hj => ?_, fun c' hc => ?_, fun l hl k j hk => ?_⟩
  · rw [hstate] at hc ⊢
    cases (ThrottleRun.live_eq_some.1 hc).1
    refine hinv.bounded (fun j now' hits' hj => ?_) c hlive
    rw [ThrottleHistory.Settled, hstate] at hs
    exact hs j now' hits' (hwaits.2 hj)
  · rw [hstate] at hj ⊢
    obtain ⟨⟨c₀, hc₀, hnone⟩, honly⟩ := hinv.waiting j now' hits (hwaits.1 hj)
    cases (ThrottleRun.live_of_unbounded hc₀ hnone).symm.trans hlive
    exact ⟨⟨_, rfl, hnone⟩, fun j' now'' hits'' hj' => honly j' now'' hits'' (hwaits.1 hj')⟩
  · rw [hstate] at hc
    cases (ThrottleRun.live_eq_some.1 hc).1
    exact ⟨Nat.succ_pos _, life ++ [i], past, hlives, by simp [hlen]⟩
  · rw [hlives] at hl
    rw [hstate]
    have hold := fun {l' : List Nat} (hl' : l' ∈ h.lives) (hk' : l'[k]? = some j) =>
      hinv.answered_set hi (.returned (o.record now (c.hits + 1))) hl' hk'
    rcases List.mem_cons.1 hl with rfl | hpast
    · by_cases hlt : k < life.length
      · rw [List.getElem?_append_left hlt] at hk
        exact hold (by rw [hbefore]; exact List.mem_cons_self) hk
      · obtain rfl : k = c.hits := by
          have hk' := (List.getElem?_eq_some_iff.1 hk).1
          simp only [List.length_append, List.length_singleton] at hk'
          omega
        rw [← hlen, List.getElem?_concat_length] at hk
        cases hk
        exact Or.inr ⟨now, List.getElem?_set_self (List.getElem?_eq_some_iff.1 hi).1⟩
    · exact hold (by rw [hbefore]; exact List.mem_cons_of_mem life hpast) hk

/-- The `EXPIRE` bounds the counter. -/
theorem expire_throttleInv (hinv : ThrottleInv o h) {i now hits : Nat}
    (hi : h.state.calls[i]? = some (.expire now hits)) :
    ThrottleInv o (h.step o (.expire i false)) := by
  obtain ⟨⟨c, hc, hnone⟩, honly⟩ := hinv.waiting i now hits hi
  have hlive := ThrottleRun.live_of_unbounded hc hnone
  have hstate : (h.step o (.expire i false)).state =
      { h.state with
        counter := some { c with expireAt := some (h.state.time + o.ttl * 1000) }
        calls := h.state.calls.set i (.returned (o.record now hits)) } := by
    show h.state.step o (.expire i false) = _
    rw [ThrottleRun.step_expire hi]
    unfold ThrottleRun.expired
    rw [hlive]
    rfl
  have hsettled : (h.step o (.expire i false)).Settled := by
    intro j now' hits' hj
    rw [hstate] at hj
    obtain ⟨hne, hj⟩ := ThrottleRun.waiting_set (by simp) hj
    exact hne (honly j now' hits' hj)
  refine ⟨fun _ c' hc' => ?_, fun j now' hits' hj => ?_, fun c' hc' => ?_, fun life hl k j hk => ?_⟩
  · rw [hstate] at hc' ⊢
    cases (ThrottleRun.live_eq_some.1 hc').1
    exact ⟨_, rfl, Nat.le_refl _⟩
  · exact absurd hj (hsettled j now' hits')
  · rw [hstate] at hc'
    cases (ThrottleRun.live_eq_some.1 hc').1
    exact hinv.current c hlive
  · rw [hstate]
    have hanswered := hinv.answered life hl k j hk
    by_cases hji : j = i
    · subst hji
      rcases hanswered with ⟨now', hj⟩ | ⟨now', hj⟩
      · cases hi.symm.trans hj
        exact Or.inr ⟨now, List.getElem?_set_self (List.getElem?_eq_some_iff.1 hi).1⟩
      · cases hi.symm.trans hj
    · rw [List.getElem?_set_ne (Ne.symm hji)]
      exact hanswered

/-- Unless an `EXPIRE` fails, every event keeps the invariant. -/
theorem step_throttleInv (hinv : ThrottleInv o h) {e : ThrottleEvent} (he : h.ExpireSucceeds e) :
    ThrottleInv o (h.step o e) := by
  cases e with
  | call => exact call_throttleInv hinv
  | elapse ms => exact hinv.congr rfl rfl (Nat.le_add_right _ ms) (fun _ _ _ => Iff.rfl) fun _ _ h => h
  | incr i fails =>
    by_cases hi : ∃ now, h.state.calls[i]? = some (.incr now)
    · obtain ⟨now, hi⟩ := hi
      cases fails with
      | true => exact incr_fails_throttleInv hinv hi
      | false =>
        cases hlive : h.state.live with
        | none => exact incr_missing_throttleInv hinv hi hlive
        | some c => exact incr_live_throttleInv hinv hi hlive
    · rw [ThrottleHistory.step_incr_other fun now hn => hi ⟨now, hn⟩]
      exact hinv
  | expire i fails =>
    by_cases hi : ∃ now hits, h.state.calls[i]? = some (.expire now hits)
    · obtain ⟨now, hits, hi⟩ := hi
      cases fails with
      | true => exact absurd rfl (he i now hits hi)
      | false => exact expire_throttleInv hinv hi
    · rw [ThrottleHistory.step_expire_other fun now hits hn => hi ⟨now, hits, hn⟩]
      exact hinv

/-- A call whose `EXPIRE` fails leaves a counter without expiry, and nobody to bound it. -/
theorem expire_fails (hinv : ThrottleInv o h) {i now hits : Nat}
    (hi : h.state.calls[i]? = some (.expire now hits)) :
    Stuck 1 (h.step o (.expire i true)).state := by
  obtain ⟨⟨c, hc, hnone⟩, honly⟩ := hinv.waiting i now hits hi
  have hpos := (hinv.current c (ThrottleRun.live_of_unbounded hc hnone)).1
  have hstate : (h.step o (.expire i true)).state =
      { h.state with calls := h.state.calls.set i .rejected } := ThrottleRun.step_expire_fails hi
  rw [hstate]
  refine ⟨fun j now' hits' hj => ?_, c, hc, hnone, hpos, hpos⟩
  obtain ⟨hne, hj⟩ := ThrottleRun.waiting_set (by simp) hj
  exact hne (honly j now' hits' hj)

/-- Between the commands of no call, the windows are open. -/
theorem ThrottleInv.windows (hinv : ThrottleInv o h) (hlimit : 0 < o.limit) (hs : h.Settled) :
    h.Windows o := by
  refine ⟨hinv.bounded hs, fun life hl k i hk => ?_, fun ms hms => ?_⟩
  · rcases hinv.answered life hl k i hk with ⟨now, hi⟩ | ⟨now, hi⟩
    · exact absurd hi (hs i now (k + 1))
    · refine ⟨o.record now (k + 1), hi, ?_⟩
      show decide (k + 1 > o.limit) = false ↔ k < o.limit
      rw [decide_eq_false_iff_not]
      omega
  · have hgone : (h.state.step o (.elapse ms)).live = none := by
      refine Option.eq_none_iff_forall_not_mem.2 fun c hc => ?_
      obtain ⟨t, ht, hle⟩ := hinv.bounded hs c (ThrottleRun.live_elapse hc)
      have hlt : h.state.time + ms < t := (ThrottleRun.live_eq_some.1 hc).2 t ht
      omega
    refine ⟨_, ThrottleRun.request_of_missing hgone, ?_⟩
    show decide (1 > o.limit) = false
    rw [decide_eq_false_iff_not]
    omega

end

/-! ## The windows -/

theorem init_throttleInv (o : ThrottleOptions) : ThrottleInv o .init :=
  ⟨nofun, nofun, nofun, nofun⟩

/-- **Windows open and close.**  In every state of every run in which no call is between its
commands, the counter expires within a `ttl`, exactly the first `limit` calls of each life of
the key are not blocked, and after a `ttl` without requests nobody is, exactly when the limit is
not `0` and no `EXPIRE` fails. -/
theorem throttle_windows_iff (o : ThrottleOptions) (events : List ThrottleEvent) :
    Always (ThrottleHistory.step o) (fun h => h.Settled → h.Windows o) .init events ↔
      0 < o.limit ∧ Guarded (ThrottleHistory.step o) ThrottleHistory.ExpireSucceeds .init events := by
  by_cases hlimit : 0 < o.limit
  · rw [and_iff_right hlimit]
    refine always_iff_guarded_of_breaks (I := ThrottleInv o) (fun h hinv => hinv.windows hlimit)
      (fun h e hinv he => step_throttleInv hinv he) (fun h e hinv he hopen => ?_)
      (init_throttleInv o) events
    obtain ⟨i, now, hits, hi, rfl⟩ : ∃ i now hits : Nat,
        h.state.calls[i]? = some (.expire now hits) ∧ e = .expire i true := by
      by_contra hno
      exact he fun i now hits hi hexpire => hno ⟨i, now, hits, hi, hexpire⟩
    obtain ⟨hsettled, c, hc, hnone, -⟩ := expire_fails hinv hi
    obtain ⟨t, ht, -⟩ := (hopen hsettled).bounded c (ThrottleRun.live_of_unbounded hc hnone)
    rw [hnone] at ht
    cases ht
  · refine iff_of_false (fun hopen => ?_) fun hc => hlimit hc.1
    -- with the limit `0` the first request is blocked
    obtain ⟨record, hrecord, hfree⟩ := (hopen.head nofun).reopens (o.ttl * 1000) (Nat.le_refl _)
    have hfirst := ThrottleRun.request_of_missing (o := o)
      (s := ThrottleRun.init.step o (.elapse (o.ttl * 1000))) rfl
    cases hfirst.symm.trans hrecord
    have hblocked : decide (1 > o.limit) = false := hfree
    rw [decide_eq_false_iff_not] at hblocked
    omega

/-! ## Without an expiry -/

section

variable {o : ThrottleOptions} {n : Nat} {s : ThrottleRun}

theorem Stuck.mono (hs : Stuck n s) {m : Nat} (hm : m ≤ n) : Stuck m s := by
  obtain ⟨hnone, c, hc, hexpire, hpos, hn⟩ := hs
  exact ⟨hnone, c, hc, hexpire, hpos, Nat.le_trans hm hn⟩

/-- An `INCR` counts, and its answer is never `1` again. -/
theorem Stuck.incr (hs : Stuck n s) {i now : Nat} (hi : s.calls[i]? = some (.incr now)) :
    Stuck (n + 1) (s.step o (.incr i false)) ∧
      ∃ hits, n < hits ∧
        (s.step o (.incr i false)).calls[i]? = some (.returned (o.record now hits)) := by
  obtain ⟨c, hc, hnone, hpos, hn⟩ := hs.2
  have hincr : s.incremented = { c with hits := c.hits + 1 } := by
    unfold ThrottleRun.incremented
    rw [ThrottleRun.live_of_unbounded hc hnone]
  have hafter : o.afterIncr now (c.hits + 1) = .returned (o.record now (c.hits + 1)) :=
    if_neg (by omega)
  rw [ThrottleRun.step_incr hi, hincr, hafter]
  have hstuck : Stuck (n + 1) { s with
      counter := some { c with hits := c.hits + 1 }
      calls := s.calls.set i (.returned (o.record now (c.hits + 1))) } := by
    refine ⟨fun j now' hits hj => ?_, _, rfl, hnone, Nat.succ_pos _, Nat.succ_le_succ hn⟩
    exact hs.1 j now' hits (ThrottleRun.waiting_set (by simp) hj).2
  exact ⟨hstuck, c.hits + 1, Nat.lt_succ_of_le hn,
    List.getElem?_set_self (List.getElem?_eq_some_iff.1 hi).1⟩

theorem Stuck.rejected (hs : Stuck n s) (i : Nat) :
    Stuck n { s with calls := s.calls.set i .rejected } := by
  obtain ⟨hnone, hcounter⟩ := hs
  refine ⟨fun j now hits hj => ?_, hcounter⟩
  exact hnone j now hits (ThrottleRun.waiting_set (by simp) hj).2

theorem Stuck.step (hs : Stuck n s) (e : ThrottleEvent) : Stuck n (s.step o e) := by
  cases e with
  | call =>
    refine ⟨fun i now hits hi => ?_, hs.2⟩
    rcases getElem?_concat_cases hi with hi | hi
    · exact hs.1 i now hits hi
    · cases hi
  | elapse ms => exact hs
  | incr i fails =>
    by_cases hi : ∃ now, s.calls[i]? = some (.incr now)
    · obtain ⟨now, hi⟩ := hi
      cases fails with
      | true =>
        rw [ThrottleRun.step_incr_fails hi]
        exact hs.rejected i
      | false => exact (hs.incr hi).1.mono (Nat.le_succ n)
    · rw [ThrottleRun.step_incr_other fun now hn => hi ⟨now, hn⟩]
      exact hs
  | expire i fails =>
    rw [ThrottleRun.step_expire_other (hs.1 i)]
    exact hs

/-- **Blocked for good.**  A client whose counter is stuck at the limit is blocked after any
events, however much time passes. -/
theorem stuck_forever (hs : Stuck o.limit s) (events : List ThrottleEvent) :
    ∃ record, ((run (ThrottleRun.step o) s events).request o).calls[
        (run (ThrottleRun.step o) s events).calls.length]? = some (.returned record) ∧
      record.isBlocked = true := by
  have hkeeps : ∀ t e, Stuck o.limit t → Stuck o.limit (ThrottleRun.step o t e) :=
    fun t e ht => ht.step e
  have hlast := (always_of_step hkeeps hs events).last
  generalize run (ThrottleRun.step o) s events = t at hlast ⊢
  have hincr : (t.step o .call).calls[t.calls.length]? = some (.incr t.time) :=
    List.getElem?_concat_length
  obtain ⟨hstuck, hits, hlt, hreturned⟩ := (hlast.step (o := o) .call).incr (o := o) hincr
  refine ⟨o.record t.time hits, ?_, decide_eq_true hlt⟩
  unfold ThrottleRun.request
  rw [run_cons, run_cons, run_cons, run_nil, ThrottleRun.step_expire_other (hstuck.1 _)]
  exact hreturned

end

/-! ## The throttler of the application -/

/-- `ttl: 60, limit: 120` -/
def appThrottle : ThrottleOptions := { ttl := 60, limit := 120, blockDuration := 60 }

/-- The first call's `EXPIRE` fails: it is rejected, no call is in progress, and the counter has
no expiry. -/
theorem throttle_unbounded :
    ¬ Always (ThrottleHistory.step appThrottle) (fun h => h.Idle → h.Windows appThrottle) .init
      [.call, .incr 0 false, .expire 0 true] := by
  intro h
  have hidle : (run (ThrottleHistory.step appThrottle) .init
      [.call, .incr 0 false, .expire 0 true]).Idle := by
    intro call hcall
    exact Or.inr (List.mem_singleton.1 hcall)
  obtain ⟨t, ht, -⟩ := (h.last hidle).bounded ⟨1, none⟩ rfl
  cases ht

end VictoryFairy
