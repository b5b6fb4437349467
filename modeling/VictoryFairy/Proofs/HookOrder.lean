import VictoryFairy.Proofs.Rankings
import VictoryFairy.Model.Hooks

/-!
# Hooks that write in the order of their reads

A hook may write scores that are older than the ones already there.  When no hook
writes after a hook that has read a later rank table, the last writer has read the
final one, and the user's scores are those of the final rank table.

    step_hookInv   : one event keeps the invariant, when a write is in order
    hooks_in_order : hence no stale score is left once every hook has finished
    hook_alone     : with nothing in between, the hook is that of the request
-/

namespace VictoryFairy

open Runs

/-! ## What a request commits -/

/-- A request saves rank rows of its user, and none when it leaves the rankings alone. -/
theorem RegistrationRequest.commit_ok {userId : Nat} {db db' : Db} {r : RegistrationRequest}
    {refresh : Bool} (h : r.commit userId db = .ok (db', refresh)) :
    ∃ db1 rows, db1.ranks = db.ranks ∧ RankWrites db1 db' rows ∧
      (∀ row ∈ rows, row.user = userId) ∧ (refresh = false → rows = []) := by
  unfold commit at h
  cases r with
  | register dto newId =>
    obtain ⟨⟨db2, response⟩, hok, h⟩ := bind_eq_ok.1 h
    cases h
    obtain ⟨db1, rows, hr, -, -, hw, hrows⟩ := register_writes hok
    exact ⟨db1, rows, hr, hw, fun row hm => (hrows row hm).1, nofun⟩
  | update id dto =>
    obtain ⟨⟨db2, result⟩, hok, h⟩ := bind_eq_ok.1 h
    cases h
    obtain ⟨db1, rows, hr, -, -, hw, hnil, hrows⟩ := update_writes hok
    exact ⟨db1, rows, hr, hw, fun row hm => (hrows row hm).1, hnil⟩
  | delete id =>
    obtain ⟨⟨db2, result⟩, hok, h⟩ := bind_eq_ok.1 h
    cases h
    obtain ⟨db1, rows, hr, -, -, hw, hnil, hrows⟩ := delete_writes hok
    exact ⟨db1, rows, hr, hw, fun row hm => (hrows row hm).1, fun hf => hnil (by simpa using hf)⟩

/-- **A hook alone.**  With nothing in between, read and write are the hook of the request. -/
theorem hook_alone (userId : Nat) (db : Db) (redis : Redis) :
    (run (HookRun.step userId) ⟨db, redis, [.pending]⟩ [.read 0, .write 0]).redis =
      rankingHook db redis userId := by
  rw [run_cons, run_cons, run_nil]
  unfold rankingHook
  simp only [HookRun.step, List.getElem?_cons_zero, List.set_cons_zero]
  cases aggregateRankStatsByUserId db userId with
  | none => rfl
  | some data => rfl

/-! ## The invariant -/

/-- A write does not come after the write of a hook that has read a later rank table. -/
def WritesInOrder (s : HookRun) : HookEvent → Prop
  | .write i => ∀ version data, s.hooks[i]? = some (.read version data) →
      ∀ (j : Nat) newer, s.hooks[j]? = some (.written newer) → newer ≤ version
  | _ => True

/-- The version a hook has read. -/
def Hook.version : Hook → Option Nat
  | .pending => none
  | .read version _ => some version
  | .written version => some version

def HookRun.AllWritten (s : HookRun) : Prop := ∀ h ∈ s.hooks, ∃ version, h = .written version

structure HookInv (userId : Nat) (s : HookRun) : Prop where
  /-- a hook reads after its own commit -/
  version : ∀ (i : Nat) h v, s.hooks[i]? = some h → h.version = some v → i + 1 ≤ v ∧ v ≤ s.hooks.length
  /-- what a hook has read: no key the table has not, and the table itself when nothing
  has been committed since -/
  data : ∀ (i : Nat) v d, s.hooks[i]? = some (.read v d) → ∃ db, d = aggregateRankStatsByUserId db userId ∧
    (∀ k, score s.db userId k = none → score db userId k = none) ∧
    (v = s.hooks.length → ∀ k, score db userId k = score s.db userId k)
  keys : ∀ k, score s.db userId k = none → s.redis.zscore k userId = none
  latest : (s.hooks = [] ∨ ∃ i : Nat, s.hooks[i]? = some (.written s.hooks.length)) →
    ∀ k, s.redis.zscore k userId = score s.db userId k

/-- Once every hook has written, the scores are those of the table. -/
theorem HookInv.final {userId : Nat} {s : HookRun} (h : HookInv userId s) (hall : s.AllWritten)
    (k : RankingKey) : s.redis.zscore k userId = score s.db userId k := by
  refine h.latest ?_ k
  by_cases hnil : s.hooks = []
  · exact Or.inl hnil
  · -- the hook of the last commit has read the last version
    have hlt : s.hooks.length - 1 < s.hooks.length := by
      have := List.length_pos_of_ne_nil hnil
      omega
    obtain ⟨v, hv⟩ := hall _ (List.getElem_mem hlt)
    have hget := List.getElem?_eq_getElem hlt
    rw [hv] at hget
    obtain ⟨hge, hle⟩ := h.version _ _ v hget rfl
    have hlast : v = s.hooks.length := by omega
    rw [hlast] at hget
    exact Or.inr ⟨_, hget⟩

/-! ## One event -/

theorem request_hookInv {userId : Nat} {s : HookRun} (h : HookInv userId s) {db' : Db}
    {refresh : Bool} {r : RegistrationRequest} (hok : r.commit userId s.db = .ok (db', refresh)) :
    HookInv userId
      { s with db := db', hooks := if refresh then s.hooks ++ [.pending] else s.hooks } := by
  obtain ⟨db1, rows, hr, hw, hrows, hnil⟩ := r.commit_ok hok
  have hgrow : ∀ k, score db' userId k = none → score s.db userId k = none := fun k hk => by
    rw [← score_congr hr]
    exact (hw.scores hrows).2 k hk
  cases refresh with
  | false =>
    have hsame : ∀ k, score db' userId k = score s.db userId k := fun k => by
      rw [score_congr (hw.ranks_of_nil (hnil rfl)), score_congr hr]
    refine ⟨h.version, fun i v d hi => ?_, fun k hk => h.keys k (hgrow k hk), fun hl k => ?_⟩
    · obtain ⟨db, hd, hkeys, hlatest⟩ := h.data i v d hi
      exact ⟨db, hd, fun k hk => hkeys k (hgrow k hk),
        fun hv k => (hlatest hv k).trans (hsame k).symm⟩
    · exact (h.latest hl k).trans (hsame k).symm
  | true =>
    have hlen : (s.hooks ++ [Hook.pending]).length = s.hooks.length + 1 := List.length_append
    refine ⟨fun i g v hi hv => ?_, fun i v d hi => ?_, fun k hk => h.keys k (hgrow k hk), fun hl => ?_⟩
    · simp only [if_true] at hi ⊢
      rcases getElem?_concat_cases hi with hi | rfl
      · have := h.version i g v hi hv
        omega
      · cases hv
    · simp only [if_true] at hi ⊢
      rcases getElem?_concat_cases hi with hi | hp
      · obtain ⟨db, hd, hkeys, -⟩ := h.data i v d hi
        have hle := (h.version i _ v hi rfl).2
        refine ⟨db, hd, fun k hk => hkeys k (hgrow k hk), fun hv => ?_⟩
        omega
      · cases hp
    · simp only [if_true] at hl
      rcases hl with hl | ⟨i, hi⟩
      · exact absurd hl (by simp)
      · rcases getElem?_concat_cases hi with hi | hp
        · have := (h.version i _ _ hi rfl).2
          omega
        · cases hp

theorem read_hookInv {userId : Nat} {s : HookRun} (h : HookInv userId s) {i : Nat}
    (hi : s.hooks[i]? = some .pending) :
    HookInv userId { s with
      hooks := s.hooks.set i (.read s.hooks.length (aggregateRankStatsByUserId s.db userId)) } := by
  obtain ⟨hlt, -⟩ := List.getElem?_eq_some_iff.1 hi
  refine ⟨fun j g v hj hv => ?_, fun j v d hj => ?_, h.keys, fun hl => h.latest ?_⟩
  · rw [List.length_set]
    rcases getElem?_set_cases hj with ⟨rfl, rfl⟩ | ⟨-, hj⟩
    · cases hv
      omega
    · exact h.version j g v hj hv
  · rw [List.length_set]
    rcases getElem?_set_cases hj with ⟨-, hg⟩ | ⟨-, hj⟩
    · cases hg
      exact ⟨s.db, rfl, fun k hk => hk, fun _ k => rfl⟩
    · exact h.data j v d hj
  · rw [List.length_set] at hl
    rcases hl with hl | ⟨j, hj⟩
    · exact Or.inl ((List.set_eq_nil_iff _ _).1 hl)
    · rcases getElem?_set_cases hj with ⟨-, hg⟩ | ⟨-, hj⟩
      · cases hg
      · exact Or.inr ⟨j, hj⟩

theorem write_hookInv {userId : Nat} {s : HookRun} (h : HookInv userId s) {i version : Nat}
    {data : Option AggregatedRankStats} (hi : s.hooks[i]? = some (.read version data))
    (horder : ∀ (j : Nat) newer, s.hooks[j]? = some (.written newer) → newer ≤ version) :
    HookInv userId { s with
      redis := data.elim s.redis (s.redis.updateRankings userId)
      hooks := s.hooks.set i (.written version) } := by
  obtain ⟨hlt, -⟩ := List.getElem?_eq_some_iff.1 hi
  obtain ⟨hge, hle⟩ := h.version i _ version hi rfl
  obtain ⟨db, rfl, hkeys, hlatest⟩ := h.data i version data hi
  have hredis : (aggregateRankStatsByUserId db userId).elim s.redis (s.redis.updateRankings userId) =
      rankingHook db s.redis userId := by
    unfold rankingHook
    cases aggregateRankStatsByUserId db userId <;> rfl
  have hzscore : ∀ k, (rankingHook db s.redis userId).zscore k userId =
      (score db userId k).or (s.redis.zscore k userId) := fun k => by
    rw [zscore_rankingHook, if_pos rfl]
    rfl
  rw [hredis]
  refine ⟨fun j g v hj hv => ?_, fun j v d hj => ?_, fun k hk => ?_, fun hl k => ?_⟩
  · rw [List.length_set]
    rcases getElem?_set_cases hj with ⟨rfl, rfl⟩ | ⟨-, hj⟩
    · cases hv
      exact ⟨hge, hle⟩
    · exact h.version j g v hj hv
  · rw [List.length_set]
    rcases getElem?_set_cases hj with ⟨-, hg⟩ | ⟨-, hj⟩
    · cases hg
    · exact h.data j v d hj
  · rw [hzscore, hkeys k hk, h.keys k hk]
    rfl
  · -- a hook has written the last version, so this one has read it too
    have hversion : version = s.hooks.length := by
      rw [List.length_set] at hl
      rcases hl with hl | ⟨j, hj⟩
      · rw [(List.set_eq_nil_iff _ _).1 hl] at hlt
        exact absurd hlt (Nat.not_lt_zero _)
      · rcases getElem?_set_cases hj with ⟨-, hg⟩ | ⟨-, hj⟩
        · exact (Hook.written.inj hg).symm
        · exact Nat.le_antisymm hle (horder j _ hj)
    rw [hzscore, hlatest hversion k]
    cases hs : score s.db userId k with
    | none => exact h.keys k hs
    | some n => rfl

theorem step_hookInv {userId : Nat} (s : HookRun) (e : HookEvent) (h : HookInv userId s)
    (horder : WritesInOrder s e) : HookInv userId (s.step userId e) := by
  cases e with
  | request r =>
    unfold HookRun.step
    dsimp only
    cases hok : r.commit userId s.db with
    | error e => exact h
    | ok p => exact request_hookInv h hok
  | outcomes f =>
    have hsame : ∀ k, score (s.db.setOutcomes f) userId k = score s.db userId k :=
      fun k => score_congr rfl userId k
    refine ⟨h.version, fun i v d hi => ?_, fun k hk => h.keys k ((hsame k).symm.trans hk),
      fun hl k => (h.latest hl k).trans (hsame k).symm⟩
    obtain ⟨db, hd, hkeys, hlatest⟩ := h.data i v d hi
    exact ⟨db, hd, fun k hk => hkeys k ((hsame k).symm.trans hk),
      fun hv k => (hlatest hv k).trans (hsame k).symm⟩
  | read i =>
    unfold HookRun.step
    dsimp only
    split
    · next hi => exact read_hookInv h hi
    · exact h
  | write i =>
    unfold HookRun.step
    dsimp only
    split
    · next version data hi => exact write_hookInv h hi fun j newer hj => horder version data hi j newer hj
    · exact h

/-- **No stale rankings.**  Redis holds the user's scores at the start.  In a run whose
hooks write in the order of their reads, whenever every hook has finished, the user's
scores in all rankings are those of the rank table. -/
theorem hooks_in_order (userId : Nat) (db : Db) (redis : Redis)
    (hstart : ∀ k, redis.zscore k userId = score db userId k) (events : List HookEvent)
    (horder : Guarded (HookRun.step userId) WritesInOrder ⟨db, redis, []⟩ events) :
    Always (HookRun.step userId)
      (fun s => s.AllWritten → ∀ k, s.redis.zscore k userId = score s.db userId k)
      ⟨db, redis, []⟩ events := by
  have hinit : HookInv userId ⟨db, redis, []⟩ :=
    ⟨nofun, nofun, fun k hk => (hstart k).trans hk, fun _ => hstart⟩
  exact (always_of_guarded step_hookInv hinit horder).imp fun s h hall k => h.final hall k

/-- Two won games, and no rank row yet. -/
def twoWins : Db :=
  leagueDb.withGames ((Table.empty.save wonGame).save { wonGame with id := "20250602HHLG0" })

def registerWin (gameId : String) (newId : Nat) : HookEvent :=
  .request (.register ⟨none, "A1", "good", gameId, 1⟩ newId)

theorem twoWins_score (k : RankingKey) : Redis.empty.zscore k 7 = score twoWins 7 k := by
  cases k with
  | team t =>
    refine (score_team_none.2 fun row hrow => ?_).symm
    cases hrow
  | total => rfl

/-- Both hooks have read before the first one writes; the second one writes after it. -/
theorem hooks_in_order_twoWins :
    Always (HookRun.step 7)
      (fun s => s.AllWritten → ∀ k, s.redis.zscore k 7 = score s.db 7 k) ⟨twoWins, .empty, []⟩
      [registerWin "20250601HHLG0" 1, .read 0, registerWin "20250602HHLG0" 2, .read 1,
       .write 0, .write 1] := by
  refine hooks_in_order 7 twoWins .empty twoWins_score _
    ⟨trivial, trivial, trivial, trivial, ?_, ?_, trivial⟩
  · intro version data _ j newer hj
    have hmem : Hook.written newer ∈ (run (HookRun.step 7) ⟨twoWins, .empty, []⟩
        [registerWin "20250601HHLG0" 1, .read 0, registerWin "20250602HHLG0" 2, .read 1]).hooks :=
      List.mem_of_getElem? hj
    obtain ⟨data1, data2, hhooks⟩ : ∃ data1 data2, (run (HookRun.step 7) ⟨twoWins, .empty, []⟩
        [registerWin "20250601HHLG0" 1, .read 0, registerWin "20250602HHLG0" 2, .read 1]).hooks =
          [.read 1 data1, .read 2 data2] := ⟨_, _, rfl⟩
    rw [hhooks] at hmem
    simp at hmem
  · -- the first hook has written what it read after one commit, the second one has read after two
    intro version data hi j newer hj
    obtain ⟨data2, hhooks⟩ : ∃ data2, (run (HookRun.step 7) ⟨twoWins, .empty, []⟩
        [registerWin "20250601HHLG0" 1, .read 0, registerWin "20250602HHLG0" 2, .read 1,
         .write 0]).hooks = [.written 1, .read 2 data2] := ⟨_, rfl⟩
    have hversion : (run (HookRun.step 7) ⟨twoWins, .empty, []⟩
        [registerWin "20250601HHLG0" 1, .read 0, registerWin "20250602HHLG0" 2, .read 1,
         .write 0]).hooks[1]? = some (Hook.read version data) := hi
    have hmem : Hook.written newer ∈ (run (HookRun.step 7) ⟨twoWins, .empty, []⟩
        [registerWin "20250601HHLG0" 1, .read 0, registerWin "20250602HHLG0" 2, .read 1,
         .write 0]).hooks := List.mem_of_getElem? hj
    rw [hhooks] at hversion hmem
    cases hversion
    simp at hmem
    omega

/-- The first hook reads before the second request commits and writes after its hook. -/
theorem hooks_out_of_order :
    ¬ Always (HookRun.step 7)
      (fun s => s.AllWritten → ∀ k, s.redis.zscore k 7 = score s.db 7 k) ⟨twoWins, .empty, []⟩
      [registerWin "20250601HHLG0" 1, .read 0, registerWin "20250602HHLG0" 2, .read 1,
       .write 1, .write 0] := by
  intro h
  have hall : (run (HookRun.step 7) ⟨twoWins, .empty, []⟩
      [registerWin "20250601HHLG0" 1, .read 0, registerWin "20250602HHLG0" 2, .read 1,
       .write 1, .write 0]).hooks = [.written 1, .written 2] := by rfl
  have hlast := h.last (fun g hg => by
    rw [hall] at hg
    simp only [List.mem_cons, List.not_mem_nil, or_false] at hg
    rcases hg with rfl | rfl
    · exact ⟨1, rfl⟩
    · exact ⟨2, rfl⟩) .total
  revert hlast
  decide

end VictoryFairy
