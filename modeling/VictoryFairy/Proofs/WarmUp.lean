import VictoryFairy.Model.WarmUp
import VictoryFairy.Proofs.RankingEndpoint
import VictoryFairy.Proofs.Rankings

/-!
# What the warm-up leaves

Every command of a warm-up writes what the database gives, so the order of the commands
does not matter: when all runs are done, Redis has the profile and the scores of every
user, and what the database says nothing about is as it was.

    mem_updateRankingsCommands : the commands of a user are the scores
    Store.exec                 : one right command
    Converging.step            : one step of a warm-up
    warm_up_converges          : what any interleaving ends in
    warm_up_mirrors_iff        : it repairs the rankings unless they had entries too many
    warm_up_serves             : the ranking endpoint goes on answering meanwhile
-/

namespace VictoryFairy

open Runs

/-- The hash of a user after `HSET`. -/
def User.cached (info : UserInfoHash) (user : User) : UserInfoHash :=
  { info with
    id := some user.id, nickname := some user.nickname, profileImage := some user.profileImage }

theorem userInfo_hset (redis : Redis) (user : User) (u : Nat) :
    (redis.saveUsers [user]).userInfo u =
      if u = user.id then user.cached (redis.userInfo u) else redis.userInfo u := by
  show Function.update redis.userInfo user.id (user.cached (redis.userInfo user.id)) u = _
  rw [Function.update_apply]
  split
  · next h => rw [h]
  · rfl

theorem score_eq_some {db : Db} {u : Nat} {data : AggregatedRankStats}
    (h : aggregateRankStatsByUserId db u = some data) {k : RankingKey} {x : Int} :
    score db u k = some x ↔ ∃ vo, data.get k = some vo ∧ vo.getIntegerScoreForRedis = x := by
  unfold score projected
  rw [h]
  exact Option.map_eq_some_iff

/-- The entries of the aggregate are those it has under their keys. -/
theorem get_iff_mem {data : AggregatedRankStats} (hn : (data.map Prod.fst).Nodup) {k : RankingKey}
    {vo : RankScoreVo} : data.get k = some vo ↔ (k, vo) ∈ data := by
  unfold AggregatedRankStats.get
  rw [Option.map_eq_some_iff]
  constructor
  · rintro ⟨e, he, rfl⟩
    obtain rfl : e.1 = k := by simpa using List.find?_some he
    exact List.mem_of_find?_eq_some he
  · intro hmem
    induction data with
    | nil => cases hmem
    | cons e data ih =>
      rw [List.map_cons, List.nodup_cons] at hn
      rw [List.find?_cons]
      rcases List.mem_cons.1 hmem with rfl | hmem
      · exact ⟨(k, vo), by simp, rfl⟩
      · have hne : e.1 ≠ k := fun he => hn.1 (List.mem_map.2 ⟨_, hmem, he.symm⟩)
        simp only [hne, decide_false]
        exact ih hn.2 hmem

/-- The commands of a user write the scores the rank table gives. -/
theorem mem_updateRankingsCommands (db : Db) (u : Nat) (c : RedisCommand) :
    c ∈ (aggregateRankStatsByUserId db u).elim [] (updateRankingsCommands u) ↔
      ∃ k x, c = .zadd k x u ∧ score db u k = some x := by
  cases h : aggregateRankStatsByUserId db u with
  | none =>
    have hnone : ∀ k, score db u k = none := by
      intro k
      unfold score projected
      rw [h]
      rfl
    simp [hnone]
  | some data =>
    have hn := aggregate_keys_nodup h
    unfold updateRankingsCommands
    simp only [Option.elim_some, List.mem_map, score_eq_some h, get_iff_mem hn]
    constructor
    · rintro ⟨e, he, rfl⟩
      exact ⟨e.1, _, rfl, e.2, he, rfl⟩
    · rintro ⟨k, x, rfl, vo, hmem, rfl⟩
      exact ⟨(k, vo), hmem, rfl⟩

/-- A score comes from a rank row. -/
theorem row_of_score {db : Db} {u : Nat} {k : RankingKey} {x : Int} (h : score db u k = some x) :
    ∃ row ∈ db.ranks.rows, row.user = u := by
  by_contra hno
  have hnone : score db u k = none := by
    cases k with
    | team t => exact score_team_none.2 fun row hrow hrow' => hno ⟨row, hrow, hrow'.1⟩
    | total => exact score_total_none.2 fun row hrow hu => hno ⟨row, hrow, hu⟩
  rw [hnone] at h
  cases h

/-! ## One command -/

/-- The command writes what the database gives for a stored user. -/
def Right (db : Db) : RedisCommand → Prop
  | .hset user => user ∈ db.users.rows
  | .zadd k x u => (∃ user ∈ db.users.rows, user.id = u) ∧ score db u k = some x
  | .del _ | .zrem _ _ => False

/-- Every value is the old one or the one of the database. -/
structure Store (db : Db) (old redis : Redis) : Prop where
  zscore : ∀ k u, redis.zscore k u = old.zscore k u ∨
    (∃ user ∈ db.users.rows, user.id = u) ∧ ∃ x, score db u k = some x ∧ redis.zscore k u = some x
  userInfo : ∀ u, redis.userInfo u = old.userInfo u ∨
    ∃ user ∈ db.users.rows, user.id = u ∧ redis.userInfo u = user.cached (old.userInfo u)

/-- The profile of the user is the stored one. -/
def ProfileDone (old redis : Redis) (user : User) : Prop :=
  redis.userInfo user.id = user.cached (old.userInfo user.id)

section

variable {db : Db} {old redis : Redis} {c : RedisCommand}

/-- A profile that is written. -/
theorem Store.saveUser (h : Store db old redis) {user : User} (hc : user ∈ db.users.rows) :
    Store db old (redis.saveUsers [user]) ∧ ProfileDone old (redis.saveUsers [user]) user ∧
      ∀ user' ∈ db.users.rows, ProfileDone old redis user' →
        ProfileDone old (redis.saveUsers [user]) user' := by
  have hdone : user.cached (redis.userInfo user.id) = user.cached (old.userInfo user.id) := by
    rcases h.userInfo user.id with he | ⟨user', hmem, hid, he⟩
    · rw [he]
    · rw [he, Table.eq_of_key hmem hc hid]
      rfl
  have hinfo : ∀ u, (redis.saveUsers [user]).userInfo u =
      if u = user.id then user.cached (old.userInfo u) else redis.userInfo u := by
    intro u
    rw [userInfo_hset]
    split
    · next hu => rw [hu, hdone]
    · rfl
  refine ⟨⟨h.zscore, fun u => ?_⟩, (hinfo user.id).trans (if_pos rfl), fun user' hmem hd => ?_⟩
  · rw [hinfo]
    split
    · next hu => exact Or.inr ⟨user, hc, hu.symm, rfl⟩
    · exact h.userInfo u
  · show (redis.saveUsers [user]).userInfo user'.id = _
    rw [hinfo]
    split
    · next hid => rw [Table.eq_of_key hmem hc hid]
    · exact hd

/-- A score that is written. -/
theorem Store.zadd (h : Store db old redis) {k : RankingKey} {x : Int} {u : Nat}
    (hu : ∃ user ∈ db.users.rows, user.id = u) (hx : score db u k = some x) :
    Store db old (redis.zadd k x u) ∧ (redis.zadd k x u).zscore k u = some x ∧
      ∀ k' u' x', score db u' k' = some x' → redis.zscore k' u' = some x' →
        (redis.zadd k x u).zscore k' u' = some x' := by
  refine ⟨⟨fun k' u' => ?_, h.userInfo⟩, ?_, fun k' u' x' hx' hd => ?_⟩
  · rw [Redis.zscore_zadd]
    split
    · next he =>
      obtain ⟨rfl, rfl⟩ := he
      exact Or.inr ⟨hu, x, hx, rfl⟩
    · exact h.zscore k' u'
  · rw [Redis.zscore_zadd, if_pos ⟨rfl, rfl⟩]
  · rw [Redis.zscore_zadd]
    split
    · next he =>
      obtain ⟨rfl, rfl⟩ := he
      rw [← hx', hx]
    · exact hd

/-- One right command keeps what is written, and writes its own value. -/
theorem Store.exec (h : Store db old redis) (hc : Right db c) :
    Store db old (c.exec redis) ∧
      (∀ user ∈ db.users.rows, ProfileDone old redis user ∨ c = .hset user →
        ProfileDone old (c.exec redis) user) ∧
      ∀ k u x, score db u k = some x → redis.zscore k u = some x ∨ c = .zadd k x u →
        (c.exec redis).zscore k u = some x := by
  cases c with
  | hset user =>
    obtain ⟨hstore, hown, hkeep⟩ := h.saveUser hc
    refine ⟨hstore, fun user' hmem hor => ?_, fun k u x hx hor => ?_⟩
    · rcases hor with hd | hd
      · exact hkeep user' hmem hd
      · cases hd
        exact hown
    · rcases hor with hx' | hx'
      · exact hx'
      · cases hx'
  | zadd k x u =>
    obtain ⟨hstore, hown, hkeep⟩ := h.zadd hc.1 hc.2
    refine ⟨hstore, fun user hmem hor => ?_, fun k' u' x' hx hor => ?_⟩
    · rcases hor with hd | hd
      · exact hd
      · cases hd
    · rcases hor with hx' | hx'
      · exact hkeep k' u' x' hx hx'
      · cases hx'
        exact hown
  | del u => exact absurd hc id
  | zrem k u => exact absurd hc id

end

/-! ## The runs -/

/-- What of a user's scores is not written yet is among the commands. -/
def RankCaching.Covers (db : Db) (redis : Redis) (t : RankCaching) : Prop :=
  ∀ commands, t.commands = some commands → (∀ c ∈ commands, Right db c) ∧
    ∀ k x, score db t.userId k = some x →
      .zadd k x t.userId ∈ commands ∨ redis.zscore k t.userId = some x

/-- The same for a run. -/
def WarmUp.Covers (db : Db) (old redis : Redis) : WarmUp → Prop
  | .connected => True
  | .caching users commands => users = db.users.rows ∧ (∀ c ∈ commands, Right db c) ∧
      ∀ user ∈ users, .hset user ∈ commands ∨ ProfileDone old redis user
  | .ranking tasks => tasks.map RankCaching.userId = db.users.rows.map User.id ∧
      (∀ user ∈ db.users.rows, ProfileDone old redis user) ∧
      ∀ t ∈ tasks, RankCaching.Covers db redis t
  | .ended => db.users.rows = []

namespace WarmUps

/-- Requests do not touch what the warm-up reads. -/
def KeepsTables (s : WarmUps) : WarmUpEvent → Prop
  | .write db => db.users = s.db.users ∧ db.ranks = s.db.ranks
  | _ => True

structure Converging (db : Db) (old : Redis) (s : WarmUps) : Prop where
  users : s.db.users = db.users
  ranks : s.db.ranks = db.ranks
  store : Store db old s.redis
  runs : ∀ r ∈ s.runs, r.Covers db old s.redis

section

variable {db : Db} {old : Redis} {s : WarmUps}

/-- What is covered stays covered while right commands are executed. -/
theorem covers_exec {redis : Redis} {c : RedisCommand} (hs : Store db old redis) (hc : Right db c)
    {r : WarmUp} (h : r.Covers db old redis) : WarmUp.Covers db old (c.exec redis) r := by
  obtain ⟨-, hinfo, hscore⟩ := hs.exec hc
  cases r with
  | connected | ended => exact h
  | caching users commands =>
    obtain ⟨rfl, hright, hdone⟩ := h
    exact ⟨rfl, hright, fun user hmem => (hdone user hmem).imp id fun hd => hinfo user hmem (Or.inl hd)⟩
  | ranking tasks =>
    obtain ⟨hids, hdone, htasks⟩ := h
    refine ⟨hids, fun user hmem => hinfo user hmem (Or.inl (hdone user hmem)), fun t ht => ?_⟩
    refine fun commands hcommands => (htasks t ht commands hcommands).imp id fun hcov k x hx => ?_
    exact (hcov k x hx).imp id fun hz => hscore k t.userId x hx (Or.inl hz)

/-- A run takes its place among the others. -/
theorem forall_set {P : WarmUp → Prop} {runs : List WarmUp} (h : ∀ r ∈ runs, P r) {r : WarmUp}
    (hr : P r) (i : Nat) : ∀ r' ∈ runs.set i r, P r' := by
  intro r' hmem
  rcases List.mem_or_eq_of_mem_set hmem with hmem | rfl
  · exact h r' hmem
  · exact hr

theorem Converging.findUsers (h : Converging db old s) :
    WarmUp.Covers db old s.redis (.initCacheUsers s.db) := by
  unfold WarmUp.initCacheUsers
  rw [h.users]
  dsimp only
  split
  · next hnil => exact hnil
  · refine ⟨rfl, fun c hc => ?_, fun user hmem => Or.inl (List.mem_map_of_mem hmem)⟩
    obtain ⟨user, hmem, rfl⟩ := List.mem_map.1 hc
    exact hmem

theorem Converging.saveUser (h : Converging db old s) (i : Nat) :
    Converging db old (s.saveUser i) := by
  unfold WarmUps.saveUser
  split
  · next users c commands hi =>
    have hcov := h.runs _ (List.mem_of_getElem? hi)
    obtain ⟨husers, hright, hdone⟩ := hcov
    have hc := hright c List.mem_cons_self
    obtain ⟨hstore, hinfo, -⟩ := h.store.exec hc
    have hnew : WarmUp.Covers db old (c.exec s.redis) (.caching users commands) := by
      refine ⟨husers, fun c' hc' => hright c' (List.mem_cons_of_mem c hc'), fun user hmem => ?_⟩
      rcases hdone user hmem with hin | hd
      · rcases List.mem_cons.1 hin with he | hin
        · exact Or.inr (hinfo user (husers ▸ hmem) (Or.inr he.symm))
        · exact Or.inl hin
      · exact Or.inr (hinfo user (husers ▸ hmem) (Or.inl hd))
    exact ⟨h.users, h.ranks, hstore,
      forall_set (fun r hr => covers_exec h.store hc (h.runs r hr)) hnew i⟩
  · exact h

theorem Converging.cachedUsers (h : Converging db old s) (i : Nat) :
    Converging db old (s.cachedUsers i) := by
  unfold WarmUps.cachedUsers
  split
  · next users hi =>
    obtain ⟨rfl, -, hdone⟩ := h.runs _ (List.mem_of_getElem? hi)
    refine ⟨h.users, h.ranks, h.store, forall_set h.runs ?_ i⟩
    unfold WarmUp.initRankCaching
    split
    · next hnil => exact List.map_eq_nil_iff.1 hnil
    · refine ⟨?_, fun user hmem => ?_, fun t ht => ?_⟩
      · rw [List.map_map]
        exact List.map_id _
      · exact (hdone user hmem).resolve_left (by simp)
      · obtain ⟨u, -, rfl⟩ := List.mem_map.1 ht
        exact fun commands hc => by cases hc
  · exact h

/-- Reading the rank table covers the scores of the user. -/
theorem covers_aggregate (h : Converging db old s) {tasks : List RankCaching}
    (hids : tasks.map RankCaching.userId = db.users.rows.map User.id) {t : RankCaching}
    (ht : t ∈ tasks) (hcov : RankCaching.Covers db s.redis t) :
    RankCaching.Covers db s.redis (RankCaching.aggregate s.db t) := by
  have hmem := mem_updateRankingsCommands s.db t.userId
  have hscore : ∀ k, score s.db t.userId k = score db t.userId k := score_congr h.ranks t.userId
  have huser : ∃ user ∈ db.users.rows, user.id = t.userId :=
    List.mem_map.1 (hids ▸ List.mem_map_of_mem (f := RankCaching.userId) ht)
  unfold RankCaching.aggregate
  split
  · intro commands hcommands
    cases hcommands
    refine ⟨fun c hc => ?_, fun k x hx => Or.inl ((hmem _).2 ⟨k, x, rfl, ?_⟩)⟩
    · obtain ⟨k, x, rfl, hx⟩ := (hmem c).1 hc
      exact ⟨huser, (hscore k) ▸ hx⟩
    · rw [hscore]
      exact hx
  · exact hcov

theorem Converging.aggregate (h : Converging db old s) (i j : Nat) :
    Converging db old (s.aggregate i j) := by
  unfold WarmUps.aggregate
  split
  · next tasks hi =>
    obtain ⟨hids, hdone, htasks⟩ := h.runs _ (List.mem_of_getElem? hi)
    have hid : ∀ t, (RankCaching.aggregate s.db t).userId = t.userId := by
      intro t
      unfold RankCaching.aggregate
      split <;> rfl
    have hnew : WarmUp.Covers db old s.redis
        (.ranking (tasks.modify j (RankCaching.aggregate s.db))) := by
      refine ⟨?_, hdone, fun t ht => ?_⟩
      · rw [← hids]
        refine List.ext_getElem? fun n => ?_
        rw [List.getElem?_map, List.getElem?_map, List.getElem?_modify]
        cases tasks[n]? with
        | none => rfl
        | some t => by_cases hn : j = n <;> simp [hn, hid]
      · rcases mem_modify_cases ht with ht | ⟨t', ht', rfl⟩
        · exact htasks t ht
        · exact covers_aggregate h hids ht' (htasks t' ht')
    exact ⟨h.users, h.ranks, h.store, forall_set h.runs hnew i⟩
  · exact h

theorem Converging.zadd (h : Converging db old s) (i j : Nat) :
    Converging db old (s.zadd i j) := by
  unfold WarmUps.zadd
  split
  · next tasks hi =>
    split
    · next userId c commands hj =>
      have hcov := h.runs _ (List.mem_of_getElem? hi)
      obtain ⟨hright, hpending⟩ := hcov.2.2 _ (List.mem_of_getElem? hj) _ rfl
      have hc := hright c List.mem_cons_self
      obtain ⟨hstore, -, hscore⟩ := h.store.exec hc
      obtain ⟨hids, hdone, htasks⟩ := covers_exec h.store hc hcov
      have hnew : WarmUp.Covers db old (c.exec s.redis) (.ranking (tasks.set j ⟨userId, some commands⟩)) := by
        refine ⟨?_, hdone, fun t ht => ?_⟩
        · rw [List.map_set, ← hids]
          have hid : (tasks.map RankCaching.userId)[j]? = some userId := by
            rw [List.getElem?_map, hj]
            rfl
          obtain ⟨hlt, hget⟩ := List.getElem?_eq_some_iff.1 hid
          conv_lhs => rw [show (⟨userId, some commands⟩ : RankCaching).userId = _ from hget.symm]
          exact List.set_getElem_self hlt
        · rcases List.mem_or_eq_of_mem_set ht with ht | rfl
          · exact htasks t ht
          · intro commands' hcommands
            cases hcommands
            refine ⟨fun c' hc' => hright c' (List.mem_cons_of_mem c hc'), fun k x hx => ?_⟩
            rcases hpending k x hx with hin | hz
            · rcases List.mem_cons.1 hin with he | hin
              · exact Or.inr (hscore k userId x hx (Or.inr he.symm))
              · exact Or.inl hin
            · exact Or.inr (hscore k userId x hx (Or.inl hz))
      exact ⟨h.users, h.ranks, hstore,
        forall_set (fun r hr => covers_exec h.store hc (h.runs r hr)) hnew i⟩
    · exact h
  · exact h

theorem Converging.step (h : Converging db old s) {e : WarmUpEvent} (he : KeepsTables s e) :
    Converging db old (s.step e) := by
  cases e with
  | ready pong =>
    cases pong with
    | false => exact h
    | true =>
      refine ⟨h.users, h.ranks, h.store, fun r hr => ?_⟩
      rcases List.mem_append.1 hr with hr | hr
      · exact h.runs r hr
      · rw [List.mem_singleton.1 hr]
        trivial
  | findUsers i =>
    unfold WarmUps.step
    dsimp only
    split
    · exact ⟨h.users, h.ranks, h.store, forall_set h.runs h.findUsers i⟩
    · exact h
  | saveUser i => exact h.saveUser i
  | cachedUsers i => exact h.cachedUsers i
  | aggregate i j => exact h.aggregate i j
  | zadd i j => exact h.zadd i j
  | write db' => exact ⟨he.1.trans h.users, he.2.trans h.ranks, h.store, h.runs⟩

/-- A run that is done has written everything. -/
theorem covers_done {redis : Redis} {r : WarmUp} (h : r.Covers db old redis) (hr : Done r) :
    ∀ user ∈ db.users.rows, ProfileDone old redis user ∧
      ∀ k x, score db user.id k = some x → redis.zscore k user.id = some x := by
  intro user hmem
  cases r with
  | connected | caching users commands => exact absurd hr id
  | ended =>
    rw [show db.users.rows = [] from h] at hmem
    cases hmem
  | ranking tasks =>
    obtain ⟨hids, hdone, htasks⟩ := h
    refine ⟨hdone user hmem, fun k x hx => ?_⟩
    have hid : user.id ∈ tasks.map RankCaching.userId := hids ▸ List.mem_map_of_mem hmem
    obtain ⟨t, ht, hu⟩ := List.mem_map.1 hid
    have hcov := (htasks t ht [] (hr t ht)).2 k x
    rw [hu] at hcov
    exact (hcov hx).resolve_left (by simp)

theorem reachable_converging {redis : Redis} {events : List WarmUpEvent}
    (hkeep : Guarded step KeepsTables ⟨db, redis, []⟩ events) :
    Converging db redis (run step ⟨db, redis, []⟩ events) := by
  have hstart : Converging db redis ⟨db, redis, []⟩ :=
    ⟨rfl, rfl, ⟨fun _ _ => Or.inl rfl, fun _ => Or.inl rfl⟩, fun r hr => by cases hr⟩
  exact (always_of_guarded (I := Converging db redis) (fun s e h he => h.step he) hstart hkeep).last

theorem Converging.written (h : Converging db old s) (hdone : Completed s) :
    ∀ user ∈ db.users.rows, ProfileDone old s.redis user ∧
      ∀ k x, score db user.id k = some x → s.redis.zscore k user.id = some x := by
  obtain ⟨r, hr⟩ := List.exists_mem_of_ne_nil _ hdone.1
  exact covers_done (h.runs r hr) (hdone.2 r hr)

theorem Converging.zscore_eq (h : Converging db old s) (hdone : Completed s) (k : RankingKey)
    (u : Nat) : s.redis.zscore k u =
      if (db.users.find? u).isSome then (score db u k).or (old.zscore k u) else old.zscore k u := by
  cases hfind : db.users.find? u with
  | none =>
    refine (h.store.zscore k u).resolve_right ?_
    rintro ⟨⟨user, hmem, hid⟩, -⟩
    exact Table.find?_eq_none.1 hfind user hmem hid
  | some user =>
    obtain ⟨hmem, rfl⟩ := Table.find?_eq_some.1 hfind
    rw [if_pos Option.isSome_some]
    cases hx : score db user.id k with
    | none =>
      refine (h.store.zscore k user.id).resolve_right ?_
      rintro ⟨-, x, hx', -⟩
      rw [hx] at hx'
      cases hx'
    | some x => exact (h.written hdone user hmem).2 k x hx

theorem Converging.userInfo_eq (h : Converging db old s) (hdone : Completed s) (u : Nat) :
    s.redis.userInfo u = (db.users.find? u).elim (old.userInfo u) (User.cached (old.userInfo u)) := by
  cases hfind : db.users.find? u with
  | none =>
    refine (h.store.userInfo u).resolve_right ?_
    rintro ⟨user, hmem, hid, -⟩
    exact Table.find?_eq_none.1 hfind user hmem hid
  | some user =>
    obtain ⟨hmem, rfl⟩ := Table.find?_eq_some.1 hfind
    exact (h.written hdone user hmem).1

end

/-- **The warm-up converges.**  Any number of warm-ups whose steps come in any order, once they are
all done, have written the profile and the scores of every user and nothing else. -/
theorem warm_up_converges (db : Db) (redis : Redis) (events : List WarmUpEvent)
    (hkeep : Guarded step KeepsTables ⟨db, redis, []⟩ events)
    (hdone : Completed (run step ⟨db, redis, []⟩ events)) :
    (∀ k u, (run step ⟨db, redis, []⟩ events).redis.zscore k u =
      if (db.users.find? u).isSome then (score db u k).or (redis.zscore k u)
      else redis.zscore k u) ∧
    ∀ u, (run step ⟨db, redis, []⟩ events).redis.userInfo u =
      (db.users.find? u).elim (redis.userInfo u) (User.cached (redis.userInfo u)) :=
  have hconv := reachable_converging hkeep
  ⟨hconv.zscore_eq hdone, hconv.userInfo_eq hdone⟩

/-- **What it repairs.**  The rankings are right afterwards exactly when they had no entry that the
rank table gives no score for: a warm-up removes nothing. -/
theorem warm_up_mirrors_iff (db : Db) (redis : Redis) (events : List WarmUpEvent)
    (hfk : ∀ row ∈ db.ranks.rows, (db.users.find? row.user).isSome)
    (hkeep : Guarded step KeepsTables ⟨db, redis, []⟩ events)
    (hdone : Completed (run step ⟨db, redis, []⟩ events)) :
    Mirrors (run step ⟨db, redis, []⟩ events).redis db ↔
      ∀ u k, score db u k = none → redis.zscore k u = none := by
  have hzscore := (reachable_converging hkeep).zscore_eq hdone
  constructor
  · intro h u k hnone
    have hu := h u k
    rw [hzscore, hnone] at hu
    simpa using hu
  · intro h u k
    rw [hzscore]
    cases hx : score db u k with
    | none =>
      rw [h u k hx]
      simp
    | some x =>
      obtain ⟨row, hrow, rfl⟩ := row_of_score hx
      rw [if_pos (hfk row hrow)]
      rfl

/-- Two warm-ups of a league with one fan, their steps mixed. -/
def bothReady : List WarmUpEvent :=
  [.ready true, .findUsers 0, .ready true, .saveUser 0, .findUsers 1, .cachedUsers 0, .saveUser 1,
   .aggregate 0 0, .cachedUsers 1, .aggregate 1 0, .zadd 1 0, .zadd 0 0, .zadd 0 0, .zadd 1 0]

/-- The fan of the league, with one win. -/
def rankedDb : Db := leagueDb.withRanks (leagueDb.ranks.save ⟨7, 1, 2025, 1, 0, 0, 0⟩)

theorem warm_up_converges_bothReady :
    (run step ⟨rankedDb, .empty, []⟩ bothReady).redis.zscore .total 7 = score rankedDb 7 .total := by
  have h := (warm_up_converges rankedDb .empty bothReady (by unfold bothReady; simp [Guarded, KeepsTables])
    ⟨by decide, by decide⟩).1 .total 7
  rw [h]
  decide

theorem warm_up_mirrors_iff_bothReady :
    Mirrors (run step ⟨rankedDb, .empty, []⟩ bothReady).redis rankedDb :=
  (warm_up_mirrors_iff rankedDb .empty bothReady (by decide)
    (by unfold bothReady; simp [Guarded, KeepsTables]) ⟨by decide, by decide⟩).2 fun _ _ _ => rfl

/-! ## Meanwhile -/

/-- The profile hash of the user has its id. -/
def HasId (redis : Redis) (u : Nat) : Prop := (redis.userInfo u).id = some u

end WarmUps

/-- The commands to send are those of users whose profile is cached by then. -/
def WarmUp.Safe (redis : Redis) : WarmUp → Prop
  | .connected | .ended => True
  | .caching users commands => (∀ c ∈ commands, ∃ user, c = .hset user) ∧
      ∀ user ∈ users, .hset user ∈ commands ∨ WarmUps.HasId redis user.id
  | .ranking tasks => ∀ t ∈ tasks, WarmUps.HasId redis t.userId ∧
      ∀ commands, t.commands = some commands → ∀ c ∈ commands, ∃ k x, c = .zadd k x t.userId

namespace WarmUps

section

variable {s : WarmUps}

theorem hasId_hset {redis : Redis} (user : User) {u : Nat} (h : HasId redis u ∨ u = user.id) :
    HasId (redis.saveUsers [user]) u := by
  unfold HasId
  rw [userInfo_hset]
  split
  · next hu => exact congrArg some hu.symm
  · next hu => exact h.resolve_right hu

theorem safe_hset {redis : Redis} (user : User) {r : WarmUp} (h : r.Safe redis) :
    r.Safe (redis.saveUsers [user]) := by
  cases r with
  | connected | ended => trivial
  | caching users commands =>
    exact ⟨h.1, fun v hv => (h.2 v hv).imp id fun hid => hasId_hset user (Or.inl hid)⟩
  | ranking tasks => exact fun t ht => ⟨hasId_hset user (Or.inl (h t ht).1), (h t ht).2⟩

theorem safe_zadd {redis : Redis} (k : RankingKey) (x : Int) (u : Nat) {r : WarmUp}
    (h : r.Safe redis) : r.Safe (redis.zadd k x u) := by
  cases r with
  | connected | ended => trivial
  | caching users commands => exact h
  | ranking tasks => exact h

/-- The endpoint answers, and the runs will not break it. -/
structure Answering (s : WarmUps) : Prop where
  cached : Cached s.redis
  runs : ∀ r ∈ s.runs, r.Safe s.redis

theorem Answering.saveUser (h : Answering s) (i : Nat) : Answering (s.saveUser i) := by
  unfold WarmUps.saveUser
  split
  · next users c commands hi =>
    obtain ⟨hcommands, hdone⟩ := h.runs _ (List.mem_of_getElem? hi)
    obtain ⟨user, rfl⟩ := hcommands c List.mem_cons_self
    have hnew : (WarmUp.caching users commands).Safe (s.redis.saveUsers [user]) := by
      refine ⟨fun c hc => hcommands c (List.mem_cons_of_mem _ hc), fun v hv => ?_⟩
      rcases hdone v hv with hin | hid
      · rcases List.mem_cons.1 hin with he | hin
        · cases he
          exact Or.inr (hasId_hset user (Or.inr rfl))
        · exact Or.inl hin
      · exact Or.inr (hasId_hset user (Or.inl hid))
    exact ⟨hset_cached h.cached user, forall_set (fun r hr => safe_hset user (h.runs r hr)) hnew i⟩
  · exact h

theorem Answering.cachedUsers (h : Answering s) (i : Nat) : Answering (s.cachedUsers i) := by
  unfold WarmUps.cachedUsers
  split
  · next users hi =>
    obtain ⟨-, hdone⟩ := h.runs _ (List.mem_of_getElem? hi)
    have hnew : (WarmUp.initRankCaching (users.map User.id)).Safe s.redis := by
      unfold WarmUp.initRankCaching
      split
      · trivial
      · intro t ht
        obtain ⟨u, hu, rfl⟩ := List.mem_map.1 ht
        obtain ⟨user, huser, rfl⟩ := List.mem_map.1 hu
        exact ⟨(hdone user huser).resolve_left (by simp), fun commands hc => by cases hc⟩
    exact ⟨h.cached, forall_set h.runs hnew i⟩
  · exact h

theorem Answering.aggregate (h : Answering s) (i j : Nat) : Answering (s.aggregate i j) := by
  unfold WarmUps.aggregate
  split
  · next tasks hi =>
    have hsafe := h.runs _ (List.mem_of_getElem? hi)
    have hnew : (WarmUp.ranking (tasks.modify j (RankCaching.aggregate s.db))).Safe s.redis := by
      intro t ht
      rcases mem_modify_cases ht with ht | ⟨t', ht', rfl⟩
      · exact hsafe t ht
      · unfold RankCaching.aggregate
        split
        · refine ⟨(hsafe t' ht').1, fun commands hcommands c hc => ?_⟩
          cases hcommands
          obtain ⟨k, x, hzadd, -⟩ := (mem_updateRankingsCommands s.db t'.userId c).1 hc
          exact ⟨k, x, hzadd⟩
        · exact hsafe t' ht'
    exact ⟨h.cached, forall_set h.runs hnew i⟩
  · exact h

theorem Answering.zadd (h : Answering s) (i j : Nat) : Answering (s.zadd i j) := by
  unfold WarmUps.zadd
  split
  · next tasks hi =>
    split
    · next userId c commands hj =>
      have hsafe := h.runs _ (List.mem_of_getElem? hi)
      obtain ⟨hid, hzadd⟩ := hsafe _ (List.mem_of_getElem? hj)
      obtain ⟨k, x, hc⟩ := hzadd _ rfl c List.mem_cons_self
      change c = .zadd k x userId at hc
      subst hc
      have hnew : (WarmUp.ranking (tasks.set j ⟨userId, some commands⟩)).Safe
          (s.redis.zadd k x userId) := by
        intro t ht
        rcases List.mem_or_eq_of_mem_set ht with ht | rfl
        · exact hsafe t ht
        · refine ⟨hid, fun commands' hcommands c hc => ?_⟩
          cases hcommands
          exact hzadd _ rfl c (List.mem_cons_of_mem _ hc)
      exact ⟨(zadd_cached_iff h.cached k x userId).2 hid,
        forall_set (fun r hr => safe_zadd k x userId (h.runs r hr)) hnew i⟩
    · exact h
  · exact h

theorem Answering.step (h : Answering s) (e : WarmUpEvent) : Answering (s.step e) := by
  cases e with
  | ready pong =>
    cases pong with
    | false => exact h
    | true =>
      refine ⟨h.cached, fun r hr => ?_⟩
      rcases List.mem_append.1 hr with hr | hr
      · exact h.runs r hr
      · rw [List.mem_singleton.1 hr]
        trivial
  | findUsers i =>
    unfold WarmUps.step
    dsimp only
    split
    · have hnew : (WarmUp.initCacheUsers s.db).Safe s.redis := by
        unfold WarmUp.initCacheUsers
        dsimp only
        split
        · trivial
        · refine ⟨fun c hc => ?_, fun user hmem => Or.inl (List.mem_map_of_mem hmem)⟩
          obtain ⟨user, -, rfl⟩ := List.mem_map.1 hc
          exact ⟨user, rfl⟩
      exact ⟨h.cached, forall_set h.runs hnew i⟩
    · exact h
  | saveUser i => exact h.saveUser i
  | cachedUsers i => exact h.cachedUsers i
  | aggregate i j => exact h.aggregate i j
  | zadd i j => exact h.zadd i j
  | write db => exact ⟨h.cached, h.runs⟩

end

/-- **The endpoint answers meanwhile.**  Where every ranked user had a profile before, the ranking
endpoint answers in every state of any number of warm-ups, whatever requests write to the
database in between. -/
theorem warm_up_serves (db : Db) (redis : Redis) (hcached : Cached redis)
    (events : List WarmUpEvent) :
    Always step (fun s => Serves s.redis) ⟨db, redis, []⟩ events :=
  (always_of_step (I := Answering) (fun _ e h => h.step e) ⟨hcached, fun r hr => by cases hr⟩
    events).imp fun s h => (serves_iff s.redis).2 h.cached

/-- The fan has a profile, and an entry of another season. -/
def rankedRedis : Redis :=
  (Redis.empty.saveUsers [⟨7, DEFAULT_PROFILE_IMAGE, "fan", "fan@test", 1⟩]).zadd .total 100 7

theorem rankedRedis_cached : Cached rankedRedis :=
  (zadd_cached_iff (hset_cached (fun k e he => by cases he) _) .total 100 7).2 (by decide)

theorem warm_up_serves_bothReady : Always step (fun s => Serves s.redis)
    ⟨rankedDb, rankedRedis, []⟩ (bothReady ++ [.write leagueDb]) :=
  warm_up_serves rankedDb rankedRedis rankedRedis_cached _

end WarmUps

end VictoryFairy
