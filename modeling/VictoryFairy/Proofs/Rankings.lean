import VictoryFairy.Proofs.RankRows

/-!
# Redis rankings as a projection of the rank table

`Mirrors redis db`: a user is in the sorted set of a key exactly when the aggregate
of the user's rank rows has an entry there, with that entry's score.  Every request
keeps it except a change of team that drops the team left behind: all of that team's
rank rows count nothing then, but only one of them is removed, while the member is
removed for good.

    hook_mirrors          : a hook after saved rank rows
    next_mirrors_iff      : one event keeps it exactly under PrunesAtMostOne
    rankings_project_iff  : so does a history
-/

namespace VictoryFairy

open Runs

/-! ## The projection -/

/-- What the sorted sets should hold for a user and key. -/
def score (db : Db) (u : Nat) (k : RankingKey) : Option Int :=
  (projected db u k).map RankScoreVo.getIntegerScoreForRedis

/-- The sorted sets hold what the rank table gives. -/
def Mirrors (redis : Redis) (db : Db) : Prop := ∀ u k, redis.zscore k u = score db u k

theorem score_congr {db db' : Db} (h : db'.ranks = db.ranks) (u : Nat) (k : RankingKey) :
    score db' u k = score db u k := by
  have hrows : rowsOf db' u = rowsOf db u := by unfold rowsOf; rw [h]
  unfold score
  rw [projected_congr hrows k]

theorem Mirrors.congr {redis redis' : Redis} {db db' : Db} (h : Mirrors redis db)
    (hr : redis'.rankings = redis.rankings) (hd : db'.ranks = db.ranks) : Mirrors redis' db' := by
  intro u k
  rw [score_congr hd, ← h u k]
  unfold Redis.zscore
  rw [hr]

theorem score_team_none {db : Db} {u t : Nat} :
    score db u (.team t) = none ↔ ∀ row ∈ db.ranks.rows, ¬ (row.user = u ∧ row.teamId = t) := by
  unfold score
  rw [Option.map_eq_none_iff, projected_team]
  simp only [List.mem_map, mem_rowsOf, ite_eq_right_iff, reduceCtorEq, imp_false, not_exists, not_and,
    and_imp]

theorem score_total_none {db : Db} {u : Nat} :
    score db u .total = none ↔ ∀ row ∈ db.ranks.rows, row.user ≠ u := by
  unfold score
  rw [Option.map_eq_none_iff, projected_total]
  simp only [ite_eq_left_iff, reduceCtorEq, imp_false, not_not]
  unfold rowsOf
  rw [List.filter_eq_nil_iff]
  simp

/-- Saving rank rows of `u` keeps the other users' scores and drops no key of `u`. -/
theorem RankWrites.scores {db db' : Db} {rows : List Rank} {u : Nat} (hw : RankWrites db db' rows)
    (hu : ∀ row ∈ rows, row.user = u) :
    (∀ v, v ≠ u → ∀ k, score db' v k = score db v k) ∧
      ∀ k, score db' u k = none → score db u k = none := by
  constructor
  · obtain ⟨rfl, -, -⟩ := hw
    intro v hv k
    have hrows : rowsOf (db.withRanks (db.ranks.saveAll rows)) v = rowsOf db v := by
      induction rows generalizing db with
      | nil => rfl
      | cons row rows ih =>
        have hne : row.user ≠ v := fun e => hv (e.symm.trans (hu row List.mem_cons_self))
        have ih := @ih (db.withRanks (db.ranks.save row))
          fun r hr => hu r (List.mem_cons_of_mem _ hr)
        exact ih.trans (rowsOf_saveRank db row v hne)
    unfold score
    rw [projected_congr hrows k]
  · intro k hk
    cases k with
    | team t =>
      rw [score_team_none] at hk ⊢
      intro row hrow hc
      obtain ⟨row', hrow', he⟩ := hw.keeps hrow
      refine hk row' hrow' ⟨?_, ?_⟩
      · exact (congrArg RankKey.user he).trans hc.1
      · exact (congrArg RankKey.teamId he).trans hc.2
    | total =>
      rw [score_total_none] at hk ⊢
      intro row hrow hc
      obtain ⟨row', hrow', he⟩ := hw.keeps hrow
      exact hk row' hrow' ((congrArg RankKey.user he).trans hc)

/-! ## The hooks -/

/-- A hook that runs after rank rows of its user were saved. -/
theorem hook_mirrors {redis redis' : Redis} {db db1 db' : Db} {rows : List Rank} {u : Nat}
    (h : Mirrors redis db) (hs : redis'.rankings = redis.rankings) (hr : db1.ranks = db.ranks)
    (hw : RankWrites db1 db' rows) (hu : ∀ row ∈ rows, row.user = u) :
    Mirrors (rankingHook db' redis' u) db' := by
  obtain ⟨hother, hgrow⟩ := hw.scores hu
  have h1 : Mirrors redis' db1 := h.congr hs hr
  intro v k
  rw [zscore_rankingHook, h1 v k]
  split
  · next he =>
    subst he
    show (score db' u k).or (score db1 u k) = score db' u k
    cases hk : score db' u k with
    | none => rw [hgrow k hk]; rfl
    | some n => rfl
  · next hne => exact (hother v (Ne.symm hne) k).symm

theorem RankWrites.ranks_of_nil {db db' : Db} {rows : List Rank} (hw : RankWrites db db' rows)
    (h : rows = []) : db'.ranks = db.ranks := by
  subst h
  rw [hw.eq]
  rfl

namespace World

section S3

variable (extractKeyFromUrl : String → Option String)

theorem updateHook_redis (w : World) (result : UpdateRegisteredGameResult) (userId : Nat) :
    (w.updateHook extractKeyFromUrl result userId).redis =
      if result.teamCtx.isChanged then rankingHook w.db w.redis userId else w.redis := by
  unfold updateHook refreshRankings
  split
  · dsimp only
    split <;> simp
  · rfl

theorem deleteHook_redis (w : World) (result : DeleteRegisteredGameResult) (userId : Nat) :
    (w.deleteHook extractKeyFromUrl result userId).redis =
      if result.gameCtx.status ≠ none then rankingHook w.db w.redis userId else w.redis := by
  unfold deleteHook refreshRankings
  dsimp only
  split <;> split <;> simp

theorem transactional_of {α : Type} {P : World → Prop} {w : World} {body : Except AppError (Db × α)}
    {onCommit : World → α → World} (h : P w)
    (hok : ∀ db a, body = .ok (db, a) → P (onCommit { w with db } a)) :
    P (transactional w body onCommit) := by
  unfold transactional
  cases body with
  | error e => exact h
  | ok p => exact hok p.1 p.2 rfl

end S3

end World

/-! ## One request -/

section

variable (extractKeyFromUrl : String → Option String) {w : World}

theorem register_mirrors (h : Mirrors w.redis w.db) (dto : CreateRegisteredGameDto)
    (userId newId : Nat) :
    Mirrors (w.step extractKeyFromUrl (.register dto userId newId)).redis
      (w.step extractKeyFromUrl (.register dto userId newId)).db := by
  refine World.transactional_of (P := fun w => Mirrors w.redis w.db) h fun db a hok => ?_
  obtain ⟨db1, rows, hr, -, -, hw, hrows⟩ := register_writes hok
  exact hook_mirrors h rfl hr hw fun row hrow => (hrows row hrow).1

theorem update_mirrors (h : Mirrors w.redis w.db) (id : Nat) (dto : UpdateRegisteredGameInput)
    (userId : Nat) :
    Mirrors (w.step extractKeyFromUrl (.update id dto userId)).redis
      (w.step extractKeyFromUrl (.update id dto userId)).db := by
  refine World.transactional_of (P := fun w => Mirrors w.redis w.db) h fun db result hok => ?_
  obtain ⟨db1, rows, hr, -, -, hw, hnil, hrows⟩ := update_writes hok
  rw [World.updateHook_redis, World.updateHook_db]
  split
  · exact hook_mirrors h rfl hr hw fun row hrow => (hrows row hrow).1
  · next hc => exact h.congr rfl ((hw.ranks_of_nil (hnil (by simpa using hc))).trans hr)

theorem delete_mirrors (h : Mirrors w.redis w.db) (id userId : Nat) :
    Mirrors (w.step extractKeyFromUrl (.delete id userId)).redis
      (w.step extractKeyFromUrl (.delete id userId)).db := by
  refine World.transactional_of (P := fun w => Mirrors w.redis w.db) h fun db result hok => ?_
  obtain ⟨db1, rows, hr, -, -, hw, hnil, hrows⟩ := delete_writes hok
  rw [World.deleteHook_redis, World.deleteHook_db]
  split
  · exact hook_mirrors h rfl hr hw fun row hrow => (hrows row hrow).1
  · next hc => exact h.congr rfl ((hw.ranks_of_nil (hnil (by simpa using hc))).trans hr)

/-- The hook of a sign-up: the rank row is the new user's. -/
theorem cacheUser_mirrors (h : Mirrors w.redis w.db) {db1 db' : Db} {user : User} {k : RankKey}
    (hs : SignedUp w.db db1 user) (hok : insertRankIfAbsent db1 k = .ok db') (hk : k.user = user.id) :
    Mirrors (World.cacheUser { w with db := db' } user).redis db' := by
  obtain ⟨rows, hw, hkeys, -⟩ := insertRankIfAbsent_ok hok
  refine hook_mirrors h (Redis.rankings_saveUsers w.redis [user]) hs.ranks hw fun row hrow => ?_
  exact (congrArg RankKey.user (hkeys row hrow)).trans hk

theorem deleteUser_mirrors (h : Mirrors w.redis w.db) (hfk : RankFk w.db) (userId : Nat) :
    Mirrors (((w.redis.deleteUser userId).deleteRankByUserId userId
      ((findAllTeams w.db).map Team.id))) (w.db.removeUser userId) := by
  intro v k
  rw [Redis.zscore_deleteRankByUserId]
  have hkeep : (w.redis.deleteUser userId).zscore k v = score w.db v k := h v k
  rw [hkeep]
  by_cases hv : userId = v
  · subst hv
    have hgone : ∀ row ∈ (w.db.removeUser userId).ranks.rows, row.user ≠ userId := by
      intro row hrow
      simpa using (Table.mem_reject.1 hrow).2
    have hnone : score (w.db.removeUser userId) userId k = none := by
      cases k with
      | team t => exact score_team_none.2 fun row hrow hc => hgone row hrow hc.1
      | total => exact score_total_none.2 hgone
    rw [hnone]
    split
    · rfl
    · next hk =>
      cases k with
      | total => exact absurd ⟨rfl, Or.inl rfl⟩ hk
      | team t =>
        refine score_team_none.2 fun row hrow hc => hk ⟨rfl, Or.inr ⟨t, ?_, rfl⟩⟩
        rw [← hc.2]
        exact hfk.listed hrow
  · have hrows : rowsOf (w.db.removeUser userId) v = rowsOf w.db v := by
      unfold rowsOf Db.removeUser Table.reject
      dsimp only
      rw [List.filter_filter]
      refine List.filter_congr fun row _ => ?_
      by_cases hr : row.user = v
      · simp [hr, Ne.symm hv]
      · simp [hr]
    rw [if_neg (fun hc => hv hc.1)]
    unfold score
    rw [projected_congr hrows k]

end

/-! ## Changing the team -/

/-- The team whose member a change of team removes from Redis. -/
def prunedTeam (db : Db) (userId value year : Nat) : Option Nat :=
  match updateUserProfileTeamId db userId value with
  | .error _ => none
  | .ok (db, prevTeamId) =>
    match insertRankIfAbsent db ⟨userId, value, year⟩ with
    | .error _ => none
    | .ok db =>
      if (aggregateRankStatsByUserId db userId).any fun data =>
          World.isEmptied data prevTeamId value
      then some prevTeamId else none

/-- The user has at most one rank row for the team, in whatever year. -/
def AtMostOneRow (db : Db) (userId teamId : Nat) : Prop :=
  ∀ r ∈ rowsOf db userId, ∀ r' ∈ rowsOf db userId, r.teamId = teamId → r'.teamId = teamId → r = r'

@[simp] theorem AggregatedRankStats.get_delete (data : AggregatedRankStats) (k k' : RankingKey) :
    AggregatedRankStats.get (AggregatedRankStats.delete data k) k' =
      if k = k' then none else AggregatedRankStats.get data k' := by
  unfold AggregatedRankStats.get AggregatedRankStats.delete
  rw [List.find?_filter]
  by_cases h : k = k'
  · have hnone : data.find? (fun e => decide (e.1 ≠ k) && decide (e.1 = k')) = none :=
      List.find?_eq_none.2 fun e _ => by simp [h]
    simp only [decide_eq_true_eq] at hnone ⊢
    rw [if_pos h]
    simpa using hnone
  · have hsame : (fun e : RankingKey × RankScoreVo => decide (e.1 ≠ k) && decide (e.1 = k')) =
        fun e => decide (e.1 = k') := by
      funext e
      by_cases he : e.1 = k'
      · simp [he, Ne.symm h]
      · simp [he]
    rw [if_neg h]
    simpa using congrArg (fun p => (data.find? p).map Prod.snd) hsame

section

variable {redis : Redis} {db db' : Db} {u prev value : Nat} {data : AggregatedRankStats} {row : Rank}

/-- What dropping the team and then writing the rest out leaves in Redis. -/
theorem zscore_prune (prev : Nat) (hdata : aggregateRankStatsByUserId db' u = some data)
    (hold : ∀ v k, redis.zscore k v = score db v k) (k : RankingKey) (v : Nat) :
    ((redis.deleteRankByUserId u [prev]).updateRankings u (data.delete (.team prev))).zscore k v =
      if u = v then
        (if k = .team prev then none
          else (score db' u k).or (if k = .total then none else score db u k))
      else score db v k := by
  have hn : ((AggregatedRankStats.delete data (.team prev)).map Prod.fst).Nodup :=
    (aggregate_keys_nodup hdata).sublist (List.filter_sublist.map Prod.fst)
  have hget : (data.get k).map (·.getIntegerScoreForRedis) = score db' u k := by
    unfold score projected
    rw [hdata]
    rfl
  rw [Redis.zscore_updateRankings _ _ _ hn, Redis.zscore_deleteRankByUserId, hold]
  by_cases hv : u = v
  · subst hv
    simp only [if_true, AggregatedRankStats.get_delete, List.mem_singleton, exists_eq_left, true_and]
    by_cases hk : RankingKey.team prev = k
    · rw [if_pos hk, if_pos (Or.inr hk.symm), if_pos hk.symm]
      rfl
    · rw [if_neg hk, if_neg (Ne.symm hk), hget]
      by_cases ht : k = .total
      · rw [if_pos (Or.inl ht), if_pos ht]
      · rw [if_neg (not_or.2 ⟨ht, Ne.symm hk⟩), if_neg ht]
  · simp [hv]

theorem rowsOf_removeRank (v : Nat) : rowsOf (db.withRanks (db.ranks.remove row.key)) v =
    (rowsOf db v).filter fun r => !decide (r.key = row.key) := by
  unfold rowsOf
  rw [Db.withRanks_ranks]
  show ((db.ranks.rows.filter fun r => !decide (r.key = row.key)).filter _) = _
  rw [List.filter_filter, List.filter_filter]
  exact List.filter_congr fun r _ => Bool.and_comm _ _

/-- Only the row itself is filtered out. -/
theorem eq_of_removed (hrow : row ∈ db.ranks.rows) {v : Nat} {r : Rank} (hr : r ∈ rowsOf db v)
    (hp : (!decide (r.key = row.key)) = false) : r = row := by
  have hkey : r.key = row.key := by simpa using hp
  exact Table.eq_of_key (mem_rowsOf.1 hr).1 hrow hkey

/-- What is nothing on the row keeps its sum. -/
theorem sum_removeRank (hrow : row ∈ db.ranks.rows) (v : Nat) (f : Rank → Nat)
    (hf : v = row.user → f row = 0) :
    ((rowsOf (db.withRanks (db.ranks.remove row.key)) v).map f).sum =
      ((rowsOf db v).map f).sum := by
  rw [rowsOf_removeRank]
  refine Table.sum_filter_eq f _ _ fun r hr hp => ?_
  have he := eq_of_removed hrow hr hp
  rw [he] at hr ⊢
  exact hf (mem_rowsOf.1 hr).2.symm

theorem projected_team_removeRank (hrow : row ∈ db.ranks.rows) {v t : Nat}
    (hne : v = row.user → row.teamId ≠ t) :
    projected (db.withRanks (db.ranks.remove row.key)) v (.team t) = projected db v (.team t) := by
  have hgroup : groupedVo (rowsOf (db.withRanks (db.ranks.remove row.key)) v) t =
      groupedVo (rowsOf db v) t := by
    have hsum := sum_removeRank hrow v
    unfold groupedVo
    dsimp only
    rw [hsum _ fun hv => if_neg (hne hv), hsum _ fun hv => if_neg (hne hv),
      hsum _ fun hv => if_neg (hne hv), hsum _ fun hv => if_neg (hne hv)]
  have hmem : t ∈ (rowsOf (db.withRanks (db.ranks.remove row.key)) v).map Rank.teamId ↔
      t ∈ (rowsOf db v).map Rank.teamId := by
    rw [rowsOf_removeRank]
    simp only [List.mem_map, List.mem_filter]
    constructor
    · rintro ⟨r, ⟨hr, -⟩, he⟩
      exact ⟨r, hr, he⟩
    · rintro ⟨r, hr, he⟩
      refine ⟨r, ⟨hr, ?_⟩, he⟩
      by_contra hp
      have heq := eq_of_removed hrow hr (by simpa using hp)
      rw [heq] at hr he
      exact hne (mem_rowsOf.1 hr).2.symm he
  rw [projected_team, projected_team, hgroup]
  simp only [hmem]

theorem projected_total_removeRank (hrow : row ∈ db.ranks.rows) (hzero : ∀ c, row.get c = 0)
    {other : Rank} (hother : other ∈ db.ranks.rows) (hou : other.user = row.user)
    (hot : other.teamId ≠ row.teamId) (v : Nat) :
    projected (db.withRanks (db.ranks.remove row.key)) v .total = projected db v .total := by
  have htotal : totalVo (rowsOf (db.withRanks (db.ranks.remove row.key)) v) =
      totalVo (rowsOf db v) := by
    have hsum := sum_removeRank hrow v
    unfold totalVo
    rw [hsum _ fun _ => hzero .win, hsum _ fun _ => hzero .lose, hsum _ fun _ => hzero .tie,
      hsum _ fun _ => hzero .cancel]
  have hnil : rowsOf (db.withRanks (db.ranks.remove row.key)) v = [] ↔ rowsOf db v = [] := by
    rw [rowsOf_removeRank]
    constructor
    · intro hf
      by_cases hv : v = row.user
      · -- the other row is still there
        have hmem := List.filter_eq_nil_iff.1 hf other (mem_rowsOf.2 ⟨hother, hou.trans hv.symm⟩)
        simp only [Bool.not_eq_true', decide_eq_false_iff_not, not_not] at hmem
        exact absurd (congrArg RankKey.teamId hmem) hot
      · refine List.eq_nil_iff_forall_not_mem.2 fun r hr => ?_
        have hmem := List.filter_eq_nil_iff.1 hf r hr
        have heq := eq_of_removed hrow hr (by simpa using hmem)
        rw [heq] at hr
        exact hv (mem_rowsOf.1 hr).2.symm
    · intro hn
      rw [hn]
      rfl
  rw [projected_total, projected_total, htotal]
  simp only [hnil]

/-- Removing a row that counts nothing changes no score of another key. -/
theorem score_removeRank (hrow : row ∈ db.ranks.rows) (hu : row.user = u) (ht : row.teamId = prev)
    (hzero : ∀ c, row.get c = 0) {other : Rank} (hother : other ∈ db.ranks.rows)
    (hou : other.user = u) (hot : other.teamId ≠ prev) (v : Nat) (k : RankingKey)
    (hk : ¬ (u = v ∧ k = .team prev)) :
    score (db.withRanks (db.ranks.remove row.key)) v k = score db v k := by
  unfold score
  congr 1
  cases k with
  | team t =>
    refine projected_team_removeRank hrow fun hv he => hk ⟨?_, ?_⟩
    · rw [← hu, hv]
    · rw [← he, ht]
  | total =>
    refine projected_total_removeRank hrow hzero hother (hou.trans hu.symm) ?_ v
    rw [ht]
    exact hot

end

theorem aggregate_ne_none {db : Db} {u : Nat} {row : Rank} (hrow : row ∈ db.ranks.rows)
    (hu : row.user = u) : ∃ data, aggregateRankStatsByUserId db u = some data := by
  rw [aggregate_eq, if_neg]
  · exact ⟨_, rfl⟩
  · intro he
    have hm := mem_rowsOf.2 ⟨hrow, hu⟩
    rw [List.isEmpty_iff.1 he] at hm
    cases hm

/-- The emptied team has a row. -/
theorem isEmptied_row {db : Db} {u prev value : Nat} {data : AggregatedRankStats}
    (hdata : aggregateRankStatsByUserId db u = some data)
    (he : World.isEmptied data prev value = true) :
    prev ≠ value ∧ ∃ row ∈ db.ranks.rows, row.user = u ∧ row.teamId = prev := by
  unfold World.isEmptied at he
  obtain ⟨hne, he⟩ := Bool.and_eq_true_iff.1 he
  obtain ⟨vo, hvo, -⟩ := (Option.any_eq_true _ _).1 he
  have hsome : score db u (.team prev) ≠ none := by
    unfold score projected
    rw [hdata]
    simp [show AggregatedRankStats.get data (.team prev) = some vo from hvo]
  refine ⟨of_decide_eq_true hne, ?_⟩
  by_contra hc
  refine hsome (score_team_none.2 fun row hrow hcc => hc ⟨row, hrow, hcc⟩)

/-- A row of a key that is not written is there before and after. -/
theorem RankWrites.mem_iff {db db' : Db} {rows : List Rank} (hw : RankWrites db db' rows)
    {row : Rank} (hk : ∀ r ∈ rows, r.key ≠ row.key) :
    row ∈ db'.ranks.rows ↔ row ∈ db.ranks.rows := by
  have hf : db'.ranks.find? row.key = db.ranks.find? row.key := by
    rw [hw.eq, Db.withRanks_ranks, Table.find?_saveAll_of_notMem _ _ hk]
  constructor
  · intro hm
    exact Table.mem_of_find? (hf.symm.trans (Table.find?_of_mem hm))
  · intro hm
    exact Table.mem_of_find? (hf.trans (Table.find?_of_mem hm))

/-- **Dropping a team.**  The rankings still mirror the rank table after the prune
exactly when the user had at most one row for the team. -/
theorem prune_mirrors_iff {redis : Redis} {db db1 db2 : Db} {rows : List Rank}
    {u value year prev pick : Nat} {data : AggregatedRankStats} (h : Mirrors redis db)
    (hr : db1.ranks = db.ranks) (hw : RankWrites db1 db2 rows)
    (hkeys : ∀ row ∈ rows, row.key = ⟨u, value, year⟩)
    (hins : (db2.ranks.find? ⟨u, value, year⟩).isSome)
    (hdata : aggregateRankStatsByUserId db2 u = some data)
    (he : World.isEmptied data prev value = true) :
    Mirrors ((redis.deleteRankByUserId u [prev]).updateRankings u (data.delete (.team prev)))
      (deleteRank db2 prev u none pick) ↔ AtMostOneRow db u prev := by
  obtain ⟨hne, row0, hrow0, hu0, ht0⟩ := isEmptied_row hdata he
  obtain ⟨other, hother⟩ := Option.isSome_iff_exists.1 hins
  have hok : other.key = ⟨u, value, year⟩ := Table.find?_key hother
  have hot : other.teamId ≠ prev := fun e => hne (e.symm.trans (congrArg RankKey.teamId hok))
  have hsame : ∀ row : Rank, row.teamId = prev →
      (row ∈ db2.ranks.rows ↔ row ∈ db.ranks.rows) := by
    intro row ht
    rw [← hr]
    refine hw.mem_iff fun r hm hk => hne ?_
    rw [← ht, ← show r.key.teamId = value from congrArg RankKey.teamId (hkeys r hm), hk]
    rfl
  rcases deleteRank_eq db2 prev u pick with ⟨-, hnone⟩ | ⟨row, hrow, hu, ht, hdel⟩
  · exact absurd ⟨hu0, ht0⟩ (hnone row0 hrow0)
  have hzero : ∀ c, row.get c = 0 := fun c =>
    groupedVo_zero (isEmptied_groupedVo hdata he) (mem_rowsOf.2 ⟨hrow, hu⟩) ht c
  have h1 : Mirrors redis db1 := h.congr rfl hr
  obtain ⟨hothers, hgrow⟩ := hw.scores fun r hm => congrArg RankKey.user (hkeys r hm)
  have hz := zscore_prune prev hdata h1
  rw [hdel]
  constructor
  · intro hm r hru r' hru' hrt hrt'
    have hgone : score (db2.withRanks (db2.ranks.remove row.key)) u (.team prev) = none := by
      rw [← hm u (.team prev), hz, if_pos rfl, if_pos rfl]
    rw [score_team_none] at hgone
    have honly : ∀ r ∈ rowsOf db u, r.teamId = prev → r = row := by
      intro r hru hrt
      have hr2 := (hsame r hrt).2 (mem_rowsOf.1 hru).1
      by_contra hc
      refine hgone r (Table.mem_remove.2 ⟨hr2, fun hk => hc ?_⟩) ⟨(mem_rowsOf.1 hru).2, hrt⟩
      exact Table.eq_of_key hr2 hrow hk
    rw [honly r hru hrt, honly r' hru' hrt']
  · intro hone v k
    rw [hz]
    have hrest := score_removeRank hrow hu ht hzero (Table.mem_of_find? hother)
      (congrArg RankKey.user hok) hot v k
    by_cases hv : u = v
    · subst hv
      rw [if_pos rfl]
      by_cases hk : k = .team prev
      · rw [if_pos hk, hk]
        refine (score_team_none.2 fun r hm hc => ?_).symm
        obtain ⟨hm, hkey⟩ := Table.mem_remove.1 hm
        refine hkey (congrArg Rank.key (hone r ?_ row ?_ hc.2 ht))
        · exact mem_rowsOf.2 ⟨(hsame r hc.2).1 hm, hc.1⟩
        · exact mem_rowsOf.2 ⟨(hsame row ht).1 hrow, hu⟩
      · rw [if_neg hk, hrest fun hc => hk hc.2]
        cases hs : score db2 u k with
        | some n => rfl
        | none =>
          split
          · rfl
          · exact hgrow k hs
    · rw [if_neg hv, hrest fun hc => hv hc.1]
      exact (hothers v (Ne.symm hv) k).symm

theorem updateTeamId_mirrors_iff {w : World} (h : Mirrors w.redis w.db)
    (userId value year pick : Nat) :
    Mirrors (w.updateTeamId userId value year pick).1.redis
        (w.updateTeamId userId value year pick).1.db ↔
      ∀ t, prunedTeam w.db userId value year = some t → AtMostOneRow w.db userId t := by
  unfold World.updateTeamId prunedTeam
  cases hup : updateUserProfileTeamId w.db userId value with
  | error e => exact iff_of_true h (fun t ht => by cases ht)
  | ok p =>
    obtain ⟨db1, prev⟩ := p
    obtain ⟨-, user, -, -, -, rfl, -⟩ := updateUserProfileTeamId_ok hup
    have hranks : (w.db.withUsers (w.db.users.save user)).ranks = w.db.ranks := rfl
    dsimp only
    cases hins : insertRankIfAbsent (w.db.withUsers (w.db.users.save user)) ⟨userId, value, year⟩ with
    | error e => exact iff_of_true (h.congr rfl rfl) (fun t ht => by cases ht)
    | ok db2 =>
      obtain ⟨rows, hw, hkeys, hsome, -⟩ := insertRankIfAbsent_ok hins
      obtain ⟨own, hown⟩ := Option.isSome_iff_exists.1 hsome
      obtain ⟨data, hdata⟩ := aggregate_ne_none (Table.mem_of_find? hown)
        (congrArg RankKey.user (Table.find?_key hown))
      dsimp only
      rw [hdata]
      dsimp only [Option.any]
      by_cases he : World.isEmptied data prev value = true
      · rw [if_pos he, if_pos he]
        refine (prune_mirrors_iff h hranks hw hkeys hsome hdata he).trans ?_
        constructor
        · intro hone t ht; cases ht; exact hone
        · intro hone; exact hone prev rfl
      · rw [if_neg he, if_neg he]
        refine iff_of_true ?_ (fun t ht => by cases ht)
        have hhook : rankingHook db2 w.redis userId = w.redis.updateRankings userId data := by
          unfold rankingHook
          rw [hdata]
        dsimp only
        rw [← hhook]
        exact hook_mirrors h rfl hranks hw fun r hm => congrArg RankKey.user (hkeys r hm)

/-! ## Histories -/

/-- A change of team that drops the team left behind finds at most one row for it. -/
def PrunesAtMostOne (w : World) : Event → Prop
  | .request (.updateUserProfile userId (.teamId value) year _) =>
    ∀ t, prunedTeam w.db userId value year = some t → AtMostOneRow w.db userId t
  | _ => True

section

variable (extractKeyFromUrl : String → Option String)

/-- Only the profile hash is written. -/
theorem Redis.updateFieldsOfUser_ok {redis redis' : Redis} {userId : Nat} {field value : String}
    (h : redis.updateFieldsOfUser userId field value = .ok redis') :
    redis'.rankings = redis.rankings := by
  unfold updateFieldsOfUser at h
  split at h
  · cases h
  · cases h; rfl

theorem updateImage_rankings (w : World) (userId : Nat) (value : String) :
    (w.updateImage extractKeyFromUrl userId value).1.redis.rankings = w.redis.rankings := by
  unfold World.updateImage
  cases updateUserProfileImage w.db userId value with
  | error e => rfl
  | ok p =>
    dsimp only
    split
    · dsimp only
      split <;> simp
    · next hu =>
      dsimp only
      rw [Redis.updateFieldsOfUser_ok hu]
      split <;> simp

theorem updateNickname_rankings (w : World) (userId : Nat) (value : String) :
    (w.updateNickname userId value).1.redis.rankings = w.redis.rankings := by
  unfold World.updateNickname
  cases updateUserProfileNickname w.db userId value with
  | error e => rfl
  | ok db' =>
    dsimp only
    split
    · rfl
    · next hu => exact Redis.updateFieldsOfUser_ok hu

theorem updateImage_mirrors {w : World} (h : Mirrors w.redis w.db) (userId : Nat) (value : String) :
    Mirrors (w.updateImage extractKeyFromUrl userId value).1.redis
      (w.updateImage extractKeyFromUrl userId value).1.db := by
  refine h.congr (updateImage_rankings extractKeyFromUrl w userId value) ?_
  rw [World.updateImage_db]
  refine committed_of (P := fun db => db.ranks = w.db.ranks) rfl fun db' prev hok => ?_
  obtain ⟨-, user, -, -, rfl, -⟩ := updateUserProfileImage_ok hok
  rfl

theorem updateNickname_mirrors {w : World} (h : Mirrors w.redis w.db) (userId : Nat)
    (value : String) :
    Mirrors (w.updateNickname userId value).1.redis (w.updateNickname userId value).1.db := by
  refine h.congr (updateNickname_rankings w userId value) ?_
  rw [show (w.updateNickname userId value).1.db = nicknameCommit w.db userId value from
    World.step_db (fun _ => none) w (.updateUserProfile userId (.nickname value) 0 0)]
  unfold nicknameCommit
  cases hok : updateUserProfileNickname w.db userId value with
  | error e => rfl
  | ok db' =>
    obtain ⟨-, user, -, -, rfl, -⟩ := updateUserProfileNickname_ok hok
    rfl

/-- What every event keeps, and when it keeps the mirror. -/
theorem next_mirrors_iff (w : World) (e : Event) (hfk : RankFk w.db) (h : Mirrors w.redis w.db) :
    Mirrors (w.next extractKeyFromUrl e).redis (w.next extractKeyFromUrl e).db ↔
      PrunesAtMostOne w e := by
  cases e with
  | outcomes f => exact iff_of_true (h.congr rfl rfl) trivial
  | newGame game => exact iff_of_true (h.congr rfl (insertGame_keeps w.db game).1) trivial
  | request op =>
    cases op with
    | registerLocalUser dto env year =>
      refine iff_of_true ?_ trivial
      refine World.transactional_of (P := fun w => Mirrors w.redis w.db) h fun db user hok => ?_
      obtain ⟨db1, k, hs, hins, hk, -⟩ := registerLocalUser_ok hok
      exact cacheUser_mirrors h hs hins hk
    | loginSocialUser sub email provider pick env year =>
      refine iff_of_true ?_ trivial
      refine World.transactional_of (P := fun w => Mirrors w.redis w.db) h fun db p hok => ?_
      obtain ⟨user, isNewUser⟩ := p
      rcases loginSocialUser_ok hok with ⟨rfl, rfl⟩ | ⟨rfl, db1, k, hs, hins, hk, -⟩
      · exact h
      · exact cacheUser_mirrors h hs hins hk
    | register dto userId newId =>
      exact iff_of_true (register_mirrors extractKeyFromUrl h dto userId newId) trivial
    | update id dto userId =>
      exact iff_of_true (update_mirrors extractKeyFromUrl h id dto userId) trivial
    | delete id userId => exact iff_of_true (delete_mirrors extractKeyFromUrl h id userId) trivial
    | updateUserProfile userId input year pick =>
      cases input with
      | image value => exact iff_of_true (updateImage_mirrors extractKeyFromUrl h userId value) trivial
      | nickname value => exact iff_of_true (updateNickname_mirrors h userId value) trivial
      | teamId value => exact updateTeamId_mirrors_iff h userId value year pick
    | deleteUser userId =>
      refine iff_of_true ?_ trivial
      show Mirrors (w.step extractKeyFromUrl (.deleteUser userId)).redis
        (w.step extractKeyFromUrl (.deleteUser userId)).db
      cases hrow : deleteUserRow w.db userId with
      | error e =>
        rw [World.step_deleteUser_error extractKeyFromUrl hrow]
        exact h
      | ok p =>
        rw [World.step_deleteUser_ok extractKeyFromUrl hrow]
        exact deleteUser_mirrors h hfk userId

theorem next_rankFk (w : World) (e : Event) (h : RankFk w.db) :
    RankFk (w.next extractKeyFromUrl e).db := by
  cases e with
  | request op =>
    show RankFk (w.step extractKeyFromUrl op).db
    rw [World.step_db]
    exact commit_rankFk h op
  | outcomes f => exact h.congr rfl rfl fun u hu => hu
  | newGame game =>
    obtain ⟨hr, hu, ht⟩ := insertGame_keeps w.db game
    exact h.congr hr ht fun u hf => (congrArg (fun t => (Table.find? t u).isSome) hu).trans hf

/-- **Rankings as a projection.**  The sorted sets hold the projection of the rank table
after every operation of a history exactly when each change of team that drops the team
left behind finds at most one row for it. -/
theorem rankings_project_iff (teams : Table Team.id) (stadiums : Table Stadium.id)
    (games : Table GameRow.id) (terms : Table Term.id) (history : List Event) :
    Always (World.next extractKeyFromUrl) (fun w => Mirrors w.redis w.db)
        (World.start teams stadiums games terms) history ↔
      Guarded (World.next extractKeyFromUrl) PrunesAtMostOne
        (World.start teams stadiums games terms) history := by
  have hstart : RankFk (World.start teams stadiums games terms).db :=
    ⟨nofun, nofun, nofun⟩
  have hmirror : Mirrors (World.start teams stadiums games terms).redis
      (World.start teams stadiums games terms).db := by
    intro u k
    cases k <;> rfl
  exact always_iff_guarded (fun w e h => next_rankFk extractKeyFromUrl w e h)
    (fun w e h hm => next_mirrors_iff extractKeyFromUrl w e h hm) hstart hmirror history

end

/-- A fan keeps the team for a second season and leaves it before a game counted. -/
def twoSeasons : List Event :=
  [.request (.registerLocalUser ⟨"fan@test", "pw", "", "fan", 1⟩ ⟨1, "hash", fun _ => 0⟩ 2024),
   .request (.updateUserProfile 1 (.teamId 1) 2025 0),
   .request (.updateUserProfile 1 (.teamId 2) 2025 0)]

/-- One of two empty rows is removed: the table still has the team, the ranking has not. -/
theorem rankings_not_projected :
    ¬ Always (World.next fun _ => none) (fun w => Mirrors w.redis w.db)
      (World.start twoTeams .empty .empty .empty) twoSeasons := by
  intro h
  have hlast := h.last 1 (.team 1)
  revert hlast
  decide

end VictoryFairy
