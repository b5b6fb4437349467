import Mathlib.Data.List.Dedup
import Mathlib.Logic.Function.Basic
import VictoryFairy.Model.CoreServices

/-!
# Redis: rankings and cached profiles

`rank:k` is a sorted set of user ids, `userInfo:u` a hash.  A command on a key
that does not exist sees an empty set or hash.  `aggregateRankStatsByUserId`
groups the rank table of a user over the years; `updateRankings` writes the
result out, `rankingHook` is the two together.

    projected_team, projected_total : what the aggregate holds under each key
    zscore_rankingHook              : what the sorted sets hold afterwards
-/

namespace VictoryFairy

/-- The keys of `AggregatedRankStats` and the suffixes of `rank:`. -/
inductive RankingKey where
  | team (id : Nat)
  | total
deriving DecidableEq, Repr

/-- `AggregatedRankStats`, the properties of the object in order. -/
abbrev AggregatedRankStats := List (RankingKey × RankScoreVo)

namespace AggregatedRankStats

/-- `data[key]` -/
def get (data : AggregatedRankStats) (k : RankingKey) : Option RankScoreVo :=
  (data.find? fun e => decide (e.1 = k)).map Prod.snd

/-- `delete data[key]` -/
def delete (data : AggregatedRankStats) (k : RankingKey) : AggregatedRankStats :=
  data.filter fun e => decide (e.1 ≠ k)

end AggregatedRankStats

/-- One row of the `GROUP BY team_id` query. -/
def groupedVo (rows : List Rank) (teamId : Nat) : RankScoreVo :=
  let sum (f : Rank → Nat) := (rows.map fun r => if r.teamId = teamId then f r else 0).sum
  { win := sum Rank.win, lose := sum Rank.lose, tie := sum Rank.tie, cancel := sum Rank.cancel }

def aggregateRankStatsByUserId (db : Db) (userId : Nat) : Option AggregatedRankStats :=
  let rows := db.ranks.rows.filter fun r => r.user = userId
  if rows.isEmpty then none
  else
    let teamVoMap := (rows.map Rank.teamId).dedup.map fun t => (RankingKey.team t, groupedVo rows t)
    let total := RankScoreVo.add ⟨0, 0, 0, 0⟩ (teamVoMap.map Prod.snd)
    some (teamVoMap ++ [(.total, total)])

/-! ## The store -/

/-- A sorted set: members with their scores. -/
abbrev ZSet := Table (Prod.fst : Nat × Int → Nat)

/-- The fields the services write into a `userInfo` hash. -/
structure UserInfoHash where
  id : Option Nat
  nickname : Option String
  profileImage : Option String
  field : Option String
  value : Option String
deriving DecidableEq, Repr

def UserInfoHash.empty : UserInfoHash := ⟨none, none, none, none, none⟩

structure Redis where
  rankings : RankingKey → ZSet
  userInfo : Nat → UserInfoHash

namespace Redis

def empty : Redis := ⟨fun _ => .empty, fun _ => .empty⟩

def zadd (redis : Redis) (k : RankingKey) (score : Int) (member : Nat) : Redis :=
  { redis with rankings := Function.update redis.rankings k ((redis.rankings k).save (member, score)) }

def zrem (redis : Redis) (k : RankingKey) (member : Nat) : Redis :=
  { redis with rankings := Function.update redis.rankings k ((redis.rankings k).remove member) }

def zscore (redis : Redis) (k : RankingKey) (member : Nat) : Option Int :=
  ((redis.rankings k).find? member).map Prod.snd

/-! ### `RankingRedisService` -/

def updateRankings (redis : Redis) (userId : Nat) (data : AggregatedRankStats) : Redis :=
  data.foldl (fun redis e => redis.zadd e.1 e.2.getIntegerScoreForRedis userId) redis

def deleteRankByUserId (redis : Redis) (userId : Nat) (teamIds : List Nat) : Redis :=
  teamIds.foldl (fun redis teamId => redis.zrem (.team teamId) userId) (redis.zrem .total userId)

/-! ### `UserRedisService` -/

def setUserInfo (redis : Redis) (userId : Nat) (info : UserInfoHash) : Redis :=
  { redis with userInfo := Function.update redis.userInfo userId info }

/-- `HSET userInfo:id` with the properties `id`, `nickname` and `profile_image`. -/
def saveUsers (redis : Redis) (userInfos : List User) : Redis :=
  userInfos.foldl (fun redis u =>
    let info := redis.userInfo u.id
    redis.setUserInfo u.id
      { info with id := some u.id, nickname := some u.nickname, profileImage := some u.profileImage })
    redis

def deleteUser (redis : Redis) (userId : Nat) : Redis := redis.setUserInfo userId .empty

/-- The object `{ field, value }` itself is written into the hash. -/
def updateFieldsOfUser (redis : Redis) (userId : Nat) (field value : String) :
    Except AppError Redis :=
  if redis.userInfo userId = .empty then .error (.http 500 "Redis userInfo 업데이트 실패")
  else
    let info := redis.userInfo userId
    .ok (redis.setUserInfo userId { info with field := some field, value := some value })

end Redis

/-- The post-commit update of a user's rankings.  Without rank rows the aggregate is
`undefined` and `Object.entries` throws before any command is sent. -/
def rankingHook (db : Db) (redis : Redis) (userId : Nat) : Redis :=
  match aggregateRankStatsByUserId db userId with
  | none => redis
  | some data => redis.updateRankings userId data

/-! ## What the commands leave -/

namespace Redis

@[simp] theorem zscore_zadd (redis : Redis) (k k' : RankingKey) (score : Int) (u v : Nat) :
    (redis.zadd k score u).zscore k' v = if k = k' ∧ u = v then some score else redis.zscore k' v := by
  unfold zscore zadd
  by_cases hk : k = k'
  · subst hk
    simp only [Function.update_self, Table.find?_save, true_and]
    split <;> rfl
  · simp [Function.update_of_ne (Ne.symm hk), hk]

@[simp] theorem zscore_zrem (redis : Redis) (k k' : RankingKey) (u v : Nat) :
    (redis.zrem k u).zscore k' v = if k = k' ∧ u = v then none else redis.zscore k' v := by
  unfold zscore zrem
  by_cases hk : k = k'
  · subst hk
    simp only [Function.update_self, Table.find?_remove, true_and]
    split <;> rfl
  · simp [Function.update_of_ne (Ne.symm hk), hk]

/-- With one entry for each key, `updateRankings` writes exactly the entries. -/
theorem zscore_updateRankings (redis : Redis) (u : Nat) (data : AggregatedRankStats)
    (hn : (data.map Prod.fst).Nodup) (k : RankingKey) (v : Nat) :
    (redis.updateRankings u data).zscore k v =
      if u = v then ((data.get k).map (·.getIntegerScoreForRedis)).or (redis.zscore k v)
      else redis.zscore k v := by
  induction data generalizing redis with
  | nil => by_cases h : u = v <;> simp [updateRankings, AggregatedRankStats.get, h]
  | cons e data ih =>
    simp only [List.map_cons, List.nodup_cons, List.mem_map, not_exists, not_and] at hn
    have hstep : redis.updateRankings u (e :: data) =
        (redis.zadd e.1 e.2.getIntegerScoreForRedis u).updateRankings u data := rfl
    rw [hstep, ih _ hn.2, zscore_zadd]
    by_cases huv : u = v
    · subst huv
      by_cases hk : e.1 = k
      · have hnone : data.find? (fun d => decide (d.1 = k)) = none :=
          List.find?_eq_none.2 fun d hd => by simpa using fun h => hn.1 d hd (h.trans hk.symm)
        simp [hk, hnone, AggregatedRankStats.get]
      · simp [hk, AggregatedRankStats.get]
    · simp [huv]

theorem zscore_deleteRankByUserId (redis : Redis) (u : Nat) (teamIds : List Nat) (k : RankingKey)
    (v : Nat) :
    (redis.deleteRankByUserId u teamIds).zscore k v =
      if u = v ∧ (k = .total ∨ ∃ t ∈ teamIds, k = .team t) then none else redis.zscore k v := by
  have hteams : ∀ (teamIds : List Nat) (redis : Redis),
      (teamIds.foldl (fun redis teamId => redis.zrem (.team teamId) u) redis).zscore k v =
        if u = v ∧ ∃ t ∈ teamIds, k = .team t then none else redis.zscore k v := by
    intro teamIds
    induction teamIds with
    | nil => intro redis; simp
    | cons t ts ih =>
      intro redis
      rw [List.foldl_cons, ih, zscore_zrem]
      by_cases huv : u = v
      · by_cases hk : k = .team t
        · simp [huv, hk]
        · simp [huv, hk, Ne.symm hk]
      · simp [huv]
  unfold deleteRankByUserId
  rw [hteams, zscore_zrem]
  by_cases huv : u = v
  · by_cases hk : k = .total
    · simp [huv, hk]
    · simp [huv, hk, Ne.symm hk]
  · simp [huv]

@[simp] theorem userInfo_updateRankings (redis : Redis) (u : Nat) (data : AggregatedRankStats) :
    (redis.updateRankings u data).userInfo = redis.userInfo := by
  unfold updateRankings
  induction data generalizing redis with
  | nil => rfl
  | cons e data ih => exact (ih _).trans rfl

@[simp] theorem userInfo_deleteRankByUserId (redis : Redis) (u : Nat) (teamIds : List Nat) :
    (redis.deleteRankByUserId u teamIds).userInfo = redis.userInfo := by
  unfold deleteRankByUserId
  generalize h : redis.zrem .total u = start
  have hs : start.userInfo = redis.userInfo := by rw [← h]; rfl
  rw [← hs]
  clear h hs
  induction teamIds generalizing start with
  | nil => rfl
  | cons t ts ih => exact (ih _).trans rfl

@[simp] theorem rankings_saveUsers (redis : Redis) (userInfos : List User) :
    (redis.saveUsers userInfos).rankings = redis.rankings := by
  unfold saveUsers
  induction userInfos generalizing redis with
  | nil => rfl
  | cons u us ih => exact (ih _).trans rfl

end Redis

/-! ## What the aggregate holds -/

def rowsOf (db : Db) (userId : Nat) : List Rank := db.ranks.rows.filter fun r => r.user = userId

/-- The record of a user over all teams and years. -/
def totalVo (rows : List Rank) : RankScoreVo where
  win := (rows.map Rank.win).sum
  lose := (rows.map Rank.lose).sum
  tie := (rows.map Rank.tie).sum
  cancel := (rows.map Rank.cancel).sum

/-- The entry of the aggregate under a key. -/
def projected (db : Db) (userId : Nat) (k : RankingKey) : Option RankScoreVo :=
  (aggregateRankStatsByUserId db userId).bind fun data => data.get k

theorem mem_rowsOf {db : Db} {u : Nat} {r : Rank} :
    r ∈ rowsOf db u ↔ r ∈ db.ranks.rows ∧ r.user = u := by
  simp [rowsOf]

theorem rowsOf_saveRank (db : Db) (row : Rank) (u : Nat) (h : row.user ≠ u) :
    (db.ranks.save row).rows.filter (fun r => decide (r.user = u)) = rowsOf db u := by
  refine Table.filter_save _ _ _ fun b hb => ?_
  have : b.user = row.user := congrArg RankKey.user hb
  simp [this, h]

theorem aggregate_eq (db : Db) (u : Nat) :
    aggregateRankStatsByUserId db u = if (rowsOf db u).isEmpty then none else
      some (((rowsOf db u).map Rank.teamId).dedup.map
        (fun t => (RankingKey.team t, groupedVo (rowsOf db u) t)) ++
        [(.total, RankScoreVo.add ⟨0, 0, 0, 0⟩ ((((rowsOf db u).map Rank.teamId).dedup.map
          fun t => (RankingKey.team t, groupedVo (rowsOf db u) t)).map Prod.snd))]) := rfl

theorem aggregate_keys_nodup {db : Db} {u : Nat} {data : AggregatedRankStats}
    (h : aggregateRankStatsByUserId db u = some data) : (data.map Prod.fst).Nodup := by
  rw [aggregate_eq] at h
  split at h
  · cases h
  · cases h
    rw [List.map_append, List.map_map]
    refine List.nodup_append.2 ⟨?_, by simp, ?_⟩
    · exact (List.nodup_dedup _).map fun a b e => RankingKey.team.inj e
    · intro a ha b hb
      obtain ⟨t, -, rfl⟩ := List.mem_map.1 ha
      simp only [List.map_cons, List.map_nil, List.mem_singleton] at hb
      rw [hb]
      exact RankingKey.noConfusion

theorem add_foldl (l : List RankScoreVo) (v : RankScoreVo) :
    v.add l = ⟨v.win + (l.map (·.win)).sum, v.lose + (l.map (·.lose)).sum,
      v.tie + (l.map (·.tie)).sum, v.cancel + (l.map (·.cancel)).sum⟩ := by
  unfold RankScoreVo.add
  induction l generalizing v with
  | nil => rfl
  | cons o l ih => rw [List.foldl_cons, ih]; simp [Nat.add_assoc]

/-- Adding the groups up gives the sum over all rows. -/
theorem add_groups (rows : List Rank) :
    RankScoreVo.add ⟨0, 0, 0, 0⟩ (((rows.map Rank.teamId).dedup.map
      fun t => (RankingKey.team t, groupedVo rows t)).map Prod.snd) = totalVo rows := by
  have hsum : ∀ f : Rank → Nat, (((rows.map Rank.teamId).dedup).map fun t =>
      (rows.map fun r => if r.teamId = t then f r else 0).sum).sum = (rows.map f).sum := fun f =>
    Table.sum_groups f Rank.teamId rows _ (List.nodup_dedup _)
      fun r hr => List.mem_dedup.2 (List.mem_map_of_mem hr)
  rw [add_foldl, totalVo]
  simp only [List.map_map, Nat.zero_add, RankScoreVo.mk.injEq]
  exact ⟨hsum Rank.win, hsum Rank.lose, hsum Rank.tie, hsum Rank.cancel⟩

theorem projected_team (db : Db) (u t : Nat) :
    projected db u (.team t) =
      if t ∈ (rowsOf db u).map Rank.teamId then some (groupedVo (rowsOf db u) t) else none := by
  unfold projected
  rw [aggregate_eq]
  by_cases hr : rowsOf db u = []
  · simp [hr]
  · rw [if_neg (by simpa using hr), Option.bind_some]
    unfold AggregatedRankStats.get
    rw [List.find?_append]
    have hfind : ∀ ts : List Nat, (ts.map fun t => (RankingKey.team t, groupedVo (rowsOf db u) t)).find?
        (fun e => decide (e.1 = RankingKey.team t)) =
        if t ∈ ts then some (RankingKey.team t, groupedVo (rowsOf db u) t) else none := by
      intro ts
      induction ts with
      | nil => rfl
      | cons s ts ih =>
        rw [List.map_cons, List.find?_cons]
        by_cases hs : s = t
        · simp [hs]
        · simp only [RankingKey.team.injEq, hs, decide_false, ih, List.mem_cons, Ne.symm hs, false_or]
    rw [hfind]
    simp only [List.mem_dedup]
    split <;> simp

theorem projected_total (db : Db) (u : Nat) :
    projected db u .total = if rowsOf db u = [] then none else some (totalVo (rowsOf db u)) := by
  unfold projected
  rw [aggregate_eq]
  by_cases hr : rowsOf db u = []
  · simp [hr]
  · rw [if_neg (by simpa using hr), if_neg hr, Option.bind_some, add_groups]
    unfold AggregatedRankStats.get
    rw [List.find?_append, List.find?_eq_none.2]
    · rfl
    · intro e he
      obtain ⟨t, -, rfl⟩ := List.mem_map.1 he
      simp

/-- The aggregate of a user is determined by the user's rows. -/
theorem projected_congr {db db' : Db} {u : Nat} (h : rowsOf db u = rowsOf db' u) (k : RankingKey) :
    projected db u k = projected db' u k := by
  cases k with
  | team t => rw [projected_team, projected_team, h]
  | total => rw [projected_total, projected_total, h]

/-- What the sorted sets hold after the hook. -/
theorem zscore_rankingHook (db : Db) (redis : Redis) (u : Nat) (k : RankingKey) (v : Nat) :
    (rankingHook db redis u).zscore k v =
      if u = v then ((projected db u k).map (·.getIntegerScoreForRedis)).or (redis.zscore k v)
      else redis.zscore k v := by
  unfold rankingHook projected
  cases h : aggregateRankStatsByUserId db u with
  | none => simp
  | some data => exact Redis.zscore_updateRankings redis u data (aggregate_keys_nodup h) k v

end VictoryFairy
