import VictoryFairy.Lib.Runs
import VictoryFairy.Model.Hooks

/-!
# When the ranking endpoint answers

The endpoint answers when every member of every sorted set has a cached profile
(`Cached`).  Of the Redis commands, only two can break that: a `DEL` of a profile
whose user is still in a ranking, and a `ZADD` of a user without a profile.

    commands_exec          : the commands of a process are the services' calls
    getRankList_ok, getUserNearByWithUserStats_ok
    ranking_endpoint_iff   : the endpoint answers in every state of a race exactly
                             when no command of these two kinds finds such a state
-/

namespace VictoryFairy

open Runs

/-! ## The commands of a process -/

theorem exec_updateRankingsCommands (redis : Redis) (userId : Nat) (data : AggregatedRankStats) :
    run RedisCommand.exec redis (updateRankingsCommands userId data) =
      redis.updateRankings userId data := by
  unfold run updateRankingsCommands Redis.updateRankings
  rw [List.foldl_map]
  rfl

theorem exec_zremCommands (redis : Redis) (userId : Nat) (teamIds : List Nat) :
    run RedisCommand.exec redis (.zrem .total userId :: teamIds.map fun t => .zrem (.team t) userId) =
      redis.deleteRankByUserId userId teamIds := by
  rw [run_cons]
  unfold run Redis.deleteRankByUserId
  rw [List.foldl_map]
  rfl

/-- Run without interruption, a process is the sequence of service calls it stands for. -/
theorem commands_exec (redis : Redis) (p : RedisProcess) :
    run RedisCommand.exec redis p.commands =
      match p with
      | .signUpHook user data => (redis.saveUsers [user]).updateRankings user.id data
      | .requestHook userId data => redis.updateRankings userId data
      | .deleteUser userId teamIds => (redis.deleteUser userId).deleteRankByUserId userId teamIds := by
  cases p with
  | signUpHook user data => exact exec_updateRankingsCommands _ _ _
  | requestHook userId data => exact exec_updateRankingsCommands _ _ _
  | deleteUser userId teamIds => exact exec_zremCommands _ _ _

/-! ## The endpoint -/

/-- Every member of every ranking has a cached profile under its own id. -/
def Cached (redis : Redis) : Prop :=
  ∀ k, ∀ e ∈ (redis.rankings k).rows, (redis.userInfo e.1).id = some e.1

theorem mem_of_mem_zrevrange {z : ZSet} {start stop : Int} {e : Nat × Int}
    (h : e ∈ zrevrange z start stop) : e ∈ z.rows := by
  unfold zrevrange at h
  by_cases hempty : (if stop < 0 then (z.rows.length : Int) + stop else stop) <
      max (if start < 0 then (z.rows.length : Int) + start else start) 0
  · rw [if_pos hempty] at h
    cases h
  · rw [if_neg hempty] at h
    exact (List.mem_insertionSort precedes).1 (List.mem_of_mem_drop (List.mem_of_mem_take h))

/-- The cached profile of a user. -/
def Redis.profile (redis : Redis) (userId : Nat) : UserProfile :=
  ⟨userId, (redis.userInfo userId).nickname, (redis.userInfo userId).profileImage⟩

/-- An entry of a ranking, with the cached profile. -/
def Redis.withProfile (redis : Redis) (d : RefinedRankData) : RefinedRankDataWithProfile where
  rank := d.rank
  score := d.score
  userId := d.userId
  nickname := (redis.userInfo d.userId).nickname
  profileImage := (redis.userInfo d.userId).profileImage

/-- With every profile cached, the map has the profiles, the last one first. -/
theorem getUserInfoByIds_eq {redis : Redis} {userIds : List Nat}
    (h : ∀ u ∈ userIds, (redis.userInfo u).id = some u) :
    redis.getUserInfoByIds userIds = .ok (userIds.map redis.profile).reverse := by
  have hloop : ∀ (userIds : List Nat) (acc : List UserProfile),
      (∀ u ∈ userIds, (redis.userInfo u).id = some u) →
      userIds.foldlM redis.parseUserInfo acc = .ok ((userIds.map redis.profile).reverse ++ acc) := by
    intro userIds
    induction userIds with
    | nil => exact fun acc _ => rfl
    | cons v userIds ih =>
      intro acc hv
      have hstep : redis.parseUserInfo acc v = .ok (redis.profile v :: acc) := by
        unfold Redis.parseUserInfo
        rw [hv v List.mem_cons_self]
        rfl
      rw [List.foldlM_cons, hstep]
      refine (ih _ fun u hu => hv u (List.mem_cons_of_mem v hu)).trans ?_
      rw [List.map_cons, List.reverse_cons, List.append_assoc]
      rfl
  refine (hloop userIds [] h).trans ?_
  rw [List.append_nil]

/-- The entry of the map under an id is the profile of this user. -/
theorem find?_profile {redis : Redis} {userIds : List Nat} {u : Nat} (hu : u ∈ userIds) :
    ((userIds.map redis.profile).reverse.find? fun p => p.id == u) = some (redis.profile u) := by
  have hmem : redis.profile u ∈ (userIds.map redis.profile).reverse :=
    List.mem_reverse.2 (List.mem_map_of_mem hu)
  cases hfind : (userIds.map redis.profile).reverse.find? fun p => p.id == u with
  | none => exact absurd (List.find?_eq_none.1 hfind _ hmem) (by simp [Redis.profile])
  | some p =>
    obtain ⟨v, -, rfl⟩ := List.mem_map.1 (List.mem_reverse.1 (List.mem_of_find?_eq_some hfind))
    have hv : v = u := by simpa [Redis.profile] using List.find?_some hfind
    rw [hv]

theorem concatRankDataWithUserProfile_eq {redis : Redis} {rankData : List RefinedRankData}
    (h : ∀ d ∈ rankData, (redis.userInfo d.userId).id = some d.userId) :
    redis.concatRankDataWithUserProfile rankData = .ok (rankData.map redis.withProfile) := by
  unfold Redis.concatRankDataWithUserProfile
  rw [getUserInfoByIds_eq (List.forall_mem_map.2 h)]
  refine mapM_ok fun d hd => ?_
  rw [find?_profile (List.mem_map_of_mem hd)]
  rfl

/-- The entries of a range, with their profiles. -/
theorem getRankList_eq {redis : Redis} {k : RankingKey}
    (h : ∀ e ∈ (redis.rankings k).rows, (redis.userInfo e.1).id = some e.1) (start stop : Int) :
    redis.getRankList start stop k =
      .ok ((redis.getRefinedRankDataFromRedis start stop k).map redis.withProfile) := by
  refine concatRankDataWithUserProfile_eq fun d hd => ?_
  obtain ⟨i, hi, rfl⟩ := List.mem_mapIdx.1 hd
  exact h _ (mem_of_mem_zrevrange (List.getElem_mem hi))

theorem getRankList_ok {redis : Redis} (h : Cached redis) (start stop : Int) (k : RankingKey) :
    ∃ list, redis.getRankList start stop k = .ok list :=
  ⟨_, getRankList_eq (h k) start stop⟩

theorem getUserNearByWithUserStats_ok {redis : Redis} (h : Cached redis) (db : Db) (userId : Nat)
    (k : RankingKey) : ∃ res, redis.getUserNearByWithUserStats db userId k = .ok res := by
  unfold Redis.getUserNearByWithUserStats
  dsimp only
  split
  · exact ⟨_, rfl⟩
  · next userRank _ =>
    obtain ⟨nearBy, hnear⟩ := getRankList_ok h (max ((userRank : Int) - 1) 0) (userRank + 1) k
    unfold Redis.getRankList at hnear
    rw [hnear]
    exact ⟨_, rfl⟩

/-- The endpoint has a result for every range, user and ranking. -/
structure Serves (redis : Redis) : Prop where
  cached : Cached redis
  list : ∀ start stop k, ∃ list, redis.getRankList start stop k = .ok list
  nearBy : ∀ db userId k, ∃ res, redis.getUserNearByWithUserStats db userId k = .ok res

theorem serves_iff (redis : Redis) : Serves redis ↔ Cached redis :=
  ⟨Serves.cached, fun h => ⟨h, getRankList_ok h, getUserNearByWithUserStats_ok h⟩⟩

/-! ## What one command does to the cache -/

/-- A command that leaves no ranking member without a profile. -/
def SafeCommand (redis : Redis) : RedisCommand → Prop
  | .hset _ => True
  | .zadd _ _ member => (redis.userInfo member).id = some member
  | .del userId => ∀ k, ∀ e ∈ (redis.rankings k).rows, e.1 ≠ userId
  | .zrem _ _ => True

theorem hset_cached {redis : Redis} (h : Cached redis) (user : User) :
    Cached (redis.saveUsers [user]) := by
  intro k e he
  show (Function.update redis.userInfo user.id _ e.1).id = some e.1
  by_cases hu : e.1 = user.id
  · rw [hu, Function.update_self]
  · rw [Function.update_of_ne hu]
    exact h k e he

theorem zadd_cached_iff {redis : Redis} (h : Cached redis) (k : RankingKey) (score : Int)
    (member : Nat) :
    Cached (redis.zadd k score member) ↔ (redis.userInfo member).id = some member := by
  constructor
  · intro hc
    refine hc k (member, score) ?_
    show _ ∈ (Function.update redis.rankings k _ k).rows
    rw [Function.update_self]
    exact Table.mem_save.2 (Or.inl rfl)
  · intro hm k' e he
    change e ∈ (Function.update redis.rankings k _ k').rows at he
    by_cases hk : k' = k
    · subst hk
      rw [Function.update_self] at he
      rcases Table.mem_save.1 he with rfl | ⟨he, -⟩
      · exact hm
      · exact h k' e he
    · rw [Function.update_of_ne hk] at he
      exact h k' e he

theorem zrem_cached {redis : Redis} (h : Cached redis) (k : RankingKey) (member : Nat) :
    Cached (redis.zrem k member) := by
  intro k' e he
  change e ∈ (Function.update redis.rankings k _ k').rows at he
  by_cases hk : k' = k
  · subst hk
    rw [Function.update_self] at he
    exact h k' e (Table.mem_remove.1 he).1
  · rw [Function.update_of_ne hk] at he
    exact h k' e he

theorem del_cached_iff {redis : Redis} (h : Cached redis) (userId : Nat) :
    Cached (redis.deleteUser userId) ↔ ∀ k, ∀ e ∈ (redis.rankings k).rows, e.1 ≠ userId := by
  constructor
  · intro hc k e he hu
    have hid : (Function.update redis.userInfo userId UserInfoHash.empty e.1).id = some e.1 :=
      hc k e he
    rw [hu, Function.update_self] at hid
    cases hid
  · intro hno k e he
    show (Function.update redis.userInfo userId UserInfoHash.empty e.1).id = some e.1
    rw [Function.update_of_ne (hno k e he)]
    exact h k e he

theorem exec_cached_iff {redis : Redis} (h : Cached redis) (c : RedisCommand) :
    Cached (c.exec redis) ↔ SafeCommand redis c := by
  cases c with
  | hset user => exact iff_of_true (hset_cached h user) trivial
  | zadd k score member => exact zadd_cached_iff h k score member
  | del userId => exact del_cached_iff h userId
  | zrem k member => exact iff_of_true (zrem_cached h k member) trivial

/-! ## Races -/

/-- The command that an event sends, if it sends one, is safe. -/
def SafeEvent (s : RedisRace) : RaceEvent → Prop
  | .start _ => True
  | .advance i => ∀ c, s.nextCommand i = some c → SafeCommand s.redis c

/-- **The ranking endpoint.**  In every state of an interleaving of hooks and deletions the
endpoint answers exactly when each `DEL` finds its user in no ranking and each `ZADD` finds
its user's profile. -/
theorem ranking_endpoint_iff (events : List RaceEvent) :
    Always RedisRace.step (fun s => Serves s.redis) .init events ↔
      Guarded RedisRace.step SafeEvent .init events := by
  have hinit : Serves RedisRace.init.redis := (serves_iff _).2 nofun
  refine always_iff_guarded (I := fun _ => True) (P := fun s : RedisRace => Serves s.redis)
    (fun _ _ _ => trivial) (fun s e _ h => ?_) trivial hinit events
  rw [serves_iff] at h ⊢
  cases e with
  | start p => exact iff_of_true h trivial
  | advance i =>
    unfold RedisRace.step SafeEvent
    dsimp only
    cases hc : s.nextCommand i with
    | none => exact iff_of_true h (fun c hc => nomatch hc)
    | some c =>
      refine (exec_cached_iff h c).trans ⟨fun hs d hd => ?_, fun hs => hs c rfl⟩
      cases hd
      exact hs

def racingUser : User := ⟨7, DEFAULT_PROFILE_IMAGE, "fan", "fan@test", 1⟩

/-- A user signs up and is deleted between the read and the write of a request's hook. -/
def lateHook : List RaceEvent :=
  [.start (.signUpHook racingUser [(.team 1, ⟨0, 0, 0, 0⟩), (.total, ⟨0, 0, 0, 0⟩)]),
   .advance 0, .advance 0, .advance 0,
   .start (.requestHook 7 [(.team 1, ⟨1, 0, 0, 0⟩), (.total, ⟨1, 0, 0, 0⟩)]),
   .start (.deleteUser 7 [1, 2]),
   .advance 2, .advance 2, .advance 2, .advance 2,
   .advance 1, .advance 1]

/-- The late hook puts the deleted user back into the rankings for good. -/
theorem ranking_endpoint_breaks :
    ¬ Always RedisRace.step (fun s => Serves s.redis) .init lateHook := by
  intro h
  obtain ⟨list, hlist⟩ := h.last.list 0 (-1) .total
  revert hlist
  have herr : (run RedisRace.step .init lateHook).redis.getRankList 0 (-1) .total =
      .error .typeError := by decide
  rw [herr]
  intro hc
  cases hc

end VictoryFairy
