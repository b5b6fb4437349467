import VictoryFairy.Proofs.Commits
import VictoryFairy.Proofs.NearbyRanks
import VictoryFairy.Proofs.ProfileCache
import VictoryFairy.Proofs.VersusStats

/-!
# The standings

A registration with a result is counted in a rank row, the rank rows of a user are summed up
into the sorted sets, and the endpoint lists a sorted set.  From end to end, what is listed of
a user is the record of the user's own registrations.

    record                  : the results of a user's registrations
    projected_record        : the aggregate of the rank rows is this record
    next_idsCached          : every user has a profile hash
    Standings               : the list a ranking should be
    rankings_are_standings  : the endpoint lists it in every state of a history
-/

namespace VictoryFairy

open Runs

/-! ## Records -/

/-- The ranking counts games of the team. -/
def RankingKey.covers : RankingKey → Nat → Bool
  | .team t, teamId => teamId = t
  | .total, _ => true

namespace Db

/-- The registrations of a user with a status, for a ranking. -/
def settled (db : Db) (u : Nat) (k : RankingKey) (s : RegisteredGameStatus) :
    List RegisteredGame :=
  db.registeredGames.rows.filter fun r =>
    r.user = u && k.covers r.cheeringTeam && r.status = some s

/-- The results of a user's registrations. -/
def record (db : Db) (u : Nat) (k : RankingKey) : RankScoreVo where
  win := (db.settled u k .win).length
  lose := (db.settled u k .lose).length
  tie := (db.settled u k .tie).length
  cancel := (db.settled u k .noGame).length

/-- The user has a rank row that the ranking counts. -/
def Ranked (db : Db) (u : Nat) (k : RankingKey) : Prop :=
  ∃ row ∈ db.ranks.rows, row.user = u ∧ k.covers row.teamId = true

/-- The rank rows of a user that a ranking counts. -/
def countedRows (db : Db) (u : Nat) (k : RankingKey) : List Rank :=
  (rowsOf db u).filter fun r => k.covers r.teamId

end Db

section

variable {db : Db} {u : Nat} {k : RankingKey} {s : RegisteredGameStatus}

theorem mem_settled {r : RegisteredGame} : r ∈ db.settled u k s ↔
    r ∈ db.registeredGames.rows ∧ r.user = u ∧ k.covers r.cheeringTeam = true ∧
      r.status = some s := by
  simp [Db.settled, and_assoc]

theorem mem_countedRows {row : Rank} : row ∈ db.countedRows u k ↔
    row ∈ db.ranks.rows ∧ row.user = u ∧ k.covers row.teamId = true := by
  simp [Db.countedRows, mem_rowsOf, and_assoc]

theorem ranked_iff : db.Ranked u k ↔ db.countedRows u k ≠ [] := by
  rw [Ne, List.eq_nil_iff_forall_not_mem, not_forall]
  refine exists_congr fun row => ?_
  rw [not_not, mem_countedRows]

theorem score_isSome_iff : (score db u k).isSome ↔ db.Ranked u k := by
  rw [← not_iff_not, Option.not_isSome_iff_eq_none]
  cases k with
  | team t =>
    rw [score_team_none]
    simp [Db.Ranked, RankingKey.covers]
  | total =>
    rw [score_total_none]
    simp [Db.Ranked, RankingKey.covers]

/-- A registration that counts for some row counts for its own. -/
theorem counts_iff {r : RegisteredGame} (hgame : (db.games.find? r.game).isSome) (key : RankKey) :
    db.counts key s r = true ↔ rankKeyOf db r = key ∧ r.status = some s := by
  obtain ⟨game, hg⟩ := Option.isSome_iff_exists.1 hgame
  have hy : db.yearOf r.game = some game.date.getFullYear := by simp [Db.yearOf, hg]
  obtain ⟨user, team, year⟩ := key
  simp only [Db.counts, rankKeyOf, hy, Option.getD_some, Bool.and_eq_true, decide_eq_true_eq,
    Option.some.injEq, RankKey.mk.injEq, and_assoc]

/-- What is counted has a row to be counted in. -/
theorem rankKeyOf_counted (h : LedgerInv db) {r : RegisteredGame} (hr : r ∈ db.settled u k s) :
    rankKeyOf db r ∈ (db.countedRows u k).map Rank.key := by
  obtain ⟨hmem, huser, hteam, hstatus⟩ := mem_settled.1 hr
  have hone : (if db.counts (rankKeyOf db r) s r then 1 else 0) = 1 :=
    if_pos ((counts_iff (h.game r hmem) _).2 ⟨rfl, hstatus⟩)
  have htally : 1 ≤ db.tally (rankKeyOf db r) s := by
    have hle := Table.le_total (fun r' => if db.counts (rankKeyOf db r) s r' then 1 else 0) hmem
    rw [hone] at hle
    exact hle
  rw [← h.ledger] at htally
  unfold Db.recorded at htally
  cases hfind : db.ranks.find? (rankKeyOf db r) with
  | none => simp [hfind] at htally
  | some row =>
    have hkey : row.key = rankKeyOf db r := Table.find?_key hfind
    refine List.mem_map.2 ⟨row, mem_countedRows.2 ⟨Table.mem_of_find? hfind, ?_, ?_⟩, hkey⟩
    · exact (congrArg RankKey.user hkey).trans huser
    · rw [show row.teamId = r.cheeringTeam from congrArg RankKey.teamId hkey]
      exact hteam

/-- The tally of a row only counts the user's registrations. -/
theorem tally_settled (h : LedgerInv db) {row : Rank} (hrow : row ∈ db.countedRows u k) :
    db.tally row.key s =
      ((db.settled u k s).map fun r => if rankKeyOf db r = row.key then 1 else 0).sum := by
  obtain ⟨-, huser, hteam⟩ := mem_countedRows.1 hrow
  have hcount : ∀ r ∈ db.settled u k s, (if db.counts row.key s r then 1 else 0) =
      if rankKeyOf db r = row.key then 1 else 0 := by
    intro r hr
    obtain ⟨hmem, -, -, hstatus⟩ := mem_settled.1 hr
    simp only [counts_iff (h.game r hmem), hstatus, and_true]
  rw [← List.map_congr_left hcount]
  refine (Table.sum_filter_eq _ _ _ fun r hr hp => ?_).symm
  rw [if_neg]
  intro hc
  obtain ⟨hkey, hstatus⟩ := (counts_iff (h.game r hr) _).1 hc
  have hu : r.user = u := (congrArg RankKey.user hkey).trans huser
  have ht : r.cheeringTeam = row.teamId := congrArg RankKey.teamId hkey
  simp [hu, ht, hteam, hstatus] at hp

/-- **The two ways to sum up.**  The counters of a user's rows are the user's registrations. -/
theorem sum_countedRows (h : LedgerInv db) (u : Nat) (k : RankingKey) (s : RegisteredGameStatus) :
    ((db.countedRows u k).map (·.get (GameResultColumnMap s))).sum = (db.settled u k s).length := by
  have hcounter : ∀ row ∈ db.countedRows u k, row.get (GameResultColumnMap s) =
      ((db.settled u k s).map fun r => if rankKeyOf db r = row.key then 1 else 0).sum := by
    intro row hrow
    rw [← tally_settled h hrow, ← h.ledger]
    unfold Db.recorded
    rw [Table.find?_of_mem (mem_countedRows.1 hrow).1]
    rfl
  have hkeys : ((db.countedRows u k).map Rank.key).Nodup :=
    db.ranks.nodup.sublist ((List.filter_sublist.trans List.filter_sublist).map Rank.key)
  calc ((db.countedRows u k).map (·.get (GameResultColumnMap s))).sum
      = (((db.countedRows u k).map Rank.key).map fun key =>
          ((db.settled u k s).map fun r => if rankKeyOf db r = key then 1 else 0).sum).sum := by
        rw [List.map_congr_left hcounter, List.map_map]
        rfl
    _ = ((db.settled u k s).map fun _ => 1).sum :=
        Table.sum_groups (fun _ => 1) (rankKeyOf db) _ _ hkeys fun r hr => rankKeyOf_counted h hr
    _ = (db.settled u k s).length := by simp

/-- The aggregate under a key, over the rows it counts. -/
theorem projected_eq {vo : RankScoreVo} (hvo : projected db u k = some vo) :
    vo = totalVo (db.countedRows u k) := by
  cases k with
  | team t =>
    rw [projected_team] at hvo
    split at hvo
    · cases hvo
      have hsum : ∀ f : Rank → Nat,
          ((rowsOf db u).map fun r => if r.teamId = t then f r else 0).sum =
            ((db.countedRows u (.team t)).map f).sum := by
        intro f
        rw [← Table.sum_filter_eq _ (fun r : Rank => RankingKey.covers (.team t) r.teamId) _
          fun r _ hr => if_neg (by simpa [RankingKey.covers] using hr)]
        refine congrArg List.sum (List.map_congr_left fun r hr => ?_)
        exact if_pos (by simpa [RankingKey.covers] using (List.mem_filter.1 hr).2)
      simp only [groupedVo, totalVo, hsum]
    · cases hvo
  | total =>
    rw [projected_total] at hvo
    split at hvo
    · cases hvo
    · cases hvo
      have hall : db.countedRows u .total = rowsOf db u := List.filter_eq_self.2 fun _ _ => rfl
      rw [hall]

theorem totalVo_record (h : LedgerInv db) : totalVo (db.countedRows u k) = db.record u k := by
  have hwin := sum_countedRows h u k .win
  have hlose := sum_countedRows h u k .lose
  have htie := sum_countedRows h u k .tie
  have hcancel := sum_countedRows h u k .noGame
  exact (RankScoreVo.mk.injEq ..).mpr ⟨hwin, hlose, htie, hcancel⟩

/-- The aggregate of the rank rows is the record of the registrations. -/
theorem projected_record (h : LedgerInv db) {vo : RankScoreVo} (hvo : projected db u k = some vo) :
    vo = db.record u k :=
  (projected_eq hvo).trans (totalVo_record h)

/-- A user without a row has no results. -/
theorem record_of_unranked (h : LedgerInv db) (hun : ¬ db.Ranked u k) :
    db.record u k = ⟨0, 0, 0, 0⟩ := by
  rw [← totalVo_record h, not_not.1 (mt ranked_iff.2 hun)]
  rfl

end

/-! ## Scores -/

/-- The first of two users in a ranking: the better standing, the greater id among equals. -/
def Ahead (db : Db) (k : RankingKey) (u v : Nat) : Prop :=
  toLex (db.record v k).standing < toLex (db.record u k).standing ∨
    ((db.record u k).standing = (db.record v k).standing ∧ toString v ≤ toString u)

theorem stored_lt {v w : RankScoreVo} (hv : v.getTotalCount < 10000) (hw : w.getTotalCount < 10000)
    (h : v.getIntegerScoreForRedis < w.getIntegerScoreForRedis) :
    toLex v.standing < toLex w.standing := by
  rw [getIntegerScoreForRedis_eq, getIntegerScoreForRedis_eq, Packed.pack_lt hv hw,
    Prod.Lex.toLex_lt_toLex] at h
  rw [Prod.Lex.toLex_lt_toLex]
  unfold RankScoreVo.standing
  dsimp only at h ⊢
  rcases h with h | ⟨h, hcount⟩
  · exact Or.inl (by omega)
  · exact Or.inr ⟨by omega, hcount⟩

theorem stored_inj {v w : RankScoreVo} (hv : v.getTotalCount < 10000) (hw : w.getTotalCount < 10000)
    (h : v.getIntegerScoreForRedis = w.getIntegerScoreForRedis) : v.standing = w.standing := by
  rw [getIntegerScoreForRedis_eq, getIntegerScoreForRedis_eq, Packed.pack_inj hv hw,
    Prod.mk.injEq] at h
  exact Prod.ext (by unfold RankScoreVo.standing; dsimp only; omega) h.2

/-! ## The list -/

/-- The list of a ranking: the users with a rank row, each once, by their records. -/
structure Standings (db : Db) (k : RankingKey) (list : List RefinedRankDataWithProfile) : Prop where
  users : ∀ u, u ∈ list.map RefinedRankDataWithProfile.userId ↔ db.Ranked u k
  nodup : (list.map RefinedRankDataWithProfile.userId).Nodup
  rank : ∀ (i : Nat) (d : RefinedRankDataWithProfile), list[i]? = some d → d.rank = i + 1
  score : ∀ d ∈ list,
    d.score = 1000 + 10 * (((db.record d.userId k).win : Int) - (db.record d.userId k).lose)
  sorted : list.Pairwise fun a b => Ahead db k a.userId b.userId

instance : Std.Total precedes where
  total a b := by
    unfold precedes
    rcases lt_trichotomy a.2 b.2 with h | h | h
    · exact Or.inr (Or.inl h)
    · rcases String.le_total (toString b.1) (toString a.1) with hs | hs
      · exact Or.inl (Or.inr ⟨h, hs⟩)
      · exact Or.inr (Or.inr ⟨h.symm, hs⟩)
    · exact Or.inl (Or.inl h)

instance : IsTrans (Nat × Int) precedes where
  trans a b c := by
    unfold precedes
    rintro (h | ⟨h, hs⟩) (h' | ⟨h', hs'⟩)
    · exact Or.inl (h'.trans h)
    · exact Or.inl (h' ▸ h)
    · exact Or.inl (h ▸ h')
    · exact Or.inr ⟨h.trans h', String.le_trans hs' hs⟩

theorem reversed_pairwise (z : ZSet) : (reversed z).Pairwise precedes :=
  List.pairwise_insertionSort precedes z.rows

section

variable {db : Db} {redis : Redis} {k : RankingKey}

theorem score_of_entry (hm : Mirrors redis db) {e : Nat × Int} (he : e ∈ (redis.rankings k).rows) :
    score db e.1 k = some e.2 := by
  rw [← hm]
  unfold Redis.zscore
  rw [Table.find?_of_mem he]
  rfl

/-- The score of an entry is the one of the user's record. -/
theorem entry_score (h : LedgerInv db) (hm : Mirrors redis db) {e : Nat × Int}
    (he : e ∈ (redis.rankings k).rows) : e.2 = (db.record e.1 k).getIntegerScoreForRedis := by
  have hscore := score_of_entry hm he
  unfold score at hscore
  obtain ⟨vo, hvo, hvalue⟩ := Option.map_eq_some_iff.1 hscore
  rw [← hvalue, projected_record h hvo]

theorem mem_members_iff (hm : Mirrors redis db) (u : Nat) :
    u ∈ (redis.rankings k).rows.map Prod.fst ↔ db.Ranked u k := by
  rw [← score_isSome_iff, ← hm]
  unfold Redis.zscore
  rw [Option.isSome_map]
  constructor
  · intro hu
    obtain ⟨e, he, rfl⟩ := List.mem_map.1 hu
    rw [Table.find?_of_mem he]
    rfl
  · intro hu
    obtain ⟨e, he⟩ := Option.isSome_iff_exists.1 hu
    exact List.mem_map.2 ⟨e, Table.mem_of_find? he, Table.find?_key he⟩

theorem ahead_of_precedes (h : LedgerInv db) (hm : Mirrors redis db)
    (hfew : ∀ u, (db.record u k).getTotalCount < 10000) {a b : Nat × Int}
    (ha : a ∈ (redis.rankings k).rows) (hb : b ∈ (redis.rankings k).rows) (hab : precedes a b) :
    Ahead db k a.1 b.1 := by
  unfold precedes at hab
  rw [entry_score h hm ha, entry_score h hm hb] at hab
  rcases hab with hlt | ⟨heq, hid⟩
  · exact Or.inl (stored_lt (hfew b.1) (hfew a.1) hlt)
  · exact Or.inr ⟨stored_inj (hfew a.1) (hfew b.1) heq, hid⟩

/-- The whole list, entry by entry. -/
theorem fullList_getElem? (i : Nat) :
    ((redis.getRefinedRankDataFromRedis 0 (-1) k).map redis.withProfile)[i]? =
      (reversed (redis.rankings k))[i]?.map fun e =>
        redis.withProfile ⟨0 + 1 + i, e.1, RankScoreVo.toDisplayScore e.2⟩ := by
  unfold Redis.getRefinedRankDataFromRedis
  rw [zrevrange_whole, List.getElem?_map, List.getElem?_mapIdx, Option.map_map]
  rfl

theorem fullList_userIds :
    ((redis.getRefinedRankDataFromRedis 0 (-1) k).map redis.withProfile).map
      RefinedRankDataWithProfile.userId = (reversed (redis.rankings k)).map Prod.fst := by
  refine List.ext_getElem? fun i => ?_
  rw [List.getElem?_map, fullList_getElem?, List.getElem?_map, Option.map_map]
  rfl

theorem mem_reversed {z : ZSet} {e : Nat × Int} : e ∈ reversed z ↔ e ∈ z.rows :=
  List.mem_insertionSort precedes

/-- A mirrored sorted set lists the standings. -/
theorem fullList_standings (h : LedgerInv db) (hm : Mirrors redis db)
    (hfew : ∀ u, (db.record u k).getTotalCount < 10000) :
    Standings db k ((redis.getRefinedRankDataFromRedis 0 (-1) k).map redis.withProfile) := by
  have hentry : ∀ {i : Nat} {d : RefinedRankDataWithProfile},
      ((redis.getRefinedRankDataFromRedis 0 (-1) k).map redis.withProfile)[i]? = some d →
      ∃ e ∈ (redis.rankings k).rows, (reversed (redis.rankings k))[i]? = some e ∧
        d = redis.withProfile ⟨0 + 1 + i, e.1, RankScoreVo.toDisplayScore e.2⟩ := by
    intro i d hd
    rw [fullList_getElem?] at hd
    obtain ⟨e, he, rfl⟩ := Option.map_eq_some_iff.1 hd
    exact ⟨e, mem_reversed.1 (List.mem_of_getElem? he), he, rfl⟩
  refine ⟨fun u => ?_, ?_, fun i d hd => ?_, fun d hd => ?_, ?_⟩
  · rw [fullList_userIds, ← mem_members_iff hm]
    simp [mem_reversed]
  · rw [fullList_userIds]
    exact ((List.perm_insertionSort precedes _).map Prod.fst).nodup_iff.2 (redis.rankings k).nodup
  · obtain ⟨e, -, -, rfl⟩ := hentry hd
    show (0 : Int) + 1 + i = i + 1
    omega
  · obtain ⟨i, hi⟩ := List.mem_iff_getElem?.1 hd
    obtain ⟨e, he, -, rfl⟩ := hentry hi
    show RankScoreVo.toDisplayScore e.2 = _
    rw [entry_score h hm he, toDisplayScore_stored, Nat.div_eq_of_lt (hfew e.1), Nat.cast_zero,
      Int.add_zero]
    rfl
  · refine List.pairwise_iff_getElem.2 fun i j hi hj hij => ?_
    obtain ⟨a, ha, hai, hda⟩ := hentry (List.getElem?_eq_getElem hi)
    obtain ⟨b, hb, hbj, hdb⟩ := hentry (List.getElem?_eq_getElem hj)
    rw [hda, hdb]
    obtain ⟨hi', rfl⟩ := List.getElem?_eq_some_iff.1 hai
    obtain ⟨hj', rfl⟩ := List.getElem?_eq_some_iff.1 hbj
    exact ahead_of_precedes h hm hfew ha hb
      (List.pairwise_iff_getElem.1 (reversed_pairwise _) i j hi' hj' hij)

/-- The numbers beside the list. -/
theorem nearBy_stats (h : LedgerInv db) {userId : Nat} {res : RankNearbyResDto}
    (hres : redis.getUserNearByWithUserStats db userId k = .ok res) :
    res.user = ⟨userId, (db.record userId .total).getTotalCount, (db.record userId .total).win⟩ := by
  have hstats : ((aggregateRankStatsByUserId db userId).bind fun data => data.get .total) =
      projected db userId .total := rfl
  have huser : (⟨userId, (projected db userId .total).elim 0 (·.getTotalCount),
      (projected db userId .total).elim 0 (·.getWinCount)⟩ : UserStatsResDto) =
      ⟨userId, (db.record userId .total).getTotalCount, (db.record userId .total).win⟩ := by
    cases hvo : projected db userId .total with
    | some vo => rw [projected_record h hvo]; rfl
    | none =>
      have hun : ¬ db.Ranked userId .total := by
        rw [← score_isSome_iff, score, hvo]
        exact Bool.false_ne_true
      rw [record_of_unranked h hun]
      rfl
  unfold Redis.getUserNearByWithUserStats at hres
  rw [hstats] at hres
  dsimp only at hres
  rw [huser] at hres
  split at hres
  · cases hres
    rfl
  · obtain ⟨nearBy, -, hres⟩ := bind_eq_ok.1 hres
    cases hres
    rfl

end

/-! ## Every user has a profile hash -/

/-- Every user's hash has the user's id. -/
def IdsCached (users : Table User.id) (redis : Redis) : Prop :=
  ∀ u, (users.find? u).isSome → (redis.userInfo u).id = some u

section

variable {users users' : Table User.id} {redis redis' : Redis}

theorem IdsCached.keep (h : IdsCached users redis)
    (hu : ∀ u, (users'.find? u).isSome → (users.find? u).isSome) (hs : SameProfiles redis redis') :
    IdsCached users' redis' :=
  fun u hf => (hs u).1.trans (h u (hu u hf))

theorem IdsCached.signedUp (h : IdsCached users redis) {user : User}
    (hs : redis'.userInfo = (redis.saveUsers [user]).userInfo) :
    IdsCached (users.save user) redis' := by
  intro u hf
  rw [hs]
  by_cases hid : user.id = u
  · subst hid
    exact (saveUsers_hasProfile redis user).id
  · rw [Table.find?_save_of_ne _ hid] at hf
    exact (congrArg UserInfoHash.id (Function.update_of_ne (Ne.symm hid) _ _)).trans (h u hf)

theorem IdsCached.removed (h : IdsCached users redis) (userId : Nat)
    (hs : ∀ v, v ≠ userId → redis'.userInfo v = redis.userInfo v) :
    IdsCached (users.remove userId) redis' := by
  intro u hf
  rw [Table.find?_remove] at hf
  split at hf
  · cases hf
  · next hne =>
    rw [hs u (Ne.symm hne)]
    exact h u hf

end

section

variable (extractKeyFromUrl : String → Option String) {w : World}

theorem updateUserProfile_same (w : World) (userId : Nat) (input : ProfileInput) (year pick : Nat) :
    SameProfiles w.redis
      (w.step extractKeyFromUrl (.updateUserProfile userId input year pick)).redis := by
  cases input with
  | image value => exact updateImage_same extractKeyFromUrl w userId value
  | nickname value => exact updateNickname_same w userId value
  | teamId value => exact .of_eq (updateTeamId_userInfo w userId value year pick)

theorem cacheUser_idsCached (h : IdsCached w.db.users w.redis) {db1 db' : Db} {user : User}
    {k : RankKey} (hs : SignedUp w.db db1 user) (hins : insertRankIfAbsent db1 k = .ok db') :
    IdsCached db'.users (World.cacheUser { w with db := db' } user).redis := by
  obtain ⟨rows, hw, -⟩ := insertRankIfAbsent_ok hins
  rw [hw.users, hs.users]
  exact h.signedUp (userInfo_rankingHook db' _ user.id)

/-- A request on registrations. -/
theorem registrations_idsCached (h : IdsCached w.db.users w.redis) {w' : World} {db1 : Db}
    {rows : List Rank} (hu : db1.users = w.db.users) (hw : RankWrites db1 w'.db rows)
    (hredis : w'.redis.userInfo = w.redis.userInfo) : IdsCached w'.db.users w'.redis := by
  rw [hw.users, hu]
  exact h.keep (fun _ => id) (.of_eq hredis)

theorem next_idsCached (e : Event) (h : IdsCached w.db.users w.redis) :
    IdsCached (w.next extractKeyFromUrl e).db.users (w.next extractKeyFromUrl e).redis := by
  cases e with
  | outcomes f => exact h
  | newGame game =>
    show IdsCached (w.db.insertGame game).users w.redis
    rw [(insertGame_keeps w.db game).2.1]
    exact h
  | request op =>
    cases op with
    | registerLocalUser dto env year =>
      refine World.transactional_of (P := fun w => IdsCached w.db.users w.redis) h
        fun db user hok => ?_
      obtain ⟨db1, k, hs, hins, -⟩ := registerLocalUser_ok hok
      exact cacheUser_idsCached h hs hins
    | loginSocialUser sub email provider pick env year =>
      refine World.transactional_of (P := fun w => IdsCached w.db.users w.redis) h
        fun db p hok => ?_
      obtain ⟨user, isNewUser⟩ := p
      rcases loginSocialUser_ok hok with ⟨rfl, rfl⟩ | ⟨rfl, db1, k, hs, hins, -⟩
      · exact h
      · exact cacheUser_idsCached h hs hins
    | register dto userId newId =>
      refine World.transactional_of (P := fun w => IdsCached w.db.users w.redis) h
        fun db a hok => ?_
      obtain ⟨db1, rows, -, hu, -, hw, -⟩ := register_writes hok
      exact registrations_idsCached h hu hw (userInfo_rankingHook _ _ _)
    | update id dto userId =>
      refine World.transactional_of (P := fun w => IdsCached w.db.users w.redis) h
        fun db result hok => ?_
      obtain ⟨db1, rows, -, hu, -, hw, -⟩ := update_writes hok
      refine registrations_idsCached h hu (by rw [World.updateHook_db]; exact hw) ?_
      rw [World.updateHook_redis]
      split <;> simp
    | delete id userId =>
      refine World.transactional_of (P := fun w => IdsCached w.db.users w.redis) h
        fun db result hok => ?_
      obtain ⟨db1, rows, -, hu, -, hw, -⟩ := delete_writes hok
      refine registrations_idsCached h hu (by rw [World.deleteHook_db]; exact hw) ?_
      rw [World.deleteHook_redis]
      split <;> simp
    | updateUserProfile userId input year pick =>
      have hsaves : Saves w.db (w.db.commit (.updateUserProfile userId input year pick)) :=
        commit_saves w.db trivial
      refine h.keep (fun u => ?_) (updateUserProfile_same extractKeyFromUrl w userId input year pick)
      show ((w.step extractKeyFromUrl _).db.users.find? u).isSome → _
      rw [World.step_db, hsaves.sameCredentials.users]
      exact id
    | deleteUser userId =>
      show IdsCached (w.step extractKeyFromUrl (.deleteUser userId)).db.users
        (w.step extractKeyFromUrl (.deleteUser userId)).redis
      cases hrow : deleteUserRow w.db userId with
      | error e =>
        rw [World.step_deleteUser_error extractKeyFromUrl hrow]
        exact h
      | ok p =>
        rw [World.step_deleteUser_ok extractKeyFromUrl hrow]
        refine h.removed userId fun v hv => ?_
        rw [Redis.userInfo_deleteRankByUserId]
        exact Function.update_of_ne hv ..

/-! ## Histories -/

/-- What the list of a ranking rests on. -/
structure StandingsInv (w : World) : Prop where
  ledger : LedgerInv w.db
  fk : RankFk w.db
  mirrors : Mirrors w.redis w.db
  ids : IdsCached w.db.users w.redis

/-- A member of a ranking has a rank row, so it is a user. -/
theorem StandingsInv.cached (h : StandingsInv w) : Cached w.redis := by
  intro k e he
  obtain ⟨row, hrow, huser, -⟩ := (mem_members_iff h.mirrors e.1).1 (List.mem_map_of_mem he)
  exact h.ids e.1 (huser ▸ h.fk.user row hrow)

theorem StandingsInv.next (e : Event) (h : StandingsInv w) (hprune : PrunesAtMostOne w e) :
    StandingsInv (w.next extractKeyFromUrl e) where
  ledger := nextOrFail_ledgerInv extractKeyFromUrl w (.event e) h.ledger
  fk := next_rankFk extractKeyFromUrl w e h.fk
  mirrors := (next_mirrors_iff extractKeyFromUrl w e h.fk h.mirrors).2 hprune
  ids := next_idsCached extractKeyFromUrl e h.ids

/-- **The standings.**  In every state of a history whose changes of team drop at most one row,
the endpoint lists the users of a ranking by the results of their own registrations, below
10000 games each, and the numbers beside the list are the user's registrations too. -/
theorem rankings_are_standings (teams : Table Team.id) (stadiums : Table Stadium.id)
    (games : Table GameRow.id) (terms : Table Term.id) (history : List Event)
    (hprune : Guarded (World.next extractKeyFromUrl) PrunesAtMostOne
      (World.start teams stadiums games terms) history) :
    Always (World.next extractKeyFromUrl)
      (fun w => ∀ k,
        ((∀ u, (w.db.record u k).getTotalCount < 10000) →
          ∃ list, w.redis.getRankList 0 (-1) k = .ok list ∧ Standings w.db k list) ∧
        ∀ userId, ∃ res, w.redis.getUserNearByWithUserStats w.db userId k = .ok res ∧
          res.user = ⟨userId, (w.db.record userId .total).getTotalCount,
            (w.db.record userId .total).win⟩)
      (World.start teams stadiums games terms) history := by
  have hstart : StandingsInv (World.start teams stadiums games terms) :=
    ⟨⟨fun _ _ => rfl, nofun⟩, ⟨nofun, nofun, nofun⟩, fun _ k => by cases k <;> rfl, nofun⟩
  refine (always_of_guarded (fun w e h hc => h.next extractKeyFromUrl e hc) hstart hprune).imp
    fun w h k => ⟨fun hfew => ?_, fun userId => ?_⟩
  · exact ⟨_, getRankList_eq (h.cached k) 0 (-1), fullList_standings h.ledger h.mirrors hfew⟩
  · obtain ⟨res, hres⟩ := getUserNearByWithUserStats_ok h.cached w.db userId k
    exact ⟨res, hres, nearBy_stats h.ledger hres⟩

end

/-- A fan sees the team win and then supports the other one. -/
def winnerMoves : List Event :=
  [.newGame wonGame,
   .request (.registerLocalUser ⟨"fan@test", "pw", "", "fan", 1⟩ ⟨7, "hash", fun _ => 0⟩ 2025),
   .request (.register ⟨none, "A1", "good", wonGame.id, 1⟩ 7 1),
   .request (.updateUserProfile 7 (.teamId 2) 2025 0)]

theorem rankings_are_standings_winner :
    Always (World.next some)
      (fun w => ∀ k,
        ((∀ u, (w.db.record u k).getTotalCount < 10000) →
          ∃ list, w.redis.getRankList 0 (-1) k = .ok list ∧ Standings w.db k list) ∧
        ∀ userId, ∃ res, w.redis.getUserNearByWithUserStats w.db userId k = .ok res ∧
          res.user = ⟨userId, (w.db.record userId .total).getTotalCount,
            (w.db.record userId .total).win⟩)
      (World.start twoTeams leagueDb.stadiums .empty .empty) winnerMoves := by
  refine rankings_are_standings some twoTeams leagueDb.stadiums .empty .empty winnerMoves
    ⟨trivial, trivial, trivial, ?_, trivial⟩
  -- the team left behind has a game
  intro t ht
  have hnone : prunedTeam (run (World.next some) (World.start twoTeams leagueDb.stadiums .empty
      .empty) (winnerMoves.take 3)).db 7 2 2025 = none := by decide
  exact absurd (hnone.symm.trans ht) nofun

end VictoryFairy
