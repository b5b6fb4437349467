import VictoryFairy.Proofs.RankingEndpoint

/-!
# The ranks near a user

`zrevrank` counts from 0, a displayed rank from 1, and the end of a range is part of it.  The
range a user sees is the user's own entry with its neighbours in the whole ranking.

    zrevrange_slice  : a range of a sorted set
    slice_around     : three entries around an index
    refined_slice    : a range has the ranks of the whole
    nearby_window    : what a user sees
-/

namespace VictoryFairy

/-! ## Slices -/

section

variable {α : Type}

/-- The part is the entry with the one before it and the one after it, where there are any. -/
def IsNeighbourhood (whole : List α) (me : α) (part : List α) : Prop :=
  ∃ front above below back, whole = front ++ part ++ back ∧ part = above ++ [me] ++ below ∧
    above.length ≤ 1 ∧ below.length ≤ 1 ∧ (above = [] → front = []) ∧ (below = [] → back = [])

theorem slice_around {whole : List α} {i : Nat} (h : i < whole.length) :
    IsNeighbourhood whole whole[i] ((whole.drop (i - 1)).take (i + 1 - (i - 1) + 1)) := by
  have hsplit : whole = whole.take i ++ whole[i] :: whole.drop (i + 1) := by
    rw [List.getElem_cons_drop, List.take_append_drop]
  generalize hme : whole[i] = me at hsplit ⊢
  have hlength : (whole.take i).length = i := List.length_take_of_le h.le
  generalize whole.take i = before at hsplit hlength
  generalize whole.drop (i + 1) = after at hsplit
  clear hme h
  subst hsplit hlength
  -- the entries after it begin with the one below
  have hbelow : ∃ below back, after = below ++ back ∧ below = after.take 1 ∧ below.length ≤ 1 ∧
      (below = [] → back = []) := by
    cases after with
    | nil => exact ⟨[], [], rfl, rfl, Nat.zero_le _, id⟩
    | cons b after => exact ⟨[b], after, rfl, rfl, Nat.le_refl _, fun h => nomatch h⟩
  obtain ⟨below, back, hafter, htake, hlen, hback⟩ := hbelow
  rcases List.eq_nil_or_concat before with rfl | ⟨front, a, rfl⟩
  · have hpart : (([] ++ me :: after).drop (0 - 1)).take (0 + 1 - (0 - 1) + 1) = [] ++ [me] ++ below := by
      simp [htake]
    refine ⟨[], [], below, back, ?_, hpart, Nat.zero_le _, hlen, fun _ => rfl, hback⟩
    rw [List.length_nil, hpart, hafter]
    simp
  · have hcount : (front ++ [a]).length + 1 - ((front ++ [a]).length - 1) + 1 = 3 := by
      rw [List.length_append, List.length_singleton]
      omega
    have hpart : ((front ++ [a] ++ me :: after).drop ((front ++ [a]).length - 1)).take 3 =
        [a] ++ [me] ++ below := by
      simp [htake]
    rw [List.concat_eq_append, hcount]
    refine ⟨front, [a], below, back, ?_, hpart, Nat.le_refl _, hlen, (fun h => nomatch h), hback⟩
    rw [hpart, hafter]
    simp

end

/-! ## Ranges of a ranking -/

theorem length_reversed (z : ZSet) : (reversed z).length = z.rows.length :=
  List.length_insertionSort _ _

/-- A range between two places. -/
theorem zrevrange_slice (z : ZSet) (start count : Nat) :
    zrevrange z start (start + count : Nat) = ((reversed z).drop start).take (count + 1) := by
  unfold zrevrange
  dsimp only
  have hcount : ((start + count : Nat) : Int) - max (start : Int) 0 + 1 = ((count + 1 : Nat) : Int) := by
    omega
  have hfirst : (max (start : Int) 0).toNat = start := by omega
  rw [if_neg (by omega : ¬ (start : Int) < 0), if_neg (by omega : ¬ ((start + count : Nat) : Int) < 0),
    if_neg (by omega), hcount, hfirst, Int.toNat_natCast]

/-- The whole set. -/
theorem zrevrange_whole (z : ZSet) : zrevrange z 0 (-1) = reversed z := by
  unfold zrevrange
  dsimp only
  rw [if_pos (by decide : (-1 : Int) < 0), if_neg (by decide : ¬ (0 : Int) < 0), max_self]
  split
  · next h =>
    have hlength : (reversed z).length = 0 := by
      rw [length_reversed]
      omega
    exact (List.length_eq_zero_iff.1 hlength).symm
  · next h =>
    rw [Int.toNat_zero, List.drop_zero]
    refine List.take_of_length_le ?_
    rw [length_reversed]
    omega

section

variable {redis : Redis} {k : RankingKey}

/-- A range has the ranks of the whole ranking. -/
theorem refined_slice (start count : Nat) :
    redis.getRefinedRankDataFromRedis start (start + count : Nat) k =
      ((redis.getRefinedRankDataFromRedis 0 (-1) k).drop start).take (count + 1) := by
  unfold Redis.getRefinedRankDataFromRedis
  rw [zrevrange_slice, zrevrange_whole]
  refine List.ext_getElem? fun i => ?_
  rw [List.getElem?_mapIdx, List.getElem?_take, List.getElem?_take]
  split
  · rw [List.getElem?_drop, List.getElem?_drop, List.getElem?_mapIdx]
    refine congrArg (fun f => Option.map f _) (funext fun e => ?_)
    have hrank : (start : Int) + 1 + (i : Int) = 0 + 1 + ((start + i : Nat) : Int) := by omega
    rw [hrank]
  · rfl

/-- The ranks of a range count on from its start. -/
theorem refined_rank {start stop : Int} {i : Nat} {d : RefinedRankData}
    (h : (redis.getRefinedRankDataFromRedis start stop k)[i]? = some d) : d.rank = start + 1 + i := by
  unfold Redis.getRefinedRankDataFromRedis at h
  rw [List.getElem?_mapIdx] at h
  obtain ⟨e, -, rfl⟩ := Option.map_eq_some_iff.1 h
  rfl

theorem zrevrank_eq_none_iff {z : ZSet} {userId : Nat} :
    zrevrank z userId = none ↔ ∀ e ∈ z.rows, e.1 ≠ userId := by
  unfold zrevrank
  rw [List.findIdx?_eq_none_iff]
  unfold reversed
  simp

/-- The rank of a member is its place. -/
theorem zrevrank_eq_some {z : ZSet} {userId r : Nat} (h : zrevrank z userId = some r) :
    ∃ e, (reversed z)[r]? = some e ∧ e.1 = userId := by
  unfold zrevrank at h
  obtain ⟨hr, hmem, -⟩ := List.findIdx?_eq_some_iff_getElem.1 h
  exact ⟨_, List.getElem?_eq_getElem hr, by simpa using hmem⟩

end

/-! ## What a user sees -/

theorem nearBy_other {redis : Redis} (db : Db) {k : RankingKey} {userId : Nat}
    (h : zrevrank (redis.rankings k) userId = none) :
    ∃ res, redis.getUserNearByWithUserStats db userId k = .ok res ∧ res.nearBy = [] := by
  unfold Redis.getUserNearByWithUserStats
  dsimp only
  rw [h]
  exact ⟨_, rfl, rfl⟩

theorem nearBy_member {redis : Redis} (db : Db) {k : RankingKey} {userId r : Nat}
    {list : List RefinedRankDataWithProfile} (h : zrevrank (redis.rankings k) userId = some r)
    (hlist : redis.getRankList (max ((r : Int) - 1) 0) (r + 1) k = .ok list) :
    ∃ res, redis.getUserNearByWithUserStats db userId k = .ok res ∧ res.nearBy = list := by
  unfold Redis.getRankList at hlist
  unfold Redis.getUserNearByWithUserStats
  dsimp only
  rw [h]
  dsimp only
  rw [hlist]
  exact ⟨_, rfl, rfl⟩

/-- **Nearby ranks.**  With the profiles of a ranking cached: a member sees the own entry of the
whole ranking with its neighbours, anyone else nothing; and ranks count on from the start of a
range. -/
theorem nearby_window (redis : Redis) (db : Db) (k : RankingKey) (userId : Nat)
    (hcached : ∀ e ∈ (redis.rankings k).rows, (redis.userInfo e.1).id = some e.1) :
    ∃ full res, redis.getRankList 0 (-1) k = .ok full ∧
      redis.getUserNearByWithUserStats db userId k = .ok res ∧
      ((∃ e ∈ (redis.rankings k).rows, e.1 = userId) →
        ∃ me, me.userId = userId ∧ IsNeighbourhood full me res.nearBy) ∧
      ((∀ e ∈ (redis.rankings k).rows, e.1 ≠ userId) → res.nearBy = []) ∧
      ∀ start stop : Int, 0 ≤ start → ∃ list, redis.getRankList start stop k = .ok list ∧
        ∀ (i : Nat) (d : RefinedRankDataWithProfile), list[i]? = some d → d.rank = start + 1 + i := by
  have hranks : ∀ start stop : Int, ∃ list, redis.getRankList start stop k = .ok list ∧
      ∀ (i : Nat) (d : RefinedRankDataWithProfile), list[i]? = some d → d.rank = start + 1 + i := by
    refine fun start stop => ⟨_, getRankList_eq hcached start stop, fun i d hd => ?_⟩
    rw [List.getElem?_map] at hd
    obtain ⟨entry, hentry, rfl⟩ := Option.map_eq_some_iff.1 hd
    exact refined_rank hentry
  have hfull := getRankList_eq hcached 0 (-1)
  generalize hlist : (redis.getRefinedRankDataFromRedis 0 (-1) k).map redis.withProfile = full at hfull
  cases hrank : zrevrank (redis.rankings k) userId with
  | none =>
    have hout := zrevrank_eq_none_iff.1 hrank
    obtain ⟨res, hres, hnone⟩ := nearBy_other db hrank
    exact ⟨full, res, hfull, hres, fun ⟨e, he, hid⟩ => absurd hid (hout e he), fun _ => hnone,
      fun start stop _ => hranks start stop⟩
  | some r =>
    obtain ⟨e, he, hid⟩ := zrevrank_eq_some hrank
    have hmember : e ∈ (redis.rankings k).rows :=
      (List.mem_insertionSort precedes).1 (List.mem_of_getElem? he)
    -- the place of the user in the whole ranking
    have hplace : full[r]? = some (redis.withProfile
        ⟨0 + 1 + r, e.1, RankScoreVo.toDisplayScore e.2⟩) := by
      rw [← hlist]
      unfold Redis.getRefinedRankDataFromRedis
      rw [zrevrange_whole, List.getElem?_map, List.getElem?_mapIdx, he]
      rfl
    obtain ⟨hr, hme⟩ := List.getElem?_eq_some_iff.1 hplace
    have hstart : max ((r : Int) - 1) 0 = ((r - 1 : Nat) : Int) := by omega
    have hstop : (r : Int) + 1 = ((r - 1 + (r + 1 - (r - 1)) : Nat) : Int) := by omega
    have hslice : redis.getRankList (max ((r : Int) - 1) 0) (r + 1) k =
        .ok ((full.drop (r - 1)).take (r + 1 - (r - 1) + 1)) := by
      rw [hstart, hstop, getRankList_eq hcached, refined_slice, List.map_take, List.map_drop, hlist]
    have haround := slice_around hr
    rw [hme] at haround
    obtain ⟨res, hres, hnear⟩ := nearBy_member db hrank hslice
    rw [← hnear] at haround
    exact ⟨full, res, hfull, hres, fun _ => ⟨_, hid, haround⟩,
      fun hout => absurd hid (hout e hmember), fun start stop _ => hranks start stop⟩

/-- Three users, the first two of them with one score. -/
def threeRanked : Redis :=
  (((Redis.empty.saveUsers [⟨7, "", "fan7", "7@test", 1⟩, ⟨8, "", "fan8", "8@test", 1⟩,
    ⟨9, "", "fan9", "9@test", 1⟩]).zadd .total 20001 7).zadd .total 20001 8).zadd .total 1 9

/-- The second user sees the other two. -/
theorem nearby_window_second : ∃ full res, threeRanked.getRankList 0 (-1) .total = .ok full ∧
    threeRanked.getUserNearByWithUserStats Db.empty 7 .total = .ok res ∧
    ∃ me, me.userId = 7 ∧ IsNeighbourhood full me res.nearBy := by
  obtain ⟨full, res, hfull, hres, hmember, -⟩ := nearby_window threeRanked Db.empty .total 7 (by decide)
  exact ⟨full, res, hfull, hres, hmember ⟨(7, 20001), by decide, rfl⟩⟩

end VictoryFairy
