import VictoryFairy.Proofs.RankEntries

/-!
# Deleting an account

`deleteRankByUserId` removes the user from `rank:total` and from the rankings of the teams
`findAll` lists.  No other ranking ever has a member: rank rows point to those teams
(`RankFk`), and every hook writes what it aggregated from rank rows.

    next_cleared              : every event keeps the members within those rankings
    deleteUser_leaves_nothing : hence a deletion removes all there is
-/

namespace VictoryFairy

open Runs

/-- The rankings a deletion clears. -/
def IsCleared (db : Db) (k : RankingKey) : Prop :=
  k = .total ∨ ∃ t ∈ (findAllTeams db).map Team.id, k = .team t

instance (db : Db) (k : RankingKey) : Decidable (IsCleared db k) :=
  inferInstanceAs (Decidable (_ ∨ _))

/-- Only those rankings have members. -/
def OnlyCleared (db : Db) (redis : Redis) : Prop :=
  ∀ k u, redis.zscore k u ≠ none → IsCleared db k

section

variable {db db' : Db} {redis redis' : Redis}

theorem IsCleared.congr {k : RankingKey} (h : IsCleared db k) (ht : db'.teams = db.teams) :
    IsCleared db' k := by
  unfold IsCleared findAllTeams
  rw [ht]
  exact h

theorem OnlyCleared.congr (h : OnlyCleared db redis) (hr : redis'.rankings = redis.rankings)
    (ht : db'.teams = db.teams) : OnlyCleared db' redis' := by
  intro k u hk
  unfold Redis.zscore at hk
  rw [hr] at hk
  exact (h k u hk).congr ht

theorem RankFk.aggregate_isCleared (hfk : RankFk db) {u : Nat} {data : AggregatedRankStats}
    (hdata : aggregateRankStatsByUserId db u = some data) : ∀ e ∈ data, IsCleared db e.1 := by
  intro e he
  rw [aggregate_eq] at hdata
  split at hdata
  · cases hdata
  · cases hdata
    rcases List.mem_append.1 he with he | he
    · obtain ⟨t, ht, rfl⟩ := List.mem_map.1 he
      obtain ⟨row, hrow, rfl⟩ := List.mem_map.1 (List.mem_dedup.1 ht)
      exact Or.inr ⟨row.teamId, hfk.listed (mem_rowsOf.1 hrow).1, rfl⟩
    · rw [List.mem_singleton.1 he]
      exact Or.inl rfl

theorem OnlyCleared.updateRankings (h : OnlyCleared db redis) (u : Nat) {data : AggregatedRankStats}
    (hdata : ∀ e ∈ data, IsCleared db e.1) : OnlyCleared db (redis.updateRankings u data) := by
  unfold Redis.updateRankings
  induction data generalizing redis with
  | nil => exact h
  | cons e data ih =>
    refine ih (fun k v hk => ?_) fun d hd => hdata d (List.mem_cons_of_mem e hd)
    rw [Redis.zscore_zadd] at hk
    by_cases hc : e.1 = k ∧ u = v
    · rw [← hc.1]
      exact hdata e List.mem_cons_self
    · rw [if_neg hc] at hk
      exact h k v hk

theorem OnlyCleared.rankingHook (h : OnlyCleared db redis) (hfk : RankFk db) (u : Nat) :
    OnlyCleared db (rankingHook db redis u) := by
  unfold VictoryFairy.rankingHook
  cases hdata : aggregateRankStatsByUserId db u with
  | none => exact h
  | some data => exact h.updateRankings u (hfk.aggregate_isCleared hdata)

theorem OnlyCleared.deleteRankByUserId (h : OnlyCleared db redis) (u : Nat) (teamIds : List Nat) :
    OnlyCleared db (redis.deleteRankByUserId u teamIds) := by
  intro k v hk
  rw [Redis.zscore_deleteRankByUserId] at hk
  split at hk
  · exact absurd rfl hk
  · exact h k v hk

end

/-! ## One event -/

theorem updateTeamId_cleared {w : World} (hfk : RankFk w.db) (h : OnlyCleared w.db w.redis)
    (userId value year pick : Nat) :
    OnlyCleared w.db (w.updateTeamId userId value year pick).1.redis := by
  unfold World.updateTeamId
  cases hup : updateUserProfileTeamId w.db userId value with
  | error e => exact h
  | ok p =>
    obtain ⟨db1, prev⟩ := p
    obtain ⟨-, hinserted⟩ := updateUserProfileTeamId_rankFk hfk hup
    obtain ⟨old, user, -, -, -, rfl, -⟩ := updateUserProfileTeamId_ok hup
    dsimp only
    split
    · exact h
    · next db2 hins =>
      obtain ⟨rows, hw, -⟩ := insertRankIfAbsent_ok hins
      have ht : db2.teams = w.db.teams := hw.teams
      split
      · exact h
      · next data hdata =>
        have hcleared : ∀ e ∈ data, IsCleared w.db e.1 := fun e he =>
          ((hinserted year db2 hins).aggregate_isCleared hdata e he).congr ht.symm
        split
        · refine (h.deleteRankByUserId userId [prev]).updateRankings userId fun e he => ?_
          exact hcleared e (List.mem_filter.1 he).1
        · exact h.updateRankings userId hcleared

section

variable (extractKeyFromUrl : String → Option String)

theorem deleteUser_ok {w w' : World} {userId : Nat}
    (h : w.deleteUser extractKeyFromUrl userId = .ok w') :
    w'.db = w.db.removeUser userId ∧
      w'.redis = (w.redis.deleteUser userId).deleteRankByUserId userId
        ((findAllTeams w.db).map Team.id) := by
  unfold World.deleteUser at h
  obtain ⟨⟨db', prev⟩, hrow, h⟩ := bind_eq_ok.1 h
  cases h
  refine ⟨deleteUserRow_ok hrow, ?_⟩
  dsimp only
  split <;> simp

theorem step_cleared {w : World} (hfk : RankFk w.db) (h : OnlyCleared w.db w.redis) (op : Op) :
    OnlyCleared w.db (w.step extractKeyFromUrl op).redis := by
  by_cases hop : WritesInHook op
  · refine OnlyCleared.congr (?_ : OnlyCleared w.db
      ((w.db.refreshed op).elim w.redis fun p => rankingHook p.1 w.redis p.2))
      (step_rankings extractKeyFromUrl w op hop) rfl
    cases hr : w.db.refreshed op with
    | none => exact h
    | some p =>
      have hdb : w.db.commit op = p.1 := refreshed_commit hop hr
      have ht : p.1.teams = w.db.teams := by
        rw [← hdb]
        exact (commit_users w.db op).teams
      have hfk' : RankFk p.1 := by
        rw [← hdb]
        exact commit_rankFk hfk op
      exact ((h.congr rfl ht).rankingHook hfk' p.2).congr rfl ht.symm
  · cases op with
    | updateUserProfile userId input year pick =>
      cases input with
      | teamId value => exact updateTeamId_cleared hfk h userId value year pick
      | image value => exact absurd trivial hop
      | nickname value => exact absurd trivial hop
    | deleteUser userId =>
      cases hrow : deleteUserRow w.db userId with
      | error e =>
        rw [World.step_deleteUser_error extractKeyFromUrl hrow]
        exact h
      | ok p =>
        rw [World.step_deleteUser_ok extractKeyFromUrl hrow]
        have hprofile : OnlyCleared w.db (w.redis.deleteUser userId) := h
        exact hprofile.deleteRankByUserId userId _
    | registerLocalUser dto env year => exact absurd trivial hop
    | loginSocialUser sub email provider pick env year => exact absurd trivial hop
    | register dto userId newId => exact absurd trivial hop
    | update id dto userId => exact absurd trivial hop
    | delete id userId => exact absurd trivial hop

theorem next_cleared (w : World) (e : Event) (hfk : RankFk w.db) (h : OnlyCleared w.db w.redis) :
    OnlyCleared (w.next extractKeyFromUrl e).db (w.next extractKeyFromUrl e).redis := by
  cases e with
  | request op =>
    show OnlyCleared (w.step extractKeyFromUrl op).db (w.step extractKeyFromUrl op).redis
    refine (step_cleared extractKeyFromUrl hfk h op).congr rfl ?_
    rw [World.step_db]
    exact (commit_users w.db op).teams
  | outcomes f => exact h
  | newGame game => exact h.congr rfl (insertGame_keeps w.db game).2.2

/-- **Account deletion.**  After any history, a successful deletion leaves the user in no
ranking and without a profile hash, and every other user's entries as they were. -/
theorem deleteUser_leaves_nothing (teams : Table Team.id) (stadiums : Table Stadium.id)
    (games : Table GameRow.id) (terms : Table Term.id) (history : List Event) (userId : Nat)
    (w' : World)
    (h : (run (World.next extractKeyFromUrl) (World.start teams stadiums games terms)
      history).deleteUser extractKeyFromUrl userId = .ok w') :
    (∀ k, w'.redis.zscore k userId = none) ∧ w'.redis.userInfo userId = .empty ∧
      ∀ v, v ≠ userId →
        (∀ k, w'.redis.zscore k v = (run (World.next extractKeyFromUrl)
          (World.start teams stadiums games terms) history).redis.zscore k v) ∧
        w'.redis.userInfo v = (run (World.next extractKeyFromUrl)
          (World.start teams stadiums games terms) history).redis.userInfo v := by
  have hstart : RankFk (World.start teams stadiums games terms).db ∧
      OnlyCleared (World.start teams stadiums games terms).db
        (World.start teams stadiums games terms).redis :=
    ⟨⟨nofun, nofun, nofun⟩, fun k u hk => absurd rfl hk⟩
  have hinv := (always_of_step (I := fun w => RankFk w.db ∧ OnlyCleared w.db w.redis)
    (fun w e hi => ⟨next_rankFk extractKeyFromUrl w e hi.1,
      next_cleared extractKeyFromUrl w e hi.1 hi.2⟩) hstart history).last
  generalize run (World.next extractKeyFromUrl) (World.start teams stadiums games terms) history = w
    at h hinv ⊢
  obtain ⟨-, hredis⟩ := deleteUser_ok extractKeyFromUrl h
  have hscore : ∀ k v, w'.redis.zscore k v =
      if userId = v ∧ IsCleared w.db k then none else w.redis.zscore k v := by
    intro k v
    rw [hredis]
    exact Redis.zscore_deleteRankByUserId (w.redis.deleteUser userId) userId _ k v
  refine ⟨fun k => ?_, ?_, fun v hv => ⟨fun k => ?_, ?_⟩⟩
  · rw [hscore]
    by_contra hk
    have hstored : w.redis.zscore k userId ≠ none := fun hn => hk (by rw [hn]; exact ite_self none)
    exact hk (if_pos ⟨rfl, hinv.2 k userId hstored⟩)
  · rw [hredis, Redis.userInfo_deleteRankByUserId]
    exact Function.update_self userId UserInfoHash.empty w.redis.userInfo
  · rw [hscore, if_neg fun hc => hv hc.1.symm]
  · rw [hredis, Redis.userInfo_deleteRankByUserId]
    exact Function.update_of_ne hv UserInfoHash.empty w.redis.userInfo

end

/-- The fan of two seasons leaves. -/
theorem deleteUser_leaves_nothing_twoSeasons : ∃ w',
    (run (World.next fun _ => none) (World.start twoTeams .empty .empty .empty)
      twoSeasons).deleteUser (fun _ => none) 1 = .ok w' ∧
      (∀ k, w'.redis.zscore k 1 = none) ∧ w'.redis.userInfo 1 = .empty ∧
      ∀ v, v ≠ 1 →
        (∀ k, w'.redis.zscore k v = (run (World.next fun _ => none)
          (World.start twoTeams .empty .empty .empty) twoSeasons).redis.zscore k v) ∧
        w'.redis.userInfo v = (run (World.next fun _ => none)
          (World.start twoTeams .empty .empty .empty) twoSeasons).redis.userInfo v :=
  ⟨_, rfl, deleteUser_leaves_nothing (fun _ => none) twoTeams .empty .empty .empty twoSeasons 1 _ rfl⟩

end VictoryFairy
