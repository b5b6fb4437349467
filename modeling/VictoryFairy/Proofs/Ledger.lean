import VictoryFairy.Proofs.Accounts

/-!
# The rank table is a ledger of the settled registrations

`Ledger db`: each counter of the rank row of a user, team and year is the number of
the user's registrations with that team, year and status.  It is kept by every
request because the net effect of a request's rank updates is what its one
registration row adds and takes away (`net_rankUpdate`).

    commit_ledgerInv     : one request keeps it
    nextOrFail_ledgerInv : so does every event of a history, failures included
    rank_ledger          : hence it holds in every reachable state
-/

namespace VictoryFairy

open Runs

namespace Db

/-- What a registration adds to the tally of `k` and `s`. -/
def hit (db : Db) (k : RankKey) (s : RegisteredGameStatus) (r : RegisteredGame) : Nat :=
  if db.counts k s r then 1 else 0

theorem hit_eq {db : Db} {r : RegisteredGame} {year : Nat} (hy : db.yearOf r.game = some year)
    (k : RankKey) (s : RegisteredGameStatus) :
    db.hit k s r = if (⟨r.user, r.cheeringTeam, year⟩ : RankKey) = k ∧ r.status = some s
      then 1 else 0 := by
  obtain ⟨user, team, activeYear⟩ := k
  simp only [hit, counts, hy, Bool.and_eq_true, decide_eq_true_eq, Option.some.injEq,
    RankKey.mk.injEq, and_assoc]

theorem tally_save (db : Db) (r : RegisteredGame) (k : RankKey) (s : RegisteredGameStatus) :
    (db.withRegisteredGames (db.registeredGames.save r)).tally k s +
      (db.registeredGames.find? r.id).elim 0 (db.hit k s) = db.tally k s + db.hit k s r :=
  Table.total_save (db.hit k s) db.registeredGames r

theorem tally_remove (db : Db) (id : Nat) (k : RankKey) (s : RegisteredGameStatus) :
    (db.withRegisteredGames (db.registeredGames.remove id)).tally k s +
      (db.registeredGames.find? id).elim 0 (db.hit k s) = db.tally k s :=
  Table.total_remove (db.hit k s) db.registeredGames id

/-- The tally only reads the registrations and the years of their games. -/
theorem tally_congr {db db' : Db} (hr : db'.registeredGames = db.registeredGames)
    (hy : ∀ r ∈ db.registeredGames.rows, db'.yearOf r.game = db.yearOf r.game)
    (k : RankKey) (s : RegisteredGameStatus) : db'.tally k s = db.tally k s := by
  unfold tally
  rw [hr]
  refine Table.total_congr fun r hm => ?_
  unfold counts
  rw [hy r hm]

end Db

/-! ## The invariant -/

/-- The ledger, and what it needs to be kept: every registration's game exists. -/
structure LedgerInv (db : Db) : Prop where
  ledger : db.Ledger
  game : ∀ r ∈ db.registeredGames.rows, (db.games.find? r.game).isSome

/-- The invariant reads the registrations, the games and the counters only. -/
theorem LedgerInv.congr {db db' : Db} (h : LedgerInv db)
    (hr : db'.registeredGames = db.registeredGames) (hg : db'.games = db.games)
    (hc : ∀ k c, db'.recorded k c = db.recorded k c) : LedgerInv db' := by
  refine ⟨fun k s => ?_, ?_⟩
  · rw [hc, h.ledger k s]
    exact (Db.tally_congr hr (fun r _ => by simp only [Db.yearOf, hg]) k s).symm
  · rw [hr, hg]
    exact h.game

/-- A rank update for a registration's own row adds, or takes away, its hit. -/
theorem net_rankUpdate {db : Db} {r : RegisteredGame} {year : Nat}
    (hy : db.yearOf r.game = some year) (isAdd : Bool) (k : RankKey) (s : RegisteredGameStatus) :
    RankUpdate.net ({ key := ⟨r.user, r.cheeringTeam, year⟩, status := r.status }, isAdd) k
      (GameResultColumnMap s) = if isAdd then (db.hit k s r : Int) else -db.hit k s r := by
  have hmap : r.status.map GameResultColumnMap = some (GameResultColumnMap s) ↔
      r.status = some s := by
    cases r.status with
    | none => simp
    | some t => simpa using GameResultColumnMap_injective.eq_iff
  rw [Db.hit_eq hy]
  unfold RankUpdate.net
  simp only [hmap]
  split <;> cases isAdd <;> rfl

theorem sum_registerUpdates {db : Db} {row : RegisteredGame} {year : Nat}
    (hy : db.yearOf row.game = some year) (k : RankKey) (s : RegisteredGameStatus) :
    ((registerUpdates row year).map fun u => u.net k (GameResultColumnMap s)).sum =
      (db.hit k s row : Int) := by
  unfold registerUpdates
  by_cases hs : row.status = none
  · have hzero : db.hit k s row = 0 := by rw [Db.hit_eq hy]; simp [hs]
    simp [hs, hzero]
  · have hnet := net_rankUpdate hy true k s
    simp only [if_true] at hnet
    simp [hs, hnet]

theorem sum_teamUpdates {db : Db} {game : GameRow} {newTeam year : Nat} {r changed : RegisteredGame}
    (hy : db.yearOf r.game = some year) (hedit : IsEdit game newTeam r changed) {ctx : TeamCtx}
    (hctx : ctx =
      { isChanged := r.cheeringTeam ≠ newTeam, prevTeamId := r.cheeringTeam, newTeamId := newTeam,
        prevStatus := r.status, changedStatus := changed.status, year })
    (k : RankKey) (s : RegisteredGameStatus) :
    ((ctx.rankUpdates r.user).map fun u => u.net k (GameResultColumnMap s)).sum =
      (db.hit k s changed : Int) - db.hit k s r := by
  have hy' : db.yearOf changed.game = some year := by rw [hedit.game_eq, hy]
  subst hctx
  unfold TeamCtx.rankUpdates
  by_cases ht : r.cheeringTeam = newTeam
  · have hstatus : changed.status = r.status := by rw [hedit.status, if_pos ht]
    have hsame : db.hit k s changed = db.hit k s r := by
      rw [Db.hit_eq hy, Db.hit_eq hy', hedit.user, hedit.team, ht, hstatus]
    simp [ht, hsame]
  · have hold := net_rankUpdate hy false k s
    have hnew := net_rankUpdate hy' true k s
    rw [hedit.user, hedit.team] at hnew
    simp only [Bool.false_eq_true, if_false, if_true] at hold hnew
    simp only [ht, ne_eq, not_false_eq_true, decide_true, if_true, List.map_cons, List.map_nil,
      List.sum_cons, List.sum_nil, hold, hnew]
    omega

theorem sum_gameUpdates {db : Db} {r : RegisteredGame} {year : Nat} {ctx : GameCtx}
    (hy : db.yearOf r.game = some year)
    (hctx : ctx = { status := r.status, teamId := r.cheeringTeam, year })
    (k : RankKey) (s : RegisteredGameStatus) :
    ((ctx.rankUpdates r.user).map fun u => u.net k (GameResultColumnMap s)).sum =
      -(db.hit k s r : Int) := by
  subst hctx
  unfold GameCtx.rankUpdates
  by_cases hs : r.status = none
  · have hzero : db.hit k s r = 0 := by rw [Db.hit_eq hy]; simp [hs]
    simp [hs, hzero]
  · have hnet := net_rankUpdate hy false k s
    simp only [Bool.false_eq_true, if_false] at hnet
    simp [hs, hnet]

/-- One registration is exchanged and the rank updates make up for it. -/
theorem LedgerInv.exchange {db db' : Db} {registeredGames : Table RegisteredGame.id}
    {us : List RankUpdate} (h : LedgerInv db)
    (hus : applyRankUpdates (db.withRegisteredGames registeredGames) us = .ok db')
    (hgame : ∀ r ∈ registeredGames.rows, (db.games.find? r.game).isSome)
    (hnet : ∀ k s, ((db.withRegisteredGames registeredGames).tally k s : Int) =
      db.tally k s + (us.map fun u => u.net k (GameResultColumnMap s)).sum) : LedgerInv db' := by
  obtain ⟨rows, hw, -, hrec⟩ := applyRankUpdates_ok hus
  refine ⟨fun k s => ?_, fun r hm => ?_⟩
  · have htally : db'.tally k s = (db.withRegisteredGames registeredGames).tally k s := by
      rw [hw.eq]
      rfl
    have hcounter : (db'.recorded k (GameResultColumnMap s) : Int) =
        db.recorded k (GameResultColumnMap s) +
          (us.map fun u => u.net k (GameResultColumnMap s)).sum := hrec k _
    have hsum := hnet k s
    have hledger := h.ledger k s
    omega
  · rw [hw.eq] at hm ⊢
    exact hgame r hm

/-! ## One request -/

theorem register_ledgerInv {db db' : Db} {dto : CreateRegisteredGameDto} {userId newId : Nat}
    {response : RegisteredGameWithGameResponseDto} (h : LedgerInv db)
    (hok : register db dto userId newId = .ok (db', response)) : LedgerInv db' := by
  obtain ⟨row, game, hnew, -, -, -, -, hus⟩ := register_ok hok
  have hy : db.yearOf row.game = some game.date.getFullYear := by simp [Db.yearOf, hnew.found]
  have hfresh : db.registeredGames.find? row.id = none :=
    Table.find?_eq_none.2 fun o ho he => (hnew.fresh o ho).1 (he.trans hnew.id)
  refine h.exchange hus ?_ fun k s => ?_
  · intro r hm
    rcases Table.mem_save.1 hm with rfl | ⟨hm, -⟩
    · simp [hnew.found]
    · exact h.game r hm
  · have hsave := db.tally_save row k s
    rw [hfresh, Option.elim] at hsave
    rw [sum_registerUpdates hy]
    omega

theorem update_ledgerInv {db db' : Db} {id : Nat} {dto : UpdateRegisteredGameInput} {userId : Nat}
    {result : UpdateRegisteredGameResult} (h : LedgerInv db)
    (hok : update db id dto userId = .ok (db', result)) : LedgerInv db' := by
  obtain ⟨r, game, changed, hr, rfl, hg, hedit, -, hctx, -, -, hus⟩ := update_ok hok
  have hid : r.id = id := Table.find?_key hr
  have hy : db.yearOf r.game = some game.date.getFullYear := by simp [Db.yearOf, hg]
  refine h.exchange hus ?_ fun k s => ?_
  · intro o hm
    rcases Table.mem_save.1 hm with rfl | ⟨hm, -⟩
    · rw [hedit.game_eq, hg]; rfl
    · exact h.game o hm
  · have hsave := db.tally_save changed k s
    rw [hedit.id, hid, hr, Option.elim] at hsave
    rw [sum_teamUpdates hy hedit hctx]
    omega

theorem delete_ledgerInv {db db' : Db} {id userId : Nat} {result : DeleteRegisteredGameResult}
    (h : LedgerInv db) (hok : delete db id userId = .ok (db', result)) : LedgerInv db' := by
  obtain ⟨r, game, hr, rfl, hg, hctx, -, hus⟩ := delete_ok hok
  have hy : db.yearOf r.game = some game.date.getFullYear := by simp [Db.yearOf, hg]
  refine h.exchange hus (fun o hm => h.game o (Table.mem_remove.1 hm).1) fun k s => ?_
  have hremove := db.tally_remove id k s
  rw [hr, Option.elim] at hremove
  rw [sum_gameUpdates hy hctx]
  omega

/-- A new user, and rows that count nothing. -/
theorem signUp_ledgerInv {db db1 db' : Db} {user : User} {k : RankKey} (h : LedgerInv db)
    (hs : SignedUp db db1 user) (hok : insertRankIfAbsent db1 k = .ok db') : LedgerInv db' := by
  obtain ⟨rows, hw, -, -, hrec⟩ := insertRankIfAbsent_ok hok
  obtain rfl := hw.eq
  refine h.congr hs.registeredGames hs.games fun k' c => ?_
  rw [hrec, Db.recorded, Db.recorded, hs.ranks]

theorem deleteUser_ledgerInv {db : Db} (h : LedgerInv db) (userId : Nat) :
    LedgerInv (db.removeUser userId) := by
  refine ⟨fun k s => ?_, fun r hm => h.game r (Table.mem_reject.1 hm).1⟩
  have hrank : (db.removeUser userId).recorded k (GameResultColumnMap s) =
      if k.user = userId then 0 else db.recorded k (GameResultColumnMap s) := by
    simp only [Db.recorded, Db.removeUser, Table.find?_reject]
    cases hf : db.ranks.find? k with
    | none => simp
    | some row =>
      have hku : row.user = k.user := congrArg RankKey.user (Table.find?_key hf)
      by_cases hk : k.user = userId <;> simp [Option.filter, hku, hk]
  have htally : (db.removeUser userId).tally k s = if k.user = userId then 0 else db.tally k s := by
    have hsum := Table.total_reject (db.hit k s) db.registeredGames
      fun r => decide (r.user = userId)
    have hkept : (db.removeUser userId).tally k s =
        (db.registeredGames.reject fun r => decide (r.user = userId)).total (db.hit k s) := rfl
    have hall : db.tally k s = db.registeredGames.total (db.hit k s) := rfl
    have hdropped : (db.registeredGames.total fun r =>
        if decide (r.user = userId) then db.hit k s r else 0) =
        if k.user = userId then db.registeredGames.total (db.hit k s) else 0 := by
      by_cases hk : k.user = userId
      · rw [if_pos hk]
        refine Table.total_congr fun r _ => ?_
        by_cases hr : r.user = userId
        · simp [hr]
        · simp [hr, Db.hit, Db.counts, show ¬ r.user = k.user by rw [hk]; exact hr]
      · rw [if_neg hk, Table.total_eq_zero]
        intro r _
        by_cases hr : r.user = userId
        · simp [hr, Db.hit, Db.counts, show ¬ userId = k.user from fun e => hk e.symm]
        · simp [hr]
    split at hdropped <;> simp_all
  rw [hrank, htally, h.ledger k s]

/-- Every year's row of a team whose sum is zero counts nothing. -/
theorem groupedVo_zero {rows : List Rank} {teamId : Nat}
    (hzero : (groupedVo rows teamId).getTotalCount = 0) {row : Rank} (hrow : row ∈ rows)
    (ht : row.teamId = teamId) (c : RankColumn) : row.get c = 0 := by
  have hle : ∀ f : Rank → Nat,
      f row ≤ (rows.map fun r => if r.teamId = teamId then f r else 0).sum := by
    intro f
    refine List.single_le_sum (by simp) _ (List.mem_map.2 ⟨row, hrow, ?_⟩)
    rw [if_pos ht]
  have hwin := hle Rank.win
  have hlose := hle Rank.lose
  have htie := hle Rank.tie
  have hcancel := hle Rank.cancel
  unfold RankScoreVo.getTotalCount groupedVo at hzero
  dsimp only at hzero
  cases c <;> simp only [Rank.get] <;> omega

theorem isEmptied_groupedVo {db : Db} {userId value prevTeamId : Nat} {data : AggregatedRankStats}
    (hdata : aggregateRankStatsByUserId db userId = some data)
    (he : World.isEmptied data prevTeamId value = true) :
    (groupedVo (rowsOf db userId) prevTeamId).getTotalCount = 0 := by
  unfold World.isEmptied at he
  obtain ⟨-, he⟩ := Bool.and_eq_true_iff.1 he
  obtain ⟨vo, hvo, htotal⟩ := (Option.any_eq_true _ _).1 he
  have hproj : projected db userId (.team prevTeamId) = some vo := by
    unfold projected
    rw [hdata]
    exact hvo
  rw [projected_team] at hproj
  split at hproj
  · cases hproj; exact of_decide_eq_true htotal
  · cases hproj

theorem deleteRank_keeps (db : Db) (teamId userId pick : Nat) :
    (deleteRank db teamId userId none pick).registeredGames = db.registeredGames ∧
      (deleteRank db teamId userId none pick).games = db.games := by
  rcases deleteRank_eq db teamId userId pick with ⟨e, -⟩ | ⟨row, -, -, -, e⟩
  · exact ⟨by rw [e], by rw [e]⟩
  · exact ⟨by rw [e]; rfl, by rw [e]; rfl⟩

/-- Of the team the user leaves only a row that counts nothing is removed. -/
theorem deleteRank_recorded {db : Db} {userId value prevTeamId pick : Nat}
    {data : AggregatedRankStats} (hdata : aggregateRankStatsByUserId db userId = some data)
    (he : World.isEmptied data prevTeamId value = true) (k : RankKey) (c : RankColumn) :
    (deleteRank db prevTeamId userId none pick).recorded k c = db.recorded k c := by
  rcases deleteRank_eq db prevTeamId userId pick with ⟨heq, -⟩ | ⟨row, hrow, hu, ht, heq⟩
  · rw [heq]
  · have hzero := groupedVo_zero (isEmptied_groupedVo hdata he) (mem_rowsOf.2 ⟨hrow, hu⟩) ht c
    rw [heq]
    unfold Db.recorded
    rw [Db.withRanks_ranks, Table.find?_remove]
    split
    · next hk =>
      rw [← hk, Table.find?_of_mem hrow]
      exact hzero.symm
    · rfl

theorem updateUserProfileTeamId_ledgerInv {db db' : Db} (h : LedgerInv db) {userId value : Nat}
    {prevTeamId : Nat} (hup : updateUserProfileTeamId db userId value = .ok (db', prevTeamId)) :
    LedgerInv db' := by
  obtain ⟨-, user, -, -, -, rfl, -⟩ := updateUserProfileTeamId_ok hup
  exact h.congr rfl rfl fun _ _ => rfl

theorem insertRankIfAbsent_ledgerInv {db db' : Db} (h : LedgerInv db) {key : RankKey}
    (hins : insertRankIfAbsent db key = .ok db') : LedgerInv db' := by
  obtain ⟨rows, hw, -, -, hrec⟩ := insertRankIfAbsent_ok hins
  exact h.congr (by rw [hw.eq]; rfl) (by rw [hw.eq]; rfl) hrec

theorem teamIdCommit_ledgerInv {db : Db} (h : LedgerInv db) (userId value year pick : Nat) :
    LedgerInv (teamIdCommit db userId value year pick) := by
  unfold teamIdCommit
  cases hup : updateUserProfileTeamId db userId value with
  | error e => exact h
  | ok p =>
    obtain ⟨db1, prevTeamId⟩ := p
    have h1 := updateUserProfileTeamId_ledgerInv h hup
    dsimp only
    cases hins : insertRankIfAbsent db1 ⟨userId, value, year⟩ with
    | error e => exact h1
    | ok db2 =>
      have h2 := insertRankIfAbsent_ledgerInv h1 hins
      dsimp only
      split
      · next he =>
        obtain ⟨data, hdata, hemptied⟩ := (Option.any_eq_true _ _).1 he
        refine h2.congr ?_ ?_ (deleteRank_recorded hdata hemptied)
        · exact (deleteRank_keeps db2 prevTeamId userId pick).1
        · exact (deleteRank_keeps db2 prevTeamId userId pick).2
      · exact h2

/-- A rejected transaction leaves the database, so only commits need a look. -/
theorem committed_of {α : Type} {P : Db → Prop} {db : Db} {body : Except AppError (Db × α)}
    (h : P db) (hok : ∀ db' a, body = .ok (db', a) → P db') : P (committed db body) := by
  unfold committed
  cases body with
  | error e => exact h
  | ok p => exact hok p.1 p.2 rfl

theorem commit_ledgerInv {db : Db} (h : LedgerInv db) (op : Op) : LedgerInv (db.commit op) := by
  cases op with
  | registerLocalUser dto env year =>
    refine committed_of h fun db' user hok => ?_
    obtain ⟨db1, k, hs, hins, -⟩ := registerLocalUser_ok hok
    exact signUp_ledgerInv h hs hins
  | loginSocialUser sub email provider pick env year =>
    refine committed_of h fun db' p hok => ?_
    rcases loginSocialUser_ok hok with ⟨-, rfl⟩ | ⟨-, db1, k, hs, hins, -⟩
    · exact h
    · exact signUp_ledgerInv h hs hins
  | register dto userId newId => exact committed_of h fun db' a hok => register_ledgerInv h hok
  | update id dto userId => exact committed_of h fun db' a hok => update_ledgerInv h hok
  | delete id userId => exact committed_of h fun db' a hok => delete_ledgerInv h hok
  | updateUserProfile userId input year pick =>
    cases input with
    | image value =>
      refine committed_of h fun db' prev hok => ?_
      obtain ⟨-, user, -, -, rfl, -⟩ := updateUserProfileImage_ok hok
      exact h.congr rfl rfl fun _ _ => rfl
    | nickname value =>
      show LedgerInv (nicknameCommit db userId value)
      unfold nicknameCommit
      cases hok : updateUserProfileNickname db userId value with
      | error e => exact h
      | ok db' =>
        obtain ⟨-, user, -, -, rfl, -⟩ := updateUserProfileNickname_ok hok
        exact h.congr rfl rfl fun _ _ => rfl
    | teamId value => exact teamIdCommit_ledgerInv h userId value year pick
  | deleteUser userId =>
    refine committed_of h fun db' prev hok => ?_
    rw [deleteUserRow_ok hok]
    exact deleteUser_ledgerInv h userId

/-! ## Histories -/

theorem find?_setOutcomes (db : Db) (f : GameRow → Outcome) (gameId : String) :
    (db.setOutcomes f).games.find? gameId =
      (db.games.find? gameId).map fun g => g.withOutcome (f g) :=
  Table.find?_modify db.games _ (fun g => g.withOutcome_id (f g)) gameId

/-- A change of the outcomes keeps the games and their years. -/
theorem setOutcomes_ledgerInv {db : Db} (h : LedgerInv db) (f : GameRow → Outcome) :
    LedgerInv (db.setOutcomes f) := by
  refine ⟨fun k s => ?_, fun r hm => ?_⟩
  · have htally : (db.setOutcomes f).tally k s = db.tally k s := by
      have hrows : (db.setOutcomes f).registeredGames = db.registeredGames := rfl
      refine Db.tally_congr hrows (fun r _ => ?_) k s
      unfold Db.yearOf
      rw [find?_setOutcomes, Option.map_map]
      rfl
    rw [htally]
    exact h.ledger k s
  · rw [find?_setOutcomes, Option.isSome_map]
    exact h.game r hm

theorem insertGame_ledgerInv {db : Db} (h : LedgerInv db) (game : GameRow) :
    LedgerInv (db.insertGame game) := by
  unfold Db.insertGame
  split
  · exact h
  · cases hi : db.games.insert? game with
    | none => exact h
    | some games =>
      obtain ⟨hnone, rfl⟩ := Table.insert?_eq_some.1 hi
      -- a registered game is not the new one
      have hkeep : ∀ r ∈ db.registeredGames.rows,
          (db.games.save game).find? r.game = db.games.find? r.game := by
        intro r hm
        refine Table.find?_save_of_ne _ fun he => ?_
        have hsome := h.game r hm
        rw [← he, hnone] at hsome
        cases hsome
      rw [Option.elim]
      refine ⟨fun k s => ?_, fun r hm => ?_⟩
      · have hrows : (db.withGames (db.games.save game)).registeredGames = db.registeredGames := rfl
        rw [Db.tally_congr hrows (fun r hm => by simp only [Db.yearOf, Db.withGames_games, hkeep r hm])]
        exact h.ledger k s
      · rw [Db.withGames_games, hkeep r hm]
        exact h.game r hm

theorem cutTeamId_ledgerInv {db : Db} (h : LedgerInv db) (userId value year : Nat)
    (inserted : Bool) : LedgerInv (db.cutTeamId userId value year inserted) := by
  unfold Db.cutTeamId
  cases hup : updateUserProfileTeamId db userId value with
  | error e => exact h
  | ok p =>
    obtain ⟨db1, prevTeamId⟩ := p
    have h1 := updateUserProfileTeamId_ledgerInv h hup
    dsimp only
    split
    · cases hins : insertRankIfAbsent db1 ⟨userId, value, year⟩ with
      | error e => exact h1
      | ok db2 => exact insertRankIfAbsent_ledgerInv h1 hins
    · exact h1

section

variable (extractKeyFromUrl : String → Option String)

theorem nextOrFail_ledgerInv (w : World) (f : Fault) (h : LedgerInv w.db) :
    LedgerInv (w.nextOrFail extractKeyFromUrl f).db := by
  cases f with
  | event e =>
    cases e with
    | request op =>
      show LedgerInv (w.step extractKeyFromUrl op).db
      rw [World.step_db]
      exact commit_ledgerInv h op
    | outcomes f => exact setOutcomes_ledgerInv h f
    | newGame game => exact insertGame_ledgerInv h game
  | cache redis => exact h
  | cutTeamId userId value year inserted => exact cutTeamId_ledgerInv h userId value year inserted

/-! ## Deleting a settled registration -/

/-- A counter that is not zero can be decreased: only a missing user stops the save. -/
theorem updateRankRecord_decrease {db : Db} {k : RankKey} {s : RegisteredGameStatus} {e : AppError}
    (hpos : 0 < db.recorded k (GameResultColumnMap s))
    (h : updateRankRecord db { key := k, status := some s } false = .error e) :
    e = .db .foreignKeyViolation := by
  unfold updateRankRecord adjustedRank targetRank at h
  unfold Db.recorded at hpos
  cases hf : db.ranks.find? k with
  | none => simp [hf] at hpos
  | some row =>
    rw [hf] at h hpos
    simp only [Option.elim] at hpos
    simp only [Option.map_some, bind, Except.bind, Rank.adjustRecord_dec (Nat.ne_of_gt hpos)] at h
    unfold Db.saveRank at h
    split at h
    · cases h; rfl
    · cases h

/-- **Deletion.**  Under the ledger, deleting a registration with a status finds its
rank row with a counter to decrease. -/
theorem delete_error {db : Db} (h : LedgerInv db) {r : RegisteredGame}
    (hr : r ∈ db.registeredGames.rows) (hs : r.status ≠ none) {userId : Nat} {e : AppError}
    (herr : delete db r.id userId = .error e) :
    e ≠ .rank .recordNotFound ∧ e ≠ .rank .invalidRecordDecrease := by
  obtain ⟨s, hs⟩ := Option.ne_none_iff_exists'.1 hs
  obtain ⟨game, hg⟩ := Option.isSome_iff_exists.1 (h.game r hr)
  have hfind := Table.find?_of_mem hr
  by_cases hu : r.user = userId
  · have hload : findRegistration db r.id userId = .ok (r, game) := by
      simp [findRegistration, hfind, Option.filter, hu, hg]
    unfold delete deleteRegistration at herr
    simp only [hload, bind, Except.bind, pure, Except.pure, hs, ne_eq, reduceCtorEq,
      not_false_eq_true, if_true] at herr
    have hy : db.yearOf r.game = some game.date.getFullYear := by simp [Db.yearOf, hg]
    have hpos : 0 < (db.removeRegisteredGame r.id).recorded
        ⟨userId, r.cheeringTeam, game.date.getFullYear⟩ (GameResultColumnMap s) := by
      have hone : db.hit ⟨userId, r.cheeringTeam, game.date.getFullYear⟩ s r = 1 := by
        rw [Db.hit_eq hy, hu]
        simp [hs]
      have hle := Table.le_total (db.hit ⟨userId, r.cheeringTeam, game.date.getFullYear⟩ s) hr
      have hledger := h.ledger ⟨userId, r.cheeringTeam, game.date.getFullYear⟩ s
      have htally : db.tally ⟨userId, r.cheeringTeam, game.date.getFullYear⟩ s =
        db.registeredGames.total (db.hit ⟨userId, r.cheeringTeam, game.date.getFullYear⟩ s) := rfl
      have hsame : (db.removeRegisteredGame r.id).recorded
          ⟨userId, r.cheeringTeam, game.date.getFullYear⟩ (GameResultColumnMap s) =
        db.recorded ⟨userId, r.cheeringTeam, game.date.getFullYear⟩ (GameResultColumnMap s) := rfl
      omega
    cases hupd : updateRankRecord (db.removeRegisteredGame r.id)
        { key := ⟨userId, r.cheeringTeam, game.date.getFullYear⟩, status := some s } false with
    | error e' =>
      rw [hupd] at herr
      cases herr
      rw [updateRankRecord_decrease hpos hupd]
      exact ⟨by simp, by simp⟩
    | ok db' => rw [hupd] at herr; cases herr
  · have hload : findRegistration db r.id userId = .error (.registeredGame .notFound) := by
      simp [findRegistration, hfind, Option.filter, hu]
    unfold delete deleteRegistration at herr
    simp only [hload, bind, Except.bind] at herr
    cases herr
    exact ⟨by simp, by simp⟩

/-- **Rank ledger.**  In every state of every history of requests, failures and changes of
the games' outcomes, each counter is the number of the registrations it stands for, and
deleting a settled registration is never rejected for a missing or empty counter. -/
theorem rank_ledger (teams : Table Team.id) (stadiums : Table Stadium.id) (games : Table GameRow.id)
    (terms : Table Term.id) (history : List Fault) :
    Always (World.nextOrFail extractKeyFromUrl)
      (fun w => w.db.Ledger ∧
        ∀ r ∈ w.db.registeredGames.rows, r.status ≠ none → ∀ userId e,
          delete w.db r.id userId = .error e →
            e ≠ .rank .recordNotFound ∧ e ≠ .rank .invalidRecordDecrease)
      (World.start teams stadiums games terms) history := by
  have hstart : LedgerInv (World.start teams stadiums games terms).db :=
    ⟨fun k s => rfl, fun r hm => by cases hm⟩
  refine (always_of_step (fun w f h => nextOrFail_ledgerInv extractKeyFromUrl w f h) hstart
    history).imp fun w h => ⟨h.ledger, fun r hr hs userId e he => ?_⟩
  exact delete_error h hr hs he

end

end VictoryFairy
