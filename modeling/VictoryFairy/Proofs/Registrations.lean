import VictoryFairy.Proofs.Acceptance
import VictoryFairy.Proofs.Ledger

/-!
# Registering, changing sides and deleting

Who may change sides while a game is pending, and which games can be registered and deleted
again.

    update_pending_iff : changing sides of a pending registration needs the old rank row
    register_undo_iff  : a decided game of a team without rank rows cannot be registered
-/

namespace VictoryFairy

open Runs

/-- What the foreign keys, the sequences and the dates of the tables promise. -/
structure Referential (db : Db) : Prop where
  game : ∀ r ∈ db.registeredGames.rows, (db.games.find? r.game).isSome
  user : ∀ r ∈ db.registeredGames.rows, (db.users.find? r.user).isSome
  sides : ∀ g ∈ db.games.rows, (db.teams.find? g.homeTeam).isSome ∧ (db.teams.find? g.awayTeam).isSome
  stadium : ∀ g ∈ db.games.rows, (db.stadiums.find? g.stadium).isSome
  userIds : ∀ u ∈ db.users.rows, u.id ≠ 0
  teamIds : ∀ t ∈ db.teams.rows, t.id ≠ 0
  years : ∀ g ∈ db.games.rows, g.date.getFullYear ≠ 0

/-- The team of a game is in the team table. -/
theorem Referential.team {db : Db} (h : Referential db) {game : GameRow} (hgame : game ∈ db.games.rows)
    {team : Nat} (hside : team = game.homeTeam ∨ team = game.awayTeam) :
    (db.teams.find? team).isSome ∧ team ≠ 0 := by
  have hfound : (db.teams.find? team).isSome := by
    rcases hside with rfl | rfl
    · exact (h.sides game hgame).1
    · exact (h.sides game hgame).2
  obtain ⟨t, ht⟩ := Option.isSome_iff_exists.1 hfound
  exact ⟨hfound, Table.find?_key ht ▸ h.teamIds t (Table.mem_of_find? ht)⟩

theorem Referential.userId {db : Db} (h : Referential db) {userId : Nat}
    (huser : (db.users.find? userId).isSome) : userId ≠ 0 := by
  obtain ⟨u, hu⟩ := Option.isSome_iff_exists.1 huser
  exact Table.find?_key hu ▸ h.userIds u (Table.mem_of_find? hu)

/-! ## A pending registration changes sides -/

/-- The update succeeds, stores the new team and leaves every counter. -/
def ChangesSides (db : Db) (r : RegisteredGame) (dto : UpdateRegisteredGameInput) : Prop :=
  ∃ db' result, update db r.id dto r.user = .ok (db', result) ∧
    (∃ row, db'.registeredGames.find? r.id = some row ∧ row.cheeringTeam = dto.cheeringTeamId) ∧
    ∀ k c, db'.recorded k c = db.recorded k c

/-- Without a status, no counter is touched. -/
theorem net_pending {us : List RankUpdate} (h : ∀ u ∈ us, u.1.status = none) (k : RankKey)
    (c : RankColumn) : (us.map fun u => u.net k c).sum = 0 := by
  refine List.sum_eq_zero fun n hn => ?_
  obtain ⟨u, hu, rfl⟩ := List.mem_map.1 hn
  unfold RankUpdate.net
  rw [h u hu]
  simp

/-- A change of team that leaves the result open counts nothing. -/
theorem teamRankUpdates_pending {ctx : TeamCtx} {userId : Nat} (hprev : ctx.prevStatus = none)
    (hchanged : ctx.changedStatus = none) : ∀ u ∈ ctx.rankUpdates userId, u.1.status = none := by
  intro u hu
  unfold TeamCtx.rankUpdates at hu
  split at hu
  · rcases List.mem_cons.1 hu with rfl | hu
    · exact hprev
    · rw [List.mem_singleton.1 hu]
      exact hchanged
  · cases hu

/-- **Pending registrations.**  Changing to a team with an id from 1 to 10 works exactly when the
columns take the texts, and the team stays or the user has a rank row of the old team in the
year of the game. -/
theorem update_pending_iff (db : Db) (href : Referential db) (r : RegisteredGame) (game : GameRow)
    (dto : UpdateRegisteredGameInput) (hr : r ∈ db.registeredGames.rows) (hpending : r.status = none)
    (hgame : db.games.find? r.game = some game)
    (hside : dto.cheeringTeamId = game.homeTeam ∨ dto.cheeringTeamId = game.awayTeam)
    (hrange : 1 ≤ dto.cheeringTeamId ∧ dto.cheeringTeamId ≤ 10) :
    ChangesSides db r dto ↔
      (IsText dto.seat ∧ IsText dto.review ∧ ∀ image ∈ dto.image.getD r.image, IsText image) ∧
        (r.cheeringTeam = dto.cheeringTeamId ∨
          (db.ranks.find? ⟨r.user, r.cheeringTeam, game.date.getFullYear⟩).isSome) := by
  have hfind : findRegistration db r.id r.user = .ok (r, game) :=
    findRegistration_of (Table.find?_of_mem hr) rfl hgame
  have hmem := Table.mem_of_find? hgame
  constructor
  · rintro ⟨db', result, hok, -⟩
    obtain ⟨r', game', hfind', -, htexts, -, hranks⟩ := update_accepted_iff.1 ⟨db', result, hok⟩
    obtain ⟨rfl, rfl⟩ := Prod.mk.inj (Except.ok.inj (hfind.symm.trans hfind'))
    refine ⟨htexts, ?_⟩
    by_cases he : r.cheeringTeam = dto.cheeringTeamId
    · exact Or.inl he
    · exact Or.inr (hranks he).2.1.1
  · rintro ⟨htexts, hrow⟩
    have haccepted : UpdateAccepted db r game dto := by
      refine ⟨Or.inr hside, htexts, (href.team hmem hside).1, fun hne => ⟨href.user r hr, ?_, ?_⟩⟩
      · exact ⟨hrow.resolve_left hne, fun s hs => by rw [hpending] at hs; cases hs⟩
      · exact Or.inr ⟨hrange, href.userId (href.user r hr), href.years game hmem⟩
    obtain ⟨db', result, hok⟩ := update_accepted_iff.2 ⟨r, game, hfind, haccepted⟩
    refine ⟨db', result, hok, ?_⟩
    obtain ⟨r', game', changed, hr', -, hgame', hedit, -, hctx, -, -, hranks⟩ := update_ok hok
    obtain rfl := Option.some.inj ((Table.find?_of_mem hr).symm.trans hr')
    refine ⟨⟨changed, ?_, hedit.team⟩, fun k c => ?_⟩
    · rw [applyRankUpdates_registeredGames hranks, ← hedit.id]
      exact Table.find?_save_self _ _
    · obtain ⟨rows, -, -, hnet⟩ := applyRankUpdates_ok hranks
      have hzero := hnet k c
      rw [net_pending] at hzero
      · have hsame : (db.withRegisteredGames (db.registeredGames.save changed)).recorded k c =
            db.recorded k c := rfl
        omega
      · have hnone : changed.status = none := by
          rw [hedit.status, hpending]
          split <;> rfl
        rw [hctx]
        exact teamRankUpdates_pending hpending hnone

/-- The game before it is played. -/
def pendingGame : GameRow :=
  { wonGame with status := preGame, homeTeamScore := none, awayTeamScore := none, winningTeam := none }

/-- The fan has registered the coming game for the home team. -/
def pendingDb (ranks : Table Rank.key) : Db :=
  { leagueDb with
    games := ⟨[pendingGame], by decide⟩
    registeredGames := ⟨[⟨1, none, "A1", "good", none, pendingGame.id, 7, 1⟩], by decide⟩
    ranks }

theorem pendingDb_referential (ranks : Table Rank.key) : Referential (pendingDb ranks) where
  game r hr := by rw [List.mem_singleton.1 hr]; rfl
  user r hr := by rw [List.mem_singleton.1 hr]; rfl
  sides g hg := by rw [List.mem_singleton.1 hg]; exact ⟨rfl, rfl⟩
  stadium g hg := by rw [List.mem_singleton.1 hg]; rfl
  userIds := show ∀ u ∈ leagueDb.users.rows, u.id ≠ 0 by decide
  teamIds := show ∀ t ∈ leagueDb.teams.rows, t.id ≠ 0 by decide
  years g hg := by rw [List.mem_singleton.1 hg]; decide

theorem update_pending_moved :
    ChangesSides (pendingDb ⟨[⟨7, 1, 2025, 0, 0, 0, 0⟩], by decide⟩)
      ⟨1, none, "A1", "good", none, pendingGame.id, 7, 1⟩ ⟨2, "A1", "good", none⟩ :=
  (update_pending_iff _ (pendingDb_referential _) _ pendingGame ⟨2, "A1", "good", none⟩
    List.mem_cons_self rfl rfl (Or.inr rfl) (by decide)).2 ⟨by decide, Or.inr rfl⟩

/-- Without a rank row of the old team, the change is rejected. -/
theorem update_pending_rejected :
    Referential (pendingDb .empty) ∧ (pendingDb .empty).Ledger ∧
      update (pendingDb .empty) 1 ⟨2, "A1", "good", none⟩ 7 = .error (.rank .recordNotFound) ∧
      ¬ ChangesSides (pendingDb .empty) ⟨1, none, "A1", "good", none, pendingGame.id, 7, 1⟩
        ⟨2, "A1", "good", none⟩ := by
  have hrejected : update (pendingDb .empty) 1 ⟨2, "A1", "good", none⟩ 7 =
      .error (.rank .recordNotFound) := rfl
  refine ⟨pendingDb_referential _, fun k s => ?_, hrejected, ?_⟩
  · refine Eq.symm (Table.total_eq_zero.2 fun r hr => ?_)
    rw [List.mem_singleton.1 hr]
    simp [Db.counts]
  · rintro ⟨db', result, hok, -⟩
    cases hrejected.symm.trans hok

/-! ## Registering and deleting again -/

/-- The registration is one new row, and deleting it leaves every counter as it was. -/
def RegistersAndUndoes (db : Db) (dto : CreateRegisteredGameDto) (userId newId : Nat) : Prop :=
  ∃ db1 response row, register db dto userId newId = .ok (db1, response) ∧
    db1.registeredGames.rows = db.registeredGames.rows ++ [row] ∧
    row.id = newId ∧ row.game = dto.gameId ∧ row.user = userId ∧
    ∃ db2 result, delete db1 newId userId = .ok (db2, result) ∧
      db2.registeredGames = db.registeredGames ∧ ∀ k c, db2.recorded k c = db.recorded k c

/-- What a deletion takes back. -/
theorem net_undone (row : RegisteredGame) (year : Nat) (k : RankKey) (c : RankColumn) :
    ((registerUpdates row year).map fun u => u.net k c).sum +
      ((GameCtx.rankUpdates ⟨row.status, row.cheeringTeam, year⟩ row.user).map fun u => u.net k c).sum =
        0 := by
  unfold registerUpdates GameCtx.rankUpdates
  dsimp only
  split
  · rw [List.map_singleton, List.map_singleton, List.sum_singleton, List.sum_singleton]
    unfold RankUpdate.net
    dsimp only
    split <;> rfl
  · rfl

/-- The result that was counted can be taken back: its rank row is there, and its counter was
increased. -/
theorem registered_canTake {db db1 : Db} {row : RegisteredGame} {year : Nat}
    (hranks : applyRankUpdates db (registerUpdates row year) = .ok db1) (hs : row.status ≠ none) :
    CanTake db1 ⟨row.user, row.cheeringTeam, year⟩ row.status := by
  have hupdates : registerUpdates row year =
      [({ key := ⟨row.user, row.cheeringTeam, year⟩, status := row.status }, true)] := if_pos hs
  have hmem : (({ key := ⟨row.user, row.cheeringTeam, year⟩, status := row.status }, true) :
      RankUpdate) ∈ registerUpdates row year := hupdates ▸ List.mem_cons_self
  obtain ⟨rank, hrank, hkey⟩ := applyRankUpdates_row hranks hmem
  have hrankKey : rank.key = ⟨row.user, row.cheeringTeam, year⟩ := hkey
  refine ⟨by rw [← hrankKey, Table.find?_of_mem hrank]; rfl, fun s hstatus hzero => ?_⟩
  obtain ⟨_, -, -, hnet⟩ := applyRankUpdates_ok hranks
  have hcount := hnet ⟨row.user, row.cheeringTeam, year⟩ (GameResultColumnMap s)
  unfold RankUpdate.net at hcount
  rw [hzero, hupdates, List.map_singleton, List.sum_singleton, if_pos ⟨rfl, by rw [hstatus]; rfl⟩,
    if_pos rfl] at hcount
  omega

/-- The row that was just registered can be deleted. -/
theorem delete_registered {db db1 : Db} {row : RegisteredGame} {game : GameRow} {userId newId : Nat}
    (hnew : IsNewRow db game newId row) (hu : row.user = userId)
    (hranks : applyRankUpdates (db.withRegisteredGames (db.registeredGames.save row))
      (registerUpdates row game.date.getFullYear) = .ok db1) :
    ∃ db2 result, delete db1 newId userId = .ok (db2, result) ∧
      db2.registeredGames = db.registeredGames ∧ ∀ k c, db2.recorded k c = db.recorded k c := by
  obtain ⟨rows, hw, -, hnet⟩ := applyRankUpdates_ok hranks
  have hregs : db1.registeredGames = db.registeredGames.save row :=
    applyRankUpdates_registeredGames hranks
  have hgames : db1.games = db.games := by rw [hw.eq]; rfl
  have husers : db1.users = db.users := by rw [hw.eq]; rfl
  have hfind : findRegistration db1 newId userId = .ok (row, game) := by
    refine findRegistration_of ?_ hu ?_
    · rw [hregs, ← hnew.id]
      exact Table.find?_save_self _ _
    · rw [hgames]
      exact hnew.found
  have htake : row.status ≠ none → (db1.users.find? userId).isSome ∧
      CanTake db1 ⟨userId, row.cheeringTeam, game.date.getFullYear⟩ row.status := fun hs =>
    ⟨by rw [husers, ← hu]; exact hnew.user, hu ▸ registered_canTake hranks hs⟩
  obtain ⟨db2, result, hok⟩ := delete_accepted hfind htake
  obtain ⟨r', game', hr', -, hgame', hctx, -, hranks'⟩ := delete_ok hok
  obtain ⟨hrow, -, hfound⟩ := findRegistration_ok hfind
  obtain rfl := Option.some.inj (hrow.symm.trans hr')
  obtain rfl := Option.some.inj (hfound.symm.trans hgame')
  refine ⟨db2, result, hok, ?_, fun k c => ?_⟩
  · have hother : ∀ o ∈ db.registeredGames.rows, o.id ≠ row.id :=
      fun o ho => hnew.id ▸ (hnew.fresh o ho).1
    rw [applyRankUpdates_registeredGames hranks', hregs, ← hnew.id]
    exact Table.remove_save_of_fresh hother
  · obtain ⟨rows', -, -, hnet'⟩ := applyRankUpdates_ok hranks'
    have hsum := net_undone row game.date.getFullYear k c
    have hadded := hnet k c
    have hremoved := hnet' k c
    rw [hctx, ← hu] at hremoved
    have hsame : (db1.withRegisteredGames (db1.registeredGames.remove newId)).recorded k c =
        db1.recorded k c := rfl
    have hbefore : (db.withRegisteredGames (db.registeredGames.save row)).recorded k c =
        db.recorded k c := rfl
    omega

/-- Without a decision there is no result. -/
theorem resultOf_eq_none_iff (game : GameRow) (team : Nat) :
    game.resultOf team = none ↔ isDecided game.status = false := by
  unfold GameRow.resultOf
  rw [← Bool.not_eq_true, isDecided_iff game.status (orNull game.winningTeam) team, not_not]

/-- **Registering.**  A stored game that the user has not registered yet can be registered, and
deleted again, exactly when the columns take the texts, and it is undecided, or the team has an
id up to 10, or the user has a rank row of the team in the year of the game. -/
theorem register_undo_iff (db : Db) (href : Referential db) (dto : CreateRegisteredGameDto)
    (userId newId : Nat) (game : GameRow) (hgame : db.games.find? dto.gameId = some game)
    (hside : dto.cheeringTeamId = game.homeTeam ∨ dto.cheeringTeamId = game.awayTeam)
    (hseat : dto.seat ≠ "") (hreview : dto.review ≠ "") (huser : (db.users.find? userId).isSome)
    (hunregistered : ∀ o ∈ db.registeredGames.rows, ¬ (o.game = dto.gameId ∧ o.user = userId))
    (hfresh : ∀ o ∈ db.registeredGames.rows, o.id ≠ newId) :
    RegistersAndUndoes db dto userId newId ↔
      (IsText dto.seat ∧ IsText dto.review ∧ ∀ image ∈ dto.image, IsText image) ∧
        (isDecided game.status = false ∨ dto.cheeringTeamId ≤ 10 ∨
          (db.ranks.find? ⟨userId, dto.cheeringTeamId, game.date.getFullYear⟩).isSome) := by
  have hmem := Table.mem_of_find? hgame
  obtain ⟨hteam, hteamId⟩ := href.team hmem hside
  have hrequest : Registrable db dto userId newId game :=
    ⟨hgame, href.stadium game hmem, huser, hteam, hteamId, hside, hseat, hreview, hunregistered, hfresh⟩
  have haccepted := register_accepted_iff hrequest
  rw [resultOf_eq_none_iff] at haccepted
  constructor
  · rintro ⟨db1, response, -, hok, -⟩
    obtain ⟨htexts, hadd⟩ := haccepted.1 ⟨db1, response, hok⟩
    refine ⟨htexts, ?_⟩
    rcases hadd with hundecided | hrow | hcreatable
    · exact Or.inl hundecided
    · exact Or.inr (Or.inr hrow)
    · exact Or.inr (Or.inl hcreatable.teamId.2)
  · rintro ⟨htexts, hcond⟩
    have hadd : isDecided game.status = false ∨
        CanAdd db ⟨userId, dto.cheeringTeamId, game.date.getFullYear⟩ := by
      rcases hcond with hundecided | hle | hrow
      · exact Or.inl hundecided
      · exact Or.inr (Or.inr ⟨⟨Nat.one_le_iff_ne_zero.2 hteamId, hle⟩, href.userId huser,
          href.years game hmem⟩)
      · exact Or.inr (Or.inl hrow)
    obtain ⟨db1, response, hok⟩ := haccepted.2 ⟨htexts, hadd⟩
    obtain ⟨row, game', hnew, hu, hrowGame, -, -, hranks⟩ := register_ok hok
    refine ⟨db1, response, row, hok, ?_, hnew.id, hrowGame, hu, delete_registered hnew hu hranks⟩
    rw [applyRankUpdates_registeredGames hranks]
    exact Table.rows_save_of_fresh fun o ho => hnew.id ▸ (hnew.fresh o ho).1

/-- The all-star game: its two teams are seeded with the ids 11 and 12. -/
def allStarGame (status : String) : GameRow :=
  { wonGame with id := "20250712WAAE0", status, homeTeam := 11, awayTeam := 12, winningTeam := some 11 }

def allStarDb (status : String) : Db :=
  { leagueDb with
    teams := ⟨[⟨1, "LG"⟩, ⟨11, "나눔"⟩, ⟨12, "드림"⟩], by decide⟩
    games := ⟨[allStarGame status], List.nodup_singleton _⟩ }

theorem allStarDb_referential (status : String) : Referential (allStarDb status) where
  game r hr := by cases hr
  user r hr := by cases hr
  sides g hg := by rw [List.mem_singleton.1 hg]; exact ⟨rfl, rfl⟩
  stadium g hg := by rw [List.mem_singleton.1 hg]; rfl
  userIds := show ∀ u ∈ leagueDb.users.rows, u.id ≠ 0 by decide
  teamIds := show ∀ t ∈ (allStarDb "").teams.rows, t.id ≠ 0 by decide
  years g hg := by rw [List.mem_singleton.1 hg]; exact show (2025 : Nat) ≠ 0 by decide

theorem register_undo_allStar :
    RegistersAndUndoes (allStarDb preGame) ⟨none, "A1", "good", "20250712WAAE0", 11⟩ 7 1 :=
  (register_undo_iff _ (allStarDb_referential _) ⟨none, "A1", "good", "20250712WAAE0", 11⟩ 7 1
    (allStarGame preGame) rfl (Or.inl rfl) (by decide) (by decide) rfl nofun nofun).2
    ⟨by decide, Or.inl rfl⟩

/-- Once it is over, the same request is rejected. -/
theorem register_allStar_rejected :
    Referential (allStarDb finished) ∧ (allStarDb finished).Ledger ∧
      register (allStarDb finished) ⟨none, "A1", "good", "20250712WAAE0", 11⟩ 7 1 =
        .error (.rank .invalidTeamId) ∧
      ¬ RegistersAndUndoes (allStarDb finished) ⟨none, "A1", "good", "20250712WAAE0", 11⟩ 7 1 := by
  have hrejected : register (allStarDb finished) ⟨none, "A1", "good", "20250712WAAE0", 11⟩ 7 1 =
      .error (.rank .invalidTeamId) := rfl
  refine ⟨allStarDb_referential _, fun k s => rfl, hrejected, fun ⟨db', response, _, hok, _⟩ => ?_⟩
  exact nomatch hrejected.symm.trans hok

end VictoryFairy
