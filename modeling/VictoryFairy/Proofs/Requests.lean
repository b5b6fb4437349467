import Mathlib.Algebra.Ring.Int.Defs
import VictoryFairy.Lib.Runs
import VictoryFairy.Model.Application

/-!
# What a committed request does

Each of `register`, `update` and `delete` changes the registrations by one row and
then applies a list of rank updates (`registerUpdates`, `TeamCtx.rankUpdates`,
`GameCtx.rankUpdates`); one inversion lemma for each request says which row and
which list.  Everything else about the requests is derived from these.

    RankWrites db db' rows : db' is db after the rank rows `rows` were saved
    applyRankUpdates_ok    : a list of rank updates adds its net effect
    register_ok, update_ok, delete_ok, signUp_ok
-/

namespace VictoryFairy

open Runs

/-! ## Saved rank rows -/

/-- `db'` is `db` with `rows` saved in order; their users exist, and a row that is new
has the id of a team. -/
structure RankWrites (db db' : Db) (rows : List Rank) : Prop where
  eq : db' = db.withRanks (db.ranks.saveAll rows)
  user : ∀ row ∈ rows, (db.users.find? row.user).isSome
  team : ∀ row ∈ rows, (db.ranks.find? row.key).isSome ∨ (1 ≤ row.teamId ∧ row.teamId ≤ 10)

namespace RankWrites

theorem refl (db : Db) : RankWrites db db [] := ⟨rfl, by simp, by simp⟩

theorem cons {db db1 db2 : Db} {row : Rank} {rows : List Rank} (h : RankWrites db db1 [row])
    (h' : RankWrites db1 db2 rows) : RankWrites db db2 (row :: rows) := by
  obtain ⟨rfl, hu, ht⟩ := h
  obtain ⟨rfl, hu', ht'⟩ := h'
  refine ⟨rfl, ?_, ?_⟩
  · intro r hr
    rcases List.mem_cons.1 hr with rfl | hr
    · exact hu r List.mem_cons_self
    · exact hu' r hr
  · intro r hr
    rcases List.mem_cons.1 hr with rfl | hr
    · exact ht r List.mem_cons_self
    · by_cases he : row.key = r.key
      · have hteam : row.teamId = r.teamId := congrArg RankKey.teamId he
        rw [← he, ← hteam]
        exact ht row List.mem_cons_self
      · have hr' := ht' r hr
        rw [Db.withRanks_ranks, show db.ranks.saveAll [row] = db.ranks.save row from rfl,
          Table.find?_save_of_ne _ he] at hr'
        exact hr'

/-- A key that has a row keeps one. -/
theorem keeps {db db' : Db} {rows : List Rank} (h : RankWrites db db' rows) {row : Rank}
    (hrow : row ∈ db.ranks.rows) : ∃ row' ∈ db'.ranks.rows, row'.key = row.key := by
  obtain ⟨rfl, -, -⟩ := h
  have hsome := Table.isSome_find?_saveAll db.ranks rows (k := row.key)
    (by rw [Table.find?_of_mem hrow]; rfl)
  obtain ⟨row', hf⟩ := Option.isSome_iff_exists.1 hsome
  exact ⟨row', Table.mem_of_find? hf, Table.find?_key hf⟩

end RankWrites

@[simp] theorem recorded_saveRank (db : Db) (row : Rank) (k : RankKey) (c : RankColumn) :
    (db.withRanks (db.ranks.save row)).recorded k c =
      if row.key = k then row.get c else db.recorded k c := by
  unfold Db.recorded
  rw [Db.withRanks_ranks, Table.find?_save]
  split <;> rfl

theorem saveRank_ok {db db' : Db} {row : Rank} (h : db.saveRank row = .ok db') :
    db' = db.withRanks (db.ranks.save row) ∧ (db.users.find? row.user).isSome := by
  unfold Db.saveRank at h
  split at h
  · cases h
  · next hu => cases h; exact ⟨rfl, by simpa [Option.isSome_iff_ne_none] using hu⟩

/-! ## Rank updates -/

/-- What an update adds to a counter. -/
def RankUpdate.net (u : RankUpdate) (k : RankKey) (c : RankColumn) : Int :=
  if u.1.key = k ∧ u.1.status.map GameResultColumnMap = some c then (if u.2 then 1 else -1) else 0

theorem targetRank_ok {found : Option Rank} {dto : RankRecordDto} {isAdd : Bool} {target : Rank}
    (hf : ∀ r, found = some r → r.key = dto.key) (h : targetRank found dto isAdd = .ok target) :
    target.key = dto.key ∧
      (found.isSome ∨ (isAdd = true ∧ 1 ≤ dto.key.teamId ∧ dto.key.teamId ≤ 10)) ∧
      ∀ c, target.get c = found.elim 0 (·.get c) := by
  unfold targetRank at h
  cases found with
  | some r => cases h; exact ⟨hf _ rfl, Or.inl rfl, fun c => rfl⟩
  | none =>
    cases isAdd with
    | false => cases h
    | true =>
      obtain ⟨hkey, hzero, hge, hle⟩ := Rank.create_ok h
      exact ⟨hkey, Or.inr ⟨rfl, hge, hle⟩, hzero⟩

theorem adjustedRank_ok {found : Option Rank} {dto : RankRecordDto} {isAdd : Bool} {row : Rank}
    (hf : ∀ r, found = some r → r.key = dto.key) (h : adjustedRank found dto isAdd = .ok row) :
    row.key = dto.key ∧
      (found.isSome ∨ (isAdd = true ∧ 1 ≤ dto.key.teamId ∧ dto.key.teamId ≤ 10)) ∧
      ∀ c, (row.get c : Int) = found.elim 0 (·.get c) + RankUpdate.net (dto, isAdd) dto.key c := by
  unfold adjustedRank at h
  obtain ⟨target, ht, ha⟩ := bind_eq_ok.1 h
  obtain ⟨hk, hc⟩ := Rank.adjustRecord_ok ha
  obtain ⟨htkey, hteam, htget⟩ := targetRank_ok hf ht
  refine ⟨hk.trans htkey, hteam, fun c => ?_⟩
  have hcc := hc c
  rw [← htget c]
  unfold RankUpdate.net
  by_cases hcol : dto.status.map GameResultColumnMap = some c
  · rw [if_pos hcol] at hcc
    cases isAdd <;> simp [hcol] at hcc ⊢ <;> omega
  · rw [if_neg hcol] at hcc
    simp [hcol, hcc]

theorem updateRankRecord_ok {db db' : Db} {dto : RankRecordDto} {isAdd : Bool}
    (h : updateRankRecord db dto isAdd = .ok db') :
    ∃ row, adjustedRank (db.ranks.find? dto.key) dto isAdd = .ok row ∧ row.key = dto.key ∧
      RankWrites db db' [row] ∧ ((db.ranks.find? dto.key).isSome ∨ isAdd = true) ∧
      ∀ k c, (db'.recorded k c : Int) = db.recorded k c + RankUpdate.net (dto, isAdd) k c := by
  unfold updateRankRecord at h
  obtain ⟨row, hrow, hs⟩ := bind_eq_ok.1 h
  obtain ⟨rfl, hu⟩ := saveRank_ok hs
  obtain ⟨hkey, hteam, hget⟩ := adjustedRank_ok (fun r hr => Table.find?_key hr) hrow
  have hrowTeam : row.teamId = dto.key.teamId := congrArg RankKey.teamId hkey
  refine ⟨row, hrow, hkey, ⟨rfl, ?_, ?_⟩, hteam.imp_right And.left, fun k c => ?_⟩
  · simpa using hu
  · simpa [hkey, hrowTeam] using hteam.imp_right And.right
  · rw [recorded_saveRank]
    by_cases hk : row.key = k
    · rw [if_pos hk, hget c, ← hk, hkey]
      rfl
    · have hne : dto.key ≠ k := fun e => hk (hkey.trans e)
      simp [hk, RankUpdate.net, hne]

/-- A list of rank updates only saves rows of its keys, new ones only where it adds, and
adds its net effect. -/
theorem applyRankUpdates_ok {db db' : Db} {us : List RankUpdate}
    (h : applyRankUpdates db us = .ok db') :
    ∃ rows, RankWrites db db' rows ∧
      (∀ row ∈ rows, ∃ u ∈ us, row.key = u.1.key ∧ ((db.ranks.find? row.key).isSome ∨ u.2 = true)) ∧
      ∀ k c, (db'.recorded k c : Int) = db.recorded k c + (us.map fun u => u.net k c).sum := by
  unfold applyRankUpdates at h
  induction us generalizing db with
  | nil => cases h; exact ⟨[], .refl _, by simp, by simp⟩
  | cons u us ih =>
    rw [List.foldlM_cons] at h
    obtain ⟨db1, h1, h2⟩ := bind_eq_ok.1 h
    obtain ⟨row, -, hkey, hw, hadd, hrec⟩ := updateRankRecord_ok h1
    obtain ⟨rows, hws, hkeys, hrec'⟩ := ih h2
    refine ⟨row :: rows, hw.cons hws, ?_, fun k c => ?_⟩
    · intro r hr
      rcases List.mem_cons.1 hr with rfl | hr
      · exact ⟨u, List.mem_cons_self, hkey, hkey ▸ hadd⟩
      · obtain ⟨v, hv, hvk, hv'⟩ := hkeys r hr
        by_cases he : row.key = r.key
        · exact ⟨u, List.mem_cons_self, he ▸ hkey, by rw [← he, hkey]; exact hadd⟩
        · refine ⟨v, List.mem_cons_of_mem _ hv, hvk, ?_⟩
          rw [hw.eq, Db.withRanks_ranks, show db.ranks.saveAll [row] = db.ranks.save row from rfl,
            Table.find?_save_of_ne _ he] at hv'
          exact hv'
    · rw [hrec' k c, hrec k c, List.map_cons, List.sum_cons, Int.add_assoc]

theorem applyRankUpdates_registeredGames {db db' : Db} {registeredGames : Table RegisteredGame.id}
    {us : List RankUpdate}
    (h : applyRankUpdates (db.withRegisteredGames registeredGames) us = .ok db') :
    db'.registeredGames = registeredGames := by
  obtain ⟨rows, hw, -⟩ := applyRankUpdates_ok h
  rw [hw.eq]
  rfl

/-- Every row that was adjusted is there afterwards. -/
theorem applyRankUpdates_row {db db' : Db} {us : List RankUpdate}
    (h : applyRankUpdates db us = .ok db') {u : RankUpdate} (hu : u ∈ us) :
    ∃ row ∈ db'.ranks.rows, row.key = u.1.key := by
  induction us generalizing db with
  | nil => cases hu
  | cons v us ih =>
    unfold applyRankUpdates at h
    rw [List.foldlM_cons] at h
    obtain ⟨db1, hv, hus⟩ := bind_eq_ok.1 h
    rcases List.mem_cons.1 hu with rfl | hu
    · obtain ⟨row, -, hkey, hw, -⟩ := updateRankRecord_ok hv
      obtain ⟨rows, hws, -⟩ := applyRankUpdates_ok hus
      have hsaved : row ∈ db1.ranks.rows := by
        rw [hw.eq]
        exact Table.mem_save.2 (Or.inl rfl)
      obtain ⟨row', hrow', hk⟩ := hws.keeps hsaved
      exact ⟨row', hrow', hk.trans hkey⟩
    · exact ih hus hu

/-- A missing row is inserted with zeros, so no counter changes. -/
theorem insertRankIfAbsent_ok {db db' : Db} {k : RankKey} (h : insertRankIfAbsent db k = .ok db') :
    ∃ rows, RankWrites db db' rows ∧ (∀ row ∈ rows, row.key = k) ∧
      (db'.ranks.find? k).isSome ∧ ∀ k' c, db'.recorded k' c = db.recorded k' c := by
  unfold insertRankIfAbsent at h
  cases hf : db.ranks.find? k with
  | some r =>
    rw [hf] at h
    cases h
    exact ⟨[], .refl db, by simp, by simp [hf], fun k' c => rfl⟩
  | none =>
    rw [hf] at h
    obtain ⟨row, hrow, hs⟩ := bind_eq_ok.1 h
    obtain ⟨rfl, hu⟩ := saveRank_ok hs
    obtain ⟨hkey, hzero, hge, hle⟩ := Rank.create_ok hrow
    have hteam : row.teamId = k.teamId := congrArg RankKey.teamId hkey
    refine ⟨[row], ⟨rfl, by simpa using hu, ?_⟩, by simpa using hkey, ?_, fun k' c => ?_⟩
    · simpa [hteam] using Or.inr ⟨hge, hle⟩
    · simp [hkey]
    · rw [recorded_saveRank]
      split
      · next hk =>
        rw [hzero c, ← hk, hkey]
        simp [Db.recorded, hf]
      · rfl

/-! ## Requests as one registration change and a list of rank updates -/

theorem recordSaved_eq (db : Db) (row : RegisteredGame) (year : Nat) :
    recordSaved db { key := ⟨row.user, row.cheeringTeam, year⟩, status := row.status } =
      applyRankUpdates db (registerUpdates row year) := by
  unfold recordSaved registerUpdates applyRankUpdates
  split
  · simp
  · rfl

theorem update_eq (db : Db) (id : Nat) (dto : UpdateRegisteredGameInput) (userId : Nat) :
    update db id dto userId = (do
      let (db, result) ← updateRegistration db id dto userId
      let db ← applyRankUpdates db (result.teamCtx.rankUpdates userId)
      return (db, result)) := by
  unfold update TeamCtx.rankUpdates applyRankUpdates
  refine congrArg _ (funext fun p => ?_)
  by_cases hc : p.2.teamCtx.isChanged <;> simp [hc]

theorem delete_eq (db : Db) (registeredGameId userId : Nat) :
    delete db registeredGameId userId = (do
      let (db, result) ← deleteRegistration db registeredGameId userId
      let db ← applyRankUpdates db (result.gameCtx.rankUpdates userId)
      return (db, result)) := by
  unfold delete GameCtx.rankUpdates applyRankUpdates
  refine congrArg _ (funext fun p => ?_)
  by_cases hc : p.2.gameCtx.status = none <;> simp [hc]

/-! ### `register` -/

/-- Texts and team of a registration that the table takes. -/
def Db.Takes (db : Db) (r : RegisteredGame) : Prop :=
  r.HasTexts ∧ (db.teams.find? r.cheeringTeam).isSome

/-- `row` is what a registration of the game inserts. -/
structure IsNewRow (db : Db) (game : GameRow) (newId : Nat) (row : RegisteredGame) : Prop where
  found : db.games.find? row.game = some game
  user : (db.users.find? row.user).isSome
  takes : db.Takes row
  id : row.id = newId
  side : row.cheeringTeam = game.homeTeam ∨ row.cheeringTeam = game.awayTeam
  status : row.status = game.resultOf row.cheeringTeam
  fresh : ∀ o ∈ db.registeredGames.rows, o.id ≠ newId ∧ ¬ (o.game = row.game ∧ o.user = row.user)

theorem insertRegisteredGame_ok {db db' : Db} {r : RegisteredGame}
    (h : db.insertRegisteredGame r = .ok db') :
    db' = db.withRegisteredGames (db.registeredGames.save r) ∧
      (∀ o ∈ db.registeredGames.rows, o.id ≠ r.id ∧ ¬ (o.game = r.game ∧ o.user = r.user)) ∧
      (db.games.find? r.game).isSome ∧ (db.users.find? r.user).isSome ∧ db.Takes r := by
  unfold Db.insertRegisteredGame at h
  split at h
  · cases h
  · next htexts =>
    split at h
    · cases h
    · next hfresh =>
      split at h
      · cases h
      · next hfk =>
        cases h
        simp only [Bool.or_eq_true, Option.isNone_iff_eq_none, not_or] at hfk
        simp only [List.any_eq_true, not_exists, not_and, Bool.or_eq_true, decide_eq_true_eq,
          Bool.and_eq_true, not_or] at hfresh
        obtain ⟨⟨hgame, huser⟩, hteam⟩ := hfk
        exact ⟨rfl, fun o ho => ⟨(hfresh o ho).1, fun h => (hfresh o ho).2 h.1 h.2⟩,
          Option.isSome_iff_ne_none.2 hgame, Option.isSome_iff_ne_none.2 huser,
          not_not.1 htexts, Option.isSome_iff_ne_none.2 hteam⟩

theorem RegisteredGame.validateCheeringTeam_ok {r : RegisteredGame} {homeTeamId awayTeamId : Nat}
    {u : Unit} (h : r.validateCheeringTeam homeTeamId awayTeamId = .ok u) :
    r.cheeringTeam = homeTeamId ∨ r.cheeringTeam = awayTeamId := by
  unfold validateCheeringTeam at h
  split at h
  · cases h
  · next hside =>
    simp only [not_and_or, not_not] at hside
    exact hside

theorem RegisteredGame.create_ok {newId : Nat} {props : CreateProps} {row : RegisteredGame}
    (h : create newId props = .ok row) :
    row = { id := newId, image := props.image, seat := props.seat, review := props.review,
            status := none, game := props.gameId, user := props.userId,
            cheeringTeam := props.cheeringTeamId } ∧
      (row.cheeringTeam = props.homeTeamId ∨ row.cheeringTeam = props.awayTeamId) := by
  unfold create at h
  obtain ⟨_, -, h⟩ := bind_eq_ok.1 h
  obtain ⟨_, hc, h⟩ := bind_eq_ok.1 h
  cases h
  exact ⟨rfl, validateCheeringTeam_ok hc⟩

theorem getOneGame_ok {db : Db} {gameId : String} {game : GameRow}
    (h : getOneGame db gameId = .ok game) : db.games.find? gameId = some game := by
  unfold getOneGame at h
  split at h
  · cases h
  · next hg => cases h; exact hg

theorem findOneTeam_ok {db : Db} {id : Nat} {team : Team} (h : findOneTeam db id = .ok team) :
    team.id = id := by
  unfold findOneTeam at h
  split at h
  · cases h
  · next ht => cases h; exact Table.find?_key ht

/-- The entity `save` inserts has the result of the game it was given. -/
theorem newRegisteredGame_ok {db : Db} {dto : CreateRegisteredGameDto} {game : GameRow}
    {team : Team} {userId newId : Nat} {row : RegisteredGame}
    (h : newRegisteredGame db (saveInput dto game team userId) newId = .ok row) :
    row.id = newId ∧ row.user = userId ∧ row.game = game.id ∧ row.cheeringTeam = team.id ∧
      row.image = dto.image ∧
      (row.cheeringTeam = game.homeTeam ∨ row.cheeringTeam = game.awayTeam) ∧
      row.status = game.resultOf row.cheeringTeam := by
  unfold newRegisteredGame at h
  split at h
  · cases h
  · obtain ⟨created, hcreate, h⟩ := bind_eq_ok.1 h
    obtain ⟨rfl, hside⟩ := RegisteredGame.create_ok hcreate
    cases h
    refine ⟨rfl, rfl, rfl, rfl, rfl, hside, ?_⟩
    simp [saveInput, GameRow.resultOf, determineStatus_orNull]

theorem saveRegistration_ok {db db' : Db} {dto : CreateRegisteredGameDto} {game : GameRow}
    {team : Team} {userId newId : Nat} {row : RegisteredGame}
    (hgame : db.games.find? dto.gameId = some game)
    (h : saveRegistration db (saveInput dto game team userId) newId = .ok (db', row)) :
    IsNewRow db game newId row ∧ row.user = userId ∧ row.game = dto.gameId ∧
      row.cheeringTeam = team.id ∧ row.image = dto.image ∧
      db' = db.withRegisteredGames (db.registeredGames.save row) := by
  have hgid : game.id = dto.gameId := Table.find?_key hgame
  unfold saveRegistration at h
  obtain ⟨saved, hrow, h⟩ := bind_eq_ok.1 h
  obtain ⟨_, hins, h⟩ := bind_eq_ok.1 h
  cases h
  obtain ⟨rfl, hfresh, -, huser, htakes⟩ := insertRegisteredGame_ok hins
  obtain ⟨hid, hrowUser, hrowGame, hrowTeam, himage, hside, hstatus⟩ := newRegisteredGame_ok hrow
  have hfound : row.game = dto.gameId := hrowGame.trans hgid
  refine ⟨⟨?_, huser, htakes, hid, hside, hstatus, hid ▸ hfresh⟩, hrowUser, hfound, hrowTeam, himage, rfl⟩
  rw [hfound]
  exact hgame

/-- The calls of a `register` that is accepted. -/
theorem register_steps {db db' : Db} {dto : CreateRegisteredGameDto} {userId newId : Nat}
    {response : RegisteredGameWithGameResponseDto}
    (h : register db dto userId newId = .ok (db', response)) :
    ∃ game team db1 saved, getOneGame db dto.gameId = .ok game ∧
      findOneTeam db dto.cheeringTeamId = .ok team ∧
      saveRegistration db (saveInput dto game team userId) newId = .ok (db1, saved) ∧
      recordSaved db1 { key := ⟨userId, team.id, game.date.getFullYear⟩, status := saved.status } =
        .ok db' := by
  unfold register at h
  obtain ⟨game, hgame, h⟩ := bind_eq_ok.1 h
  obtain ⟨team, hteam, h⟩ := bind_eq_ok.1 h
  obtain ⟨⟨db1, saved⟩, hsave, h⟩ := bind_eq_ok.1 h
  obtain ⟨db2, hrank, h⟩ := bind_eq_ok.1 h
  obtain rfl : db2 = db' := by
    split at h
    · cases h
    · cases h; rfl
  exact ⟨game, team, db1, saved, hgame, hteam, hsave, hrank⟩

/-- The row a `register` inserts, and the rank updates that follow. -/
theorem register_ok {db db' : Db} {dto : CreateRegisteredGameDto} {userId newId : Nat}
    {response : RegisteredGameWithGameResponseDto}
    (h : register db dto userId newId = .ok (db', response)) :
    ∃ row game, IsNewRow db game newId row ∧ row.user = userId ∧ row.game = dto.gameId ∧
      row.cheeringTeam = dto.cheeringTeamId ∧ row.image = dto.image ∧
      applyRankUpdates (db.withRegisteredGames (db.registeredGames.save row))
        (registerUpdates row game.date.getFullYear) = .ok db' := by
  obtain ⟨game, team, db1, saved, hgame, hteam, hsave, hrank⟩ := register_steps h
  obtain ⟨hnew, rfl, hrowGame, hrowTeam, himage, rfl⟩ :=
    saveRegistration_ok (getOneGame_ok hgame) hsave
  refine ⟨saved, game, hnew, rfl, hrowGame, hrowTeam.trans (findOneTeam_ok hteam), himage, ?_⟩
  rw [← recordSaved_eq, hrowTeam]
  exact hrank

/-! ### `update` and `delete` -/

/-- `changeStatusWhenCheeringTeamChanged` on the status. -/
def swapped : Option RegisteredGameStatus → Option RegisteredGameStatus
  | some .win => some .lose
  | some .lose => some .win
  | s => s

theorem RegisteredGame.changeStatus_eq (r : RegisteredGame) :
    r.changeStatusWhenCheeringTeamChanged = { r with status := swapped r.status } := by
  obtain ⟨id, image, seat, review, status, game, user, team⟩ := r
  rcases status with _ | (_ | _ | _ | _) <;> rfl

/-- What an update leaves of a registration: the text fields apart, only the cheering
team, and with it the status, change. -/
structure IsEdit (game : GameRow) (newTeam : Nat) (r changed : RegisteredGame) : Prop where
  id : changed.id = r.id
  game_eq : changed.game = r.game
  user : changed.user = r.user
  team : changed.cheeringTeam = newTeam
  status : changed.status = if r.cheeringTeam = newTeam then r.status else swapped r.status
  side : r.cheeringTeam = newTeam ∨ newTeam = game.homeTeam ∨ newTeam = game.awayTeam

theorem RegisteredGame.updateCheeringTeam_ok {r changed : RegisteredGame} {newTeam : Nat}
    {game : GameRow} (h : r.updateCheeringTeam newTeam game.homeTeam game.awayTeam = .ok changed) :
    IsEdit game newTeam r changed := by
  unfold updateCheeringTeam at h
  split at h
  · next he => cases h; exact ⟨rfl, rfl, rfl, he, by rw [if_pos he], Or.inl he⟩
  · next hne =>
    obtain ⟨_, hv, h⟩ := bind_eq_ok.1 h
    cases h
    rw [changeStatus_eq]
    exact ⟨rfl, rfl, rfl, rfl, by rw [if_neg hne], Or.inr (validateCheeringTeam_ok hv)⟩

/-- An omitted image stays. -/
theorem RegisteredGame.updateImage_eq (r : RegisteredGame) (image : Option (Option String)) :
    r.updateImage image = { r with image := image.getD r.image } := by
  unfold updateImage
  cases image with
  | none => rfl
  | some i =>
    by_cases he : r.image = i
    · subst he; simp
    · simp [he]

theorem RegisteredGame.updateCheeringTeam_image {r changed : RegisteredGame}
    {newTeam homeTeam awayTeam : Nat}
    (h : r.updateCheeringTeam newTeam homeTeam awayTeam = .ok changed) :
    changed.image = r.image := by
  unfold updateCheeringTeam at h
  split at h
  · cases h; rfl
  · obtain ⟨_, -, h⟩ := bind_eq_ok.1 h
    cases h
    rw [changeStatus_eq]

theorem RegisteredGame.updateReviewAndSeat_keeps (r : RegisteredGame) (review seat : String) :
    r.updateReviewAndSeat review seat = { r with review, seat } := by
  unfold updateReviewAndSeat
  split
  · next h => rw [← h.1, ← h.2]
  · rfl

theorem findRegistration_ok {db : Db} {id userId : Nat} {r : RegisteredGame} {game : GameRow}
    (h : findRegistration db id userId = .ok (r, game)) :
    db.registeredGames.find? id = some r ∧ r.user = userId ∧ db.games.find? r.game = some game := by
  unfold findRegistration at h
  split at h
  · cases h
  · next hr =>
    split at h
    · cases h
    · next hg =>
      cases h
      obtain ⟨hfind, hu⟩ := Option.filter_eq_some_iff.1 hr
      exact ⟨hfind, by simpa using hu, hg⟩

theorem editedRegistration_ok {db : Db} {id : Nat} {dto : UpdateRegisteredGameInput} {userId : Nat}
    {r changed : RegisteredGame} {game : GameRow}
    (h : editedRegistration db id dto userId = .ok (r, game, changed)) :
    db.registeredGames.find? id = some r ∧ r.user = userId ∧ db.games.find? r.game = some game ∧
      IsEdit game dto.cheeringTeamId r changed ∧ changed.image = dto.image.getD r.image := by
  unfold editedRegistration at h
  obtain ⟨⟨r, game⟩, hfind, h⟩ := bind_eq_ok.1 h
  obtain ⟨changed, hchanged, h⟩ := bind_eq_ok.1 h
  cases h
  obtain ⟨hr, hu, hg⟩ := findRegistration_ok hfind
  rw [RegisteredGame.updateImage_eq, RegisteredGame.updateReviewAndSeat_keeps] at hchanged
  have hedit := RegisteredGame.updateCheeringTeam_ok hchanged
  exact ⟨hr, hu, hg,
    ⟨hedit.id, hedit.game_eq, hedit.user, hedit.team, hedit.status, hedit.side⟩,
    RegisteredGame.updateCheeringTeam_image hchanged⟩

theorem editedRegistration_texts {db : Db} {id : Nat} {dto : UpdateRegisteredGameInput}
    {userId : Nat} {r changed : RegisteredGame} {game : GameRow}
    (h : editedRegistration db id dto userId = .ok (r, game, changed)) :
    changed.seat = dto.seat ∧ changed.review = dto.review := by
  unfold editedRegistration at h
  obtain ⟨⟨r, game⟩, -, h⟩ := bind_eq_ok.1 h
  obtain ⟨changed, hchanged, h⟩ := bind_eq_ok.1 h
  cases h
  rw [RegisteredGame.updateImage_eq, RegisteredGame.updateReviewAndSeat_keeps] at hchanged
  unfold RegisteredGame.updateCheeringTeam at hchanged
  split at hchanged
  · cases hchanged
    exact ⟨rfl, rfl⟩
  · obtain ⟨_, -, hchanged⟩ := bind_eq_ok.1 hchanged
    cases hchanged
    rw [RegisteredGame.changeStatus_eq]
    exact ⟨rfl, rfl⟩

/-- The texts of the entity are those of the request. -/
theorem editedRegistration_hasTexts {db : Db} {id : Nat} {dto : UpdateRegisteredGameInput}
    {userId : Nat} {r changed : RegisteredGame} {game : GameRow}
    (h : editedRegistration db id dto userId = .ok (r, game, changed)) :
    changed.HasTexts ↔
      IsText dto.seat ∧ IsText dto.review ∧ ∀ image ∈ dto.image.getD r.image, IsText image := by
  obtain ⟨hseat, hreview⟩ := editedRegistration_texts h
  obtain ⟨-, -, -, -, himage⟩ := editedRegistration_ok h
  unfold RegisteredGame.HasTexts
  rw [hseat, hreview, himage]

theorem updateRegistration_ok {db db' : Db} {id : Nat} {dto : UpdateRegisteredGameInput}
    {userId : Nat} {result : UpdateRegisteredGameResult}
    (h : updateRegistration db id dto userId = .ok (db', result)) :
    ∃ r game changed, editedRegistration db id dto userId = .ok (r, game, changed) ∧
      db.Takes changed ∧
      result.teamCtx =
        { isChanged := r.cheeringTeam ≠ dto.cheeringTeamId, prevTeamId := r.cheeringTeam,
          newTeamId := dto.cheeringTeamId, prevStatus := r.status,
          changedStatus := changed.status, year := game.date.getFullYear } ∧
      result.imageCtx = { isChanged := some r.image ≠ dto.image, prevImage := r.image } ∧
      db' = db.withRegisteredGames (db.registeredGames.save changed) := by
  unfold updateRegistration at h
  obtain ⟨⟨r, game, changed⟩, hedited, h⟩ := bind_eq_ok.1 h
  obtain ⟨db1, hsave, h⟩ := bind_eq_ok.1 h
  cases h
  unfold Db.saveRegisteredGame at hsave
  split at hsave
  · cases hsave
  · next htexts =>
    split at hsave
    · cases hsave
    · next hteam =>
      cases hsave
      have htakes : db.Takes changed :=
        ⟨not_not.1 htexts, by simpa [Option.isSome_iff_ne_none] using hteam⟩
      exact ⟨r, game, changed, hedited, htakes, rfl, rfl, rfl⟩

/-- The row an `update` changes, and the rank updates that follow. -/
theorem update_ok {db db' : Db} {id : Nat} {dto : UpdateRegisteredGameInput} {userId : Nat}
    {result : UpdateRegisteredGameResult} (h : update db id dto userId = .ok (db', result)) :
    ∃ r game changed, db.registeredGames.find? id = some r ∧ r.user = userId ∧
      db.games.find? r.game = some game ∧ IsEdit game dto.cheeringTeamId r changed ∧
      db.Takes changed ∧
      result.teamCtx =
        { isChanged := r.cheeringTeam ≠ dto.cheeringTeamId, prevTeamId := r.cheeringTeam,
          newTeamId := dto.cheeringTeamId, prevStatus := r.status,
          changedStatus := changed.status, year := game.date.getFullYear } ∧
      changed.image = dto.image.getD r.image ∧
      result.imageCtx = { isChanged := some r.image ≠ dto.image, prevImage := r.image } ∧
      applyRankUpdates (db.withRegisteredGames (db.registeredGames.save changed))
        (result.teamCtx.rankUpdates userId) = .ok db' := by
  rw [update_eq] at h
  obtain ⟨⟨db1, result1⟩, h1, h⟩ := bind_eq_ok.1 h
  obtain ⟨db2, h2, h⟩ := bind_eq_ok.1 h
  cases h
  obtain ⟨r, game, changed, hedited, htakes, hctx, himageCtx, rfl⟩ := updateRegistration_ok h1
  obtain ⟨hr, hu, hg, hedit, himage⟩ := editedRegistration_ok hedited
  exact ⟨r, game, changed, hr, hu, hg, hedit, htakes, hctx, himage, himageCtx, h2⟩

/-- The row a `delete` removes, and the rank update that follows. -/
theorem delete_ok {db db' : Db} {id userId : Nat} {result : DeleteRegisteredGameResult}
    (h : delete db id userId = .ok (db', result)) :
    ∃ r game, db.registeredGames.find? id = some r ∧ r.user = userId ∧
      db.games.find? r.game = some game ∧
      result.gameCtx =
        { status := r.status, teamId := r.cheeringTeam, year := game.date.getFullYear } ∧
      result.prevImage = r.image ∧
      applyRankUpdates (db.withRegisteredGames (db.registeredGames.remove id))
        (result.gameCtx.rankUpdates userId) = .ok db' := by
  rw [delete_eq] at h
  obtain ⟨⟨db1, result1⟩, h1, h⟩ := bind_eq_ok.1 h
  obtain ⟨db2, h2, h⟩ := bind_eq_ok.1 h
  cases h
  unfold deleteRegistration at h1
  obtain ⟨⟨r, game⟩, hfind, h1⟩ := bind_eq_ok.1 h1
  cases h1
  obtain ⟨hr, hu, hg⟩ := findRegistration_ok hfind
  refine ⟨r, game, hr, hu, hg, rfl, rfl, ?_⟩
  rw [show id = r.id from (Table.find?_key hr).symm]
  exact h2

end VictoryFairy
