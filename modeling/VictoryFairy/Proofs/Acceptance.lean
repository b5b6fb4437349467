import VictoryFairy.Proofs.Requests

/-!
# When a request is accepted

`update` needs both rank rows of a change of sides, `register` of a decided game the row of
its team; `delete` of a registration with a status needs a counter to decrease.

    CanAdd, CanTake     : what `updateRankRecord` needs of the rank table
    update_accepted_iff : the exact condition for `update`
    delete_accepted     : enough for `delete`
    register_accepted_iff
                        : the exact condition for a `register` that `create` would accept
-/

namespace VictoryFairy

open Runs

/-! ## Rank updates -/

/-- `Rank.create` accepts the key. -/
structure Creatable (k : RankKey) : Prop where
  teamId : 1 ≤ k.teamId ∧ k.teamId ≤ 10
  user : k.user ≠ 0
  activeYear : k.activeYear ≠ 0

/-- There is a row to add to, or a new one can be made. -/
def CanAdd (db : Db) (k : RankKey) : Prop := (db.ranks.find? k).isSome ∨ Creatable k

/-- There is a row, and its counter of the status is not empty. -/
def CanTake (db : Db) (k : RankKey) (status : Option RegisteredGameStatus) : Prop :=
  (db.ranks.find? k).isSome ∧ ∀ s, status = some s → db.recorded k (GameResultColumnMap s) ≠ 0

theorem Rank.create_iff (k : RankKey) : (∃ row, Rank.create k = .ok row) ↔ Creatable k := by
  unfold Rank.create Rank.validateDomain
  simp only [bind, Except.bind, pure, Except.pure]
  constructor
  · rintro ⟨row, h⟩
    split at h
    · cases h
    · next hv =>
      split at hv
      · cases hv
      · next ht =>
        split at hv
        · cases hv
        · next hu =>
          split at hv
          · cases hv
          · next hy => exact ⟨by omega, hu, hy⟩
  · rintro ⟨ht, hu, hy⟩
    rw [if_neg (by omega), if_neg hu, if_neg hy]
    exact ⟨_, rfl⟩

section

variable {db : Db} {k : RankKey} {status : Option RegisteredGameStatus}

theorem saveRank_iff {row : Rank} :
    (∃ db', db.saveRank row = .ok db') ↔ (db.users.find? row.user).isSome := by
  unfold Db.saveRank
  cases db.users.find? row.user <;> simp

theorem addRecord_ok (row : Rank) (column : Option RankColumn) :
    ∃ row', row.adjustRecord column true = .ok row' := by
  cases column <;> exact ⟨_, rfl⟩

theorem takeRecord_iff (row : Rank) (column : Option RankColumn) :
    (∃ row', row.adjustRecord column false = .ok row') ↔ ∀ c, column = some c → row.get c ≠ 0 := by
  unfold Rank.adjustRecord
  cases column with
  | none => simp
  | some c => by_cases h : row.get c = 0 <;> simp [h]

/-- An update is accepted when its row can be made and the user is there. -/
theorem updateRankRecord_iff {isAdd : Bool} :
    (∃ db', updateRankRecord db { key := k, status } isAdd = .ok db') ↔
      (db.users.find? k.user).isSome ∧
        ∃ row, adjustedRank (db.ranks.find? k) { key := k, status } isAdd = .ok row := by
  have huser : ∀ row, adjustedRank (db.ranks.find? k) { key := k, status } isAdd = .ok row →
      row.user = k.user := by
    intro row hrow
    have hfound : ∀ r, db.ranks.find? k = some r → r.key = (RankRecordDto.mk k status).key :=
      fun r hr => Table.find?_key hr
    exact congrArg RankKey.user (adjustedRank_ok hfound hrow).1
  unfold updateRankRecord
  rw [exists_bind_eq_ok]
  constructor
  · rintro ⟨row, hrow, hsave⟩
    exact ⟨huser row hrow ▸ saveRank_iff.1 hsave, row, hrow⟩
  · rintro ⟨hu, row, hrow⟩
    exact ⟨row, hrow, saveRank_iff.2 (huser row hrow ▸ hu)⟩

/-- An addition needs a row, or a key for one. -/
theorem updateRankRecord_add_iff :
    (∃ db', updateRankRecord db { key := k, status } true = .ok db') ↔
      (db.users.find? k.user).isSome ∧ CanAdd db k := by
  rw [updateRankRecord_iff, and_congr_right_iff]
  intro _
  unfold adjustedRank CanAdd
  rw [exists_bind_eq_ok, ← Rank.create_iff]
  cases hf : db.ranks.find? k with
  | some row => simpa [targetRank] using addRecord_ok row _
  | none =>
    simp only [targetRank, if_true, Option.isSome_none, Bool.false_eq_true, false_or]
    exact ⟨fun ⟨row, hrow, _⟩ => ⟨row, hrow⟩, fun ⟨row, hrow⟩ => ⟨row, hrow, addRecord_ok row _⟩⟩

/-- A decrease needs the row, and a counter to decrease. -/
theorem updateRankRecord_take_iff :
    (∃ db', updateRankRecord db { key := k, status } false = .ok db') ↔
      (db.users.find? k.user).isSome ∧ CanTake db k status := by
  rw [updateRankRecord_iff, and_congr_right_iff]
  intro _
  unfold adjustedRank CanTake Db.recorded
  rw [exists_bind_eq_ok]
  cases hf : db.ranks.find? k with
  | some row =>
    have htarget : ∀ P : Rank → Prop,
        (∃ row', targetRank (some row) { key := k, status } false = .ok row' ∧ P row') ↔ P row := by
      intro P
      exact ⟨fun ⟨_, h, hp⟩ => Except.ok.inj h ▸ hp, fun hp => ⟨row, rfl, hp⟩⟩
    rw [htarget, takeRecord_iff]
    simp only [Option.map_eq_some_iff, Option.isSome_some, true_and, Option.elim_some]
    exact ⟨fun h s hs => h _ ⟨s, hs, rfl⟩, fun h c ⟨s, hs, hc⟩ => hc ▸ h s hs⟩
  | none => simp [targetRank]

end

/-! ## `update` -/

theorem updateCheeringTeam_iff (r : RegisteredGame) (newTeam homeTeam awayTeam : Nat) :
    (∃ changed, r.updateCheeringTeam newTeam homeTeam awayTeam = .ok changed) ↔
      r.cheeringTeam = newTeam ∨ newTeam = homeTeam ∨ newTeam = awayTeam := by
  unfold RegisteredGame.updateCheeringTeam
  by_cases he : r.cheeringTeam = newTeam
  · rw [if_pos he]
    exact ⟨fun _ => Or.inl he, fun _ => ⟨r, rfl⟩⟩
  · rw [if_neg he]
    unfold RegisteredGame.validateCheeringTeam
    dsimp only
    by_cases hside : newTeam ≠ homeTeam ∧ newTeam ≠ awayTeam
    · rw [if_pos hside]
      exact ⟨nofun, fun h => (h.resolve_left he).elim (absurd · hside.1) (absurd · hside.2)⟩
    · rw [if_neg hside]
      refine ⟨fun _ => Or.inr ?_, fun _ => ⟨_, rfl⟩⟩
      by_contra hc
      exact hside (not_or.1 hc)

/-- What `update` needs of the registration and its game, and of the tables. -/
structure UpdateAccepted (db : Db) (r : RegisteredGame) (game : GameRow)
    (dto : UpdateRegisteredGameInput) : Prop where
  side : r.cheeringTeam = dto.cheeringTeamId ∨ dto.cheeringTeamId = game.homeTeam ∨
    dto.cheeringTeamId = game.awayTeam
  texts : IsText dto.seat ∧ IsText dto.review ∧ ∀ image ∈ dto.image.getD r.image, IsText image
  team : (db.teams.find? dto.cheeringTeamId).isSome
  ranks : r.cheeringTeam ≠ dto.cheeringTeamId → (db.users.find? r.user).isSome ∧
    CanTake db ⟨r.user, r.cheeringTeam, game.date.getFullYear⟩ r.status ∧
    CanAdd db ⟨r.user, dto.cheeringTeamId, game.date.getFullYear⟩

section

variable {db : Db} {id userId : Nat} {dto : UpdateRegisteredGameInput}

theorem findRegistration_of {r : RegisteredGame} {game : GameRow}
    (hr : db.registeredGames.find? id = some r) (hu : r.user = userId)
    (hg : db.games.find? r.game = some game) : findRegistration db id userId = .ok (r, game) := by
  unfold findRegistration
  rw [hr, Option.filter_some, if_pos (by simpa using hu)]
  dsimp only
  rw [hg]

theorem editedRegistration_iff {r : RegisteredGame} {game : GameRow}
    (hfind : findRegistration db id userId = .ok (r, game)) :
    (∃ changed, editedRegistration db id dto userId = .ok (r, game, changed)) ↔
      r.cheeringTeam = dto.cheeringTeamId ∨ dto.cheeringTeamId = game.homeTeam ∨
        dto.cheeringTeamId = game.awayTeam := by
  have hteam : ((r.updateImage dto.image).updateReviewAndSeat dto.review dto.seat).cheeringTeam =
      r.cheeringTeam := by
    rw [RegisteredGame.updateImage_eq, RegisteredGame.updateReviewAndSeat_keeps]
  rw [← hteam, ← updateCheeringTeam_iff]
  unfold editedRegistration
  rw [hfind]
  constructor
  · rintro ⟨changed, h⟩
    obtain ⟨_, hfound, h⟩ := bind_eq_ok.1 h
    cases hfound
    obtain ⟨changed', hchanged, -⟩ := bind_eq_ok.1 h
    exact ⟨changed', hchanged⟩
  · rintro ⟨changed, hchanged⟩
    exact ⟨changed, bind_eq_ok.2 ⟨(r, game), rfl, bind_eq_ok.2 ⟨changed, hchanged, rfl⟩⟩⟩

/-- Another row of the same table does not matter to a key. -/
theorem canAdd_of_other {db db1 : Db} {k k1 : RankKey} {row : Rank} (hw : RankWrites db db1 [row])
    (hkey : row.key = k1) (hne : k1 ≠ k) : CanAdd db1 k ↔ CanAdd db k := by
  unfold CanAdd
  rw [hw.eq, Db.withRanks_ranks, show db.ranks.saveAll [row] = db.ranks.save row from rfl,
    Table.find?_save_of_ne _ (hkey ▸ hne)]

theorem applyRankUpdates_cons (u : RankUpdate) (us : List RankUpdate) :
    applyRankUpdates db (u :: us) = (updateRankRecord db u.1 u.2 >>= fun db => applyRankUpdates db us) :=
  rfl

theorem applyRankUpdates_single (u : RankUpdate) :
    applyRankUpdates db [u] = updateRankRecord db u.1 u.2 := by
  rw [applyRankUpdates_cons]
  exact bind_pure _

/-- The rank updates of a change of sides. -/
theorem teamUpdates_iff (ctx : TeamCtx) (hne : ctx.prevTeamId ≠ ctx.newTeamId)
    (hchanged : ctx.isChanged = true) :
    (∃ db', applyRankUpdates db (ctx.rankUpdates userId) = .ok db') ↔
      (db.users.find? userId).isSome ∧ CanTake db ⟨userId, ctx.prevTeamId, ctx.year⟩ ctx.prevStatus ∧
        CanAdd db ⟨userId, ctx.newTeamId, ctx.year⟩ := by
  have hkeys : (⟨userId, ctx.prevTeamId, ctx.year⟩ : RankKey) ≠ ⟨userId, ctx.newTeamId, ctx.year⟩ :=
    fun he => hne (congrArg RankKey.teamId he)
  unfold TeamCtx.rankUpdates
  rw [if_pos hchanged, applyRankUpdates_cons, exists_bind_eq_ok]
  simp only [applyRankUpdates_single, updateRankRecord_add_iff]
  constructor
  · rintro ⟨db1, htake, -, hadd⟩
    obtain ⟨row, -, hkey, hw, -⟩ := updateRankRecord_ok htake
    obtain ⟨hu, htaken⟩ := updateRankRecord_take_iff.1 ⟨db1, htake⟩
    exact ⟨hu, htaken, (canAdd_of_other hw hkey hkeys).1 hadd⟩
  · rintro ⟨hu, htaken, hadd⟩
    obtain ⟨db1, htake⟩ := updateRankRecord_take_iff.2 ⟨hu, htaken⟩
    obtain ⟨row, -, hkey, hw, -⟩ := updateRankRecord_ok htake
    refine ⟨db1, htake, ?_, (canAdd_of_other hw hkey hkeys).2 hadd⟩
    rw [hw.eq]
    exact hu

/-- What `updateRegistration` returns for the entity it saves. -/
def editResult (dto : UpdateRegisteredGameInput) (r changed : RegisteredGame) (game : GameRow) :
    UpdateRegisteredGameResult where
  imageCtx := { isChanged := some r.image ≠ dto.image, prevImage := r.image }
  teamCtx :=
    { isChanged := r.cheeringTeam ≠ dto.cheeringTeamId, prevTeamId := r.cheeringTeam,
      newTeamId := dto.cheeringTeamId, prevStatus := r.status, changedStatus := changed.status,
      year := game.date.getFullYear }

theorem updateRegistration_of_edited {r changed : RegisteredGame} {game : GameRow}
    (h : editedRegistration db id dto userId = .ok (r, game, changed)) (htexts : changed.HasTexts)
    (hteam : (db.teams.find? changed.cheeringTeam).isSome) :
    updateRegistration db id dto userId =
      .ok (db.withRegisteredGames (db.registeredGames.save changed), editResult dto r changed game) := by
  have hsave : db.saveRegisteredGame changed =
      .ok (db.withRegisteredGames (db.registeredGames.save changed)) := by
    unfold Db.saveRegisteredGame
    rw [if_neg (not_not.2 htexts), if_neg (by simpa [Option.isSome_iff_ne_none] using hteam)]
  unfold updateRegistration
  rw [h]
  dsimp only [bind, Except.bind]
  rw [hsave]
  rfl

/-- An accepted update has texts the columns take. -/
theorem update_texts {db' : Db} {result : UpdateRegisteredGameResult}
    (h : update db id dto userId = .ok (db', result)) {r : RegisteredGame}
    (hr : db.registeredGames.find? id = some r) :
    IsText dto.seat ∧ IsText dto.review ∧ ∀ image ∈ dto.image.getD r.image, IsText image := by
  rw [update_eq] at h
  obtain ⟨⟨db1, result1⟩, hsaved, -⟩ := bind_eq_ok.1 h
  obtain ⟨r', game, changed, hedited, htakes, -⟩ := updateRegistration_ok hsaved
  obtain ⟨hr', -⟩ := editedRegistration_ok hedited
  obtain rfl := Option.some.inj (hr.symm.trans hr')
  exact (editedRegistration_hasTexts hedited).1 htakes.1

/-- **Acceptance.**  An update is accepted exactly for a registration of the user, texts the
columns take and a team that keeps or changes its side, when the rank rows of a change are
there. -/
theorem update_accepted_iff :
    (∃ db' result, update db id dto userId = .ok (db', result)) ↔
      ∃ r game, findRegistration db id userId = .ok (r, game) ∧
        UpdateAccepted db r game dto := by
  constructor
  · rintro ⟨db', result, h⟩
    obtain ⟨r, game, changed, hr, hu, hg, hedit, htakes, hctx, -, -, hranks⟩ := update_ok h
    refine ⟨r, game, findRegistration_of hr hu hg, hedit.side, update_texts h hr,
      hedit.team ▸ htakes.2, fun hne => ?_⟩
    have hupdates := (teamUpdates_iff result.teamCtx (by rw [hctx]; exact hne)
      (by rw [hctx]; simpa using hne)).1 ⟨db', hranks⟩
    rw [hctx, ← hu] at hupdates
    exact hupdates
  · rintro ⟨r, game, hfind, hside, htexts, hteam, hranks⟩
    obtain ⟨changed, hedited⟩ := (editedRegistration_iff hfind).2 hside
    obtain ⟨-, hu, -, hedit, -⟩ := editedRegistration_ok hedited
    have hsaved := updateRegistration_of_edited hedited
      ((editedRegistration_hasTexts hedited).2 htexts) (hedit.team ▸ hteam)
    have hupdates : ∃ db', applyRankUpdates (db.withRegisteredGames (db.registeredGames.save changed))
        ((editResult dto r changed game).teamCtx.rankUpdates userId) = .ok db' := by
      by_cases hne : r.cheeringTeam = dto.cheeringTeamId
      · refine ⟨db.withRegisteredGames (db.registeredGames.save changed), ?_⟩
        unfold TeamCtx.rankUpdates
        rw [if_neg (by simpa [editResult] using hne)]
        rfl
      · rw [teamUpdates_iff _ hne (by simpa [editResult] using hne)]
        obtain ⟨huser, htake, hadd⟩ := hranks hne
        rw [hu] at huser htake hadd
        exact ⟨huser, htake, hadd⟩
    obtain ⟨db', hdb'⟩ := hupdates
    refine ⟨db', editResult dto r changed game, ?_⟩
    rw [update_eq, hsaved]
    dsimp only [bind, Except.bind]
    rw [hdb']
    rfl

end

/-! ## `delete` -/

/-- A registration is removed unless its counter is not there to decrease. -/
theorem delete_accepted {db : Db} {id userId : Nat} {r : RegisteredGame} {game : GameRow}
    (hfind : findRegistration db id userId = .ok (r, game))
    (htake : r.status ≠ none → (db.users.find? userId).isSome ∧
      CanTake db ⟨userId, r.cheeringTeam, game.date.getFullYear⟩ r.status) :
    ∃ db' result, delete db id userId = .ok (db', result) := by
  have hdelete : delete db id userId = (do
      let db ← applyRankUpdates (db.removeRegisteredGame r.id)
        (GameCtx.rankUpdates ⟨r.status, r.cheeringTeam, game.date.getFullYear⟩ userId)
      return (db, ⟨r.image, r.status, r.cheeringTeam, game.date.getFullYear⟩)) := by
    rw [delete_eq]
    unfold deleteRegistration
    rw [hfind]
    rfl
  have hupdates : ∃ db', applyRankUpdates (db.removeRegisteredGame r.id)
      (GameCtx.rankUpdates ⟨r.status, r.cheeringTeam, game.date.getFullYear⟩ userId) = .ok db' := by
    unfold GameCtx.rankUpdates
    by_cases hs : r.status = none
    · rw [if_neg (by simpa using hs)]
      exact ⟨_, rfl⟩
    · rw [if_pos hs, applyRankUpdates_single, updateRankRecord_take_iff]
      exact htake hs
  obtain ⟨db', hdb'⟩ := hupdates
  refine ⟨db', ⟨r.image, r.status, r.cheeringTeam, game.date.getFullYear⟩, ?_⟩
  rw [hdelete, hdb']
  rfl

/-! ## `register` -/

theorem recordSaved_iff (db : Db) (k : RankKey) (status : Option RegisteredGameStatus) :
    (∃ db', recordSaved db { key := k, status } = .ok db') ↔
      status = none ∨ ((db.users.find? k.user).isSome ∧ CanAdd db k) := by
  unfold recordSaved
  by_cases hs : status = none
  · rw [if_neg (by simpa using hs)]
    exact ⟨fun _ => Or.inl hs, fun _ => ⟨db, rfl⟩⟩
  · rw [if_pos (by simpa using hs), updateRankRecord_add_iff]
    exact ⟨Or.inr, fun h => h.resolve_left hs⟩

/-- It only writes to the rank table. -/
theorem recordSaved_ok {db db' : Db} {dto : RankRecordDto} (h : recordSaved db dto = .ok db') :
    ∃ ranks, db' = db.withRanks ranks := by
  unfold recordSaved at h
  split at h
  · obtain ⟨row, -, -, hw, -⟩ := updateRankRecord_ok h
    exact ⟨_, hw.eq⟩
  · cases h
    exact ⟨db.ranks, rfl⟩

/-- A request to register a stored game that the user has not registered yet, by the rules of
`RegisteredGame.create`. -/
structure Registrable (db : Db) (dto : CreateRegisteredGameDto) (userId newId : Nat)
    (game : GameRow) : Prop where
  found : db.games.find? dto.gameId = some game
  stadium : (db.stadiums.find? game.stadium).isSome
  user : (db.users.find? userId).isSome
  team : (db.teams.find? dto.cheeringTeamId).isSome
  teamId : dto.cheeringTeamId ≠ 0
  side : dto.cheeringTeamId = game.homeTeam ∨ dto.cheeringTeamId = game.awayTeam
  seat : dto.seat ≠ ""
  review : dto.review ≠ ""
  unregistered : ∀ o ∈ db.registeredGames.rows, ¬ (o.game = dto.gameId ∧ o.user = userId)
  fresh : ∀ o ∈ db.registeredGames.rows, o.id ≠ newId

/-- The row a registration inserts. -/
def registeredRow (dto : CreateRegisteredGameDto) (game : GameRow) (userId newId : Nat) :
    RegisteredGame where
  id := newId
  image := dto.image
  seat := dto.seat
  review := dto.review
  status := game.resultOf dto.cheeringTeamId
  game := dto.gameId
  user := userId
  cheeringTeam := dto.cheeringTeamId

/-- The answer to it. -/
def registeredResponse (dto : CreateRegisteredGameDto) (game : GameRow) (newId : Nat)
    (stadium : Stadium) (cheeringTeam : Team) : RegisteredGameWithGameResponseDto where
  id := newId
  image := dto.image
  seat := dto.seat
  review := dto.review
  status := game.resultOf dto.cheeringTeamId
  gameId := game.id
  gameDate := game.date
  gameTime := game.time
  gameStatus := game.status
  stadium := stadium
  cheeringTeam := cheeringTeam

section

variable {db : Db} {dto : CreateRegisteredGameDto} {userId newId : Nat} {game : GameRow}

theorem Registrable.saveRegistration (h : Registrable db dto userId newId game) {team : Team}
    (hteam : team.id = dto.cheeringTeamId) :
    saveRegistration db (saveInput dto game team userId) newId =
      if (registeredRow dto game userId newId).HasTexts then
        .ok (db.withRegisteredGames (db.registeredGames.save (registeredRow dto game userId newId)),
          registeredRow dto game userId newId)
      else .error (.db .characterNotInRepertoire) := by
  have hid : game.id = dto.gameId := Table.find?_key h.found
  have hnew : newRegisteredGame db (saveInput dto game team userId) newId =
      .ok (registeredRow dto game userId newId) := by
    unfold newRegisteredGame
    rw [if_neg]
    · have hside : ¬ (dto.cheeringTeamId ≠ game.homeTeam ∧ dto.cheeringTeamId ≠ game.awayTeam) :=
        fun hc => h.side.elim hc.1 hc.2
      unfold saveInput RegisteredGame.create RegisteredGame.validateDomain
        RegisteredGame.validateCheeringTeam
      dsimp only
      rw [hteam, if_neg h.teamId, if_neg h.seat, if_neg h.review, if_neg hside]
      simp [bind, Except.bind, pure, Except.pure, registeredRow, GameRow.resultOf,
        determineStatus_orNull, hid]
    · rw [List.any_eq_true]
      rintro ⟨o, ho, hsame⟩
      refine h.unregistered o ho ?_
      simpa [saveInput, hid] using hsame
  unfold VictoryFairy.saveRegistration
  rw [hnew]
  dsimp only [bind, Except.bind]
  unfold Db.insertRegisteredGame
  by_cases htexts : (registeredRow dto game userId newId).HasTexts
  · rw [if_pos htexts, if_neg (not_not.2 htexts), if_neg, if_neg]
    · rfl
    · have hgame : (db.games.find? dto.gameId).isSome := by rw [h.found]; rfl
      simp only [Bool.or_eq_true, Option.isNone_iff_eq_none, not_or, ← Option.isSome_iff_ne_none]
      exact ⟨⟨hgame, h.user⟩, h.team⟩
    · rw [List.any_eq_true]
      rintro ⟨o, ho, hclash⟩
      rw [Bool.or_eq_true, decide_eq_true_iff, Bool.and_eq_true, decide_eq_true_iff,
        decide_eq_true_iff] at hclash
      exact hclash.elim (h.fresh o ho) (h.unregistered o ho)
  · rw [if_neg htexts, if_pos htexts]

/-- **Acceptance.**  Such a request is accepted exactly when the columns take its texts, and the
game is undecided or the rank row of the team is there or can be made. -/
theorem register_accepted_iff (h : Registrable db dto userId newId game) :
    (∃ db' response, register db dto userId newId = .ok (db', response)) ↔
      (registeredRow dto game userId newId).HasTexts ∧ (game.resultOf dto.cheeringTeamId = none ∨
        CanAdd db ⟨userId, dto.cheeringTeamId, game.date.getFullYear⟩) := by
  obtain ⟨team, hteam⟩ := Option.isSome_iff_exists.1 h.team
  obtain ⟨stadium, hstadium⟩ := Option.isSome_iff_exists.1 h.stadium
  have hid : team.id = dto.cheeringTeamId := Table.find?_key hteam
  have hregister : register db dto userId newId =
      if (registeredRow dto game userId newId).HasTexts then do
        let db' ← recordSaved (db.withRegisteredGames
            (db.registeredGames.save (registeredRow dto game userId newId)))
          { key := ⟨userId, dto.cheeringTeamId, game.date.getFullYear⟩,
            status := game.resultOf dto.cheeringTeamId }
        (db'.stadiums.find? game.stadium).elim (throw .typeError) fun stadium =>
          return (db', registeredResponse dto game newId stadium team)
      else .error (.db .characterNotInRepertoire) := by
    unfold register getOneGame findOneTeam
    rw [h.found, hteam]
    dsimp only [bind, Except.bind]
    rw [h.saveRegistration hid, hid]
    by_cases htexts : (registeredRow dto game userId newId).HasTexts
    · rw [if_pos htexts, if_pos htexts]
      dsimp only [registeredRow]
      cases recordSaved _ _ with
      | error e => rfl
      | ok db' => dsimp only; cases db'.stadiums.find? game.stadium <;> rfl
    · rw [if_neg htexts, if_neg htexts]
  rw [hregister]
  by_cases htexts : (registeredRow dto game userId newId).HasTexts
  · rw [if_pos htexts, and_iff_right htexts]
    have hrecorded := recordSaved_iff (db.withRegisteredGames
      (db.registeredGames.save (registeredRow dto game userId newId)))
      ⟨userId, dto.cheeringTeamId, game.date.getFullYear⟩ (game.resultOf dto.cheeringTeamId)
    have haccepted : game.resultOf dto.cheeringTeamId = none ∨
        CanAdd db ⟨userId, dto.cheeringTeamId, game.date.getFullYear⟩ ↔
        ∃ db', recordSaved (db.withRegisteredGames
            (db.registeredGames.save (registeredRow dto game userId newId)))
          { key := ⟨userId, dto.cheeringTeamId, game.date.getFullYear⟩,
            status := game.resultOf dto.cheeringTeamId } = .ok db' :=
      (or_congr_right (and_iff_right h.user).symm).trans hrecorded.symm
    rw [haccepted]
    constructor
    · rintro ⟨db', response, hok⟩
      obtain ⟨db1, hrecord, -⟩ := bind_eq_ok.1 hok
      exact ⟨db1, hrecord⟩
    · rintro ⟨db1, hrecord⟩
      refine ⟨db1, registeredResponse dto game newId stadium team,
        bind_eq_ok.2 ⟨db1, hrecord, ?_⟩⟩
      obtain ⟨ranks, rfl⟩ := recordSaved_ok hrecord
      rw [Db.withRanks_stadiums, Db.withRegisteredGames_stadiums, hstadium]
      rfl
  · rw [if_neg htexts]
    exact ⟨nofun, fun hc => absurd hc.1 htexts⟩

end

end VictoryFairy
