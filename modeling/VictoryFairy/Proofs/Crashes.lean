import VictoryFairy.Lib.Failures
import VictoryFairy.Model.ErrorFilters
import VictoryFairy.Proofs.Calendar
import VictoryFairy.Proofs.Isolation
import VictoryFairy.Proofs.Standings
import VictoryFairy.Proofs.StoredRows

/-!
# Requests of a user who is stored

A rejected request has an error of its own, with its status, or it crashes: what is left to the
database's constraints, or to a read on `null`, is an internal error.  With the rows that they
rely on (`ServingInv`), the requests on registrations and the profile do not crash, a profile
with a team that is not stored apart.
-/

namespace VictoryFairy

open Runs Failures

/-- The steps reject with an error that the filters do not tell. -/
abbrev Crashes {α : Type} (x : Except AppError α) : Prop := Fails AppError.Internal x

/-! ## Rank updates -/

section

variable {db : Db}

theorem not_crashes_create (k : RankKey) : ¬ Crashes (Rank.create k) := by
  refine not_fails_bind ?_ fun _ _ => fails_ok _
  unfold Rank.validateDomain
  refine not_fails_guard (by simp) fun _ => ?_
  refine not_fails_guard (by simp) fun _ => ?_
  refine not_fails_guard (by simp) fun _ => ?_
  exact fails_ok ()

theorem not_crashes_adjustedRank (found : Option Rank) (dto : RankRecordDto) (isAdd : Bool) :
    ¬ Crashes (adjustedRank found dto isAdd) := by
  refine not_fails_bind ?_ fun row _ => ?_
  · unfold targetRank
    split
    · exact fails_ok _
    · split
      · exact not_crashes_create dto.key
      · simp [fails_error]
  · unfold Rank.adjustRecord
    split
    · exact fails_ok row
    · split
      · exact fails_ok _
      · exact not_fails_guard (by simp) fun _ => fails_ok _

theorem not_crashes_saveRank {row : Rank} (hu : (db.users.find? row.user).isSome) :
    ¬ Crashes (db.saveRank row) := by
  unfold Db.saveRank
  rw [if_neg (by simpa [Option.isSome_iff_ne_none] using hu)]
  exact fails_ok _

/-- The rank table has an error for everything but a user who is not there. -/
theorem not_crashes_updateRankRecord {dto : RankRecordDto} (hu : (db.users.find? dto.key.user).isSome)
    (isAdd : Bool) : ¬ Crashes (updateRankRecord db dto isAdd) := by
  refine not_fails_bind (not_crashes_adjustedRank _ dto isAdd) fun row hrow => ?_
  have hkey : row.key = dto.key := (adjustedRank_ok (fun r hr => Table.find?_key hr) hrow).1
  refine not_crashes_saveRank ?_
  rw [show row.user = dto.key.user from congrArg RankKey.user hkey]
  exact hu

theorem not_crashes_applyRankUpdates {us : List RankUpdate}
    (hu : ∀ u ∈ us, (db.users.find? u.1.key.user).isSome) : ¬ Crashes (applyRankUpdates db us) := by
  refine not_fails_foldlM (I := fun d : Db => d.users = db.users) (fun u hmem d hd => ?_) rfl
  refine ⟨not_crashes_updateRankRecord (hd ▸ hu u hmem) u.2, fun d' h => ?_⟩
  obtain ⟨row, -, -, hw, -⟩ := updateRankRecord_ok h
  exact hw.users.trans hd

theorem not_crashes_insertRankIfAbsent {k : RankKey} (hu : (db.users.find? k.user).isSome) :
    ¬ Crashes (insertRankIfAbsent db k) := by
  unfold insertRankIfAbsent
  split
  · exact fails_ok db
  · refine not_fails_bind (not_crashes_create k) fun row hrow => not_crashes_saveRank ?_
    rw [show row.user = k.user from congrArg RankKey.user (Rank.create_ok hrow).1]
    exact hu

end

/-! ## What the requests rely on -/

/-- What a game refers to is stored. -/
structure GameStored (teams : Table Team.id) (stadiums : Table Stadium.id) (game : GameRow) :
    Prop where
  homeTeam : (teams.find? game.homeTeam).isSome
  awayTeam : (teams.find? game.awayTeam).isSome
  stadium : (stadiums.find? game.stadium).isSome

/-- Rows refer to rows that are stored, and every user has a profile hash. -/
structure ServingInv (w : World) : Prop where
  users : UsersInv w.db
  credentials : CredentialInv w.db
  terms : ∀ t ∈ w.db.userTerms.rows, (w.db.users.find? t.userId).isSome
  games : ∀ game ∈ w.db.games.rows, GameStored w.db.teams w.db.stadiums game
  ledger : LedgerInv w.db
  rows : ∀ r ∈ w.db.registeredGames.rows, w.db.Takes r
  ids : IdsCached w.db.users w.redis

/-! ## Requests on registrations -/

section

variable {db : Db}

theorem not_crashes_validateCheeringTeam (r : RegisteredGame) (homeTeamId awayTeamId : Nat) :
    ¬ Crashes (r.validateCheeringTeam homeTeamId awayTeamId) := by
  unfold RegisteredGame.validateCheeringTeam
  exact not_fails_guard (by simp) fun _ => fails_ok ()

theorem not_crashes_newRegisteredGame (data : SaveRegisteredGameInput) (newId : Nat) :
    ¬ Crashes (newRegisteredGame db data newId) := by
  unfold newRegisteredGame
  refine not_fails_guard (by simp) fun _ => ?_
  refine not_fails_bind (not_fails_bind ?_ fun _ _ => not_fails_bind ?_ fun _ _ => fails_ok _)
    fun _ _ => fails_ok _
  · unfold RegisteredGame.validateDomain
    refine not_fails_guard (by simp) fun _ => ?_
    refine not_fails_guard (by simp) fun _ => ?_
    refine not_fails_guard (by simp) fun _ => ?_
    exact fails_ok ()
  · exact not_crashes_validateCheeringTeam _ _ _

theorem newRegisteredGame_unregistered {data : SaveRegisteredGameInput} {newId : Nat}
    {row : RegisteredGame} (h : newRegisteredGame db data newId = .ok row) :
    ∀ o ∈ db.registeredGames.rows, ¬ (o.game = data.gameId ∧ o.user = data.userId) := by
  unfold newRegisteredGame at h
  split at h
  · cases h
  · next hnone =>
    rintro o ho ⟨hgame, huser⟩
    exact hnone (List.any_eq_true.2 ⟨o, ho, by simp [hgame, huser]⟩)

theorem not_crashes_insertRegisteredGame {r : RegisteredGame} (htexts : r.HasTexts)
    (hfresh : ∀ o ∈ db.registeredGames.rows, o.id ≠ r.id)
    (hunregistered : ∀ o ∈ db.registeredGames.rows, ¬ (o.game = r.game ∧ o.user = r.user))
    (hgame : (db.games.find? r.game).isSome) (huser : (db.users.find? r.user).isSome)
    (hteam : (db.teams.find? r.cheeringTeam).isSome) : ¬ Crashes (db.insertRegisteredGame r) := by
  unfold Db.insertRegisteredGame
  rw [if_neg (not_not.2 htexts), if_neg, if_neg]
  · exact fails_ok _
  · simp only [Bool.or_eq_true, Option.isNone_iff_eq_none, not_or, ← Option.isSome_iff_ne_none]
    exact ⟨⟨hgame, huser⟩, hteam⟩
  · rw [List.any_eq_true]
    rintro ⟨o, ho, hclash⟩
    rw [Bool.or_eq_true, decide_eq_true_iff, Bool.and_eq_true, decide_eq_true_iff,
      decide_eq_true_iff] at hclash
    exact hclash.elim (hfresh o ho) (hunregistered o ho)

theorem not_crashes_findRegistration (h : LedgerInv db) (id userId : Nat) :
    ¬ Crashes (findRegistration db id userId) := by
  unfold findRegistration
  split
  · simp [fails_error]
  · next r hr =>
    obtain ⟨hfind, -⟩ := Option.filter_eq_some_iff.1 hr
    obtain ⟨game, hgame⟩ := Option.isSome_iff_exists.1 (h.game r (Table.mem_of_find? hfind))
    rw [hgame]
    exact fails_ok _

theorem not_crashes_editedRegistration (h : LedgerInv db) (id : Nat) (dto : UpdateRegisteredGameInput)
    (userId : Nat) : ¬ Crashes (editedRegistration db id dto userId) := by
  refine not_fails_bind (not_crashes_findRegistration h id userId) fun p _ => ?_
  obtain ⟨r, game⟩ := p
  refine not_fails_bind ?_ fun _ _ => fails_ok _
  unfold RegisteredGame.updateCheeringTeam
  split
  · exact fails_ok _
  · exact not_fails_bind (not_crashes_validateCheeringTeam _ _ _) fun _ _ => fails_ok _

end

section

variable {w : World} {userId : Nat} (h : ServingInv w) (hu : (w.db.users.find? userId).isSome)
include h hu

theorem not_crashes_register (dto : CreateRegisteredGameDto) {newId : Nat}
    (htexts : IsText dto.seat ∧ IsText dto.review ∧ ∀ image ∈ dto.image, IsText image)
    (hfresh : w.db.registeredGames.find? newId = none) :
    ¬ Crashes (register w.db dto userId newId) := by
  refine not_fails_bind ?_ fun game hgame => not_fails_bind ?_ fun team hteam =>
    not_fails_bind ?_ fun p hsave => ?_
  · unfold getOneGame
    split
    · simp [fails_error]
    · exact fails_ok _
  · unfold findOneTeam
    split
    · simp [fails_error]
    · exact fails_ok _
  · have hfound := getOneGame_ok hgame
    have hid : game.id = dto.gameId := Table.find?_key hfound
    refine not_fails_bind (not_crashes_newRegisteredGame _ newId) fun row hrow =>
      not_fails_bind ?_ fun _ _ => fails_ok _
    obtain ⟨hrowId, hrowUser, hrowGame, hrowTeam, himage, -⟩ := newRegisteredGame_ok hrow
    obtain ⟨hseat, hreview, -⟩ := newRegisteredGame_texts hrow
    have hunregistered := newRegisteredGame_unregistered hrow
    have hrowTexts : row.HasTexts := by
      unfold RegisteredGame.HasTexts
      rw [hseat, hreview, himage]
      exact htexts
    refine not_crashes_insertRegisteredGame hrowTexts (hrowId ▸ Table.find?_eq_none.1 hfresh)
      ?_ ?_ ?_ ?_
    · rw [hrowGame, hrowUser]
      exact hunregistered
    · rw [hrowGame, hid, hfound]
      rfl
    · rw [hrowUser]
      exact hu
    · rw [hrowTeam, findOneTeam_ok hteam]
      unfold findOneTeam at hteam
      split at hteam
      · cases hteam
      · next hteam' => rw [hteam']; rfl
  · obtain ⟨db1, saved⟩ := p
    obtain ⟨-, -, -, -, -, rfl⟩ := saveRegistration_ok (getOneGame_ok hgame) hsave
    refine not_fails_bind ?_ fun db' hrank => ?_
    · unfold recordSaved
      split
      · exact not_crashes_updateRankRecord hu true
      · exact fails_ok _
    · obtain ⟨ranks, rfl⟩ := recordSaved_ok hrank
      have hmem := Table.mem_of_find? (getOneGame_ok hgame)
      obtain ⟨stadium, hstadium⟩ := Option.isSome_iff_exists.1 (h.games game hmem).stadium
      rw [Db.withRanks_stadiums, Db.withRegisteredGames_stadiums, hstadium]
      exact fails_ok _

/-- The team of an edit is the one before or plays in the game. -/
theorem not_crashes_update (id : Nat) (dto : UpdateRegisteredGameInput)
    (htexts : IsText dto.seat ∧ IsText dto.review ∧
      ∀ given ∈ dto.image, ∀ image ∈ given, IsText image) : ¬ Crashes (update w.db id dto userId) := by
  rw [update_eq]
  refine not_fails_bind ?_ fun p hp => ?_
  · refine not_fails_bind (not_crashes_editedRegistration h.ledger id dto userId) fun p hp => ?_
    obtain ⟨r, game, changed⟩ := p
    obtain ⟨hr, -, hg, hedit, -⟩ := editedRegistration_ok hp
    refine not_fails_bind ?_ fun _ _ => fails_ok _
    have hstored := h.games game (Table.mem_of_find? hg)
    have hteam : (w.db.teams.find? changed.cheeringTeam).isSome := by
      rw [hedit.team]
      rcases hedit.side with hsame | hhome | haway
      · rw [← hsame]
        exact (h.rows r (Table.mem_of_find? hr)).2
      · rw [hhome]
        exact hstored.homeTeam
      · rw [haway]
        exact hstored.awayTeam
    -- the image of the request, or the stored one
    have himage : ∀ image ∈ dto.image.getD r.image, IsText image := by
      cases hgiven : dto.image with
      | none => exact (h.rows r (Table.mem_of_find? hr)).1.2.2
      | some given => exact htexts.2.2 given hgiven
    have hchanged := (editedRegistration_hasTexts hp).2 ⟨htexts.1, htexts.2.1, himage⟩
    unfold Db.saveRegisteredGame
    rw [if_neg (not_not.2 hchanged), if_neg (by simpa [Option.isSome_iff_ne_none] using hteam)]
    exact fails_ok _
  · obtain ⟨db1, result⟩ := p
    obtain ⟨r, game, changed, -, -, -, -, rfl⟩ := updateRegistration_ok hp
    refine not_fails_bind (not_crashes_applyRankUpdates fun u hmem => ?_) fun _ _ => fails_ok _
    rw [TeamCtx.rankUpdates_user u hmem]
    exact hu

theorem not_crashes_delete (id : Nat) : ¬ Crashes (delete w.db id userId) := by
  rw [delete_eq]
  refine not_fails_bind ?_ fun p hp => ?_
  · exact not_fails_bind (not_crashes_findRegistration h.ledger id userId) fun _ _ => fails_ok _
  · obtain ⟨db1, result⟩ := p
    obtain ⟨q, -, hq⟩ := bind_eq_ok.1 hp
    cases hq
    refine not_fails_bind (not_crashes_applyRankUpdates fun u hmem => ?_) fun _ _ => fails_ok _
    rw [GameCtx.rankUpdates_user u hmem]
    exact hu

end

/-! ## Profile and deletion -/

theorem not_crashes_loadUser {db : Db} {userId : Nat} (hu : (db.users.find? userId).isSome) :
    ¬ Crashes (loadUser db userId) := by
  obtain ⟨user, hfind⟩ := Option.isSome_iff_exists.1 hu
  unfold loadUser
  rw [hfind]
  exact fails_ok user

theorem not_crashes_saveUser {db : Db} {user : User} (h : Storable db user) :
    ¬ Crashes (db.saveUser user) := by
  rw [saveUser_of_storable h]
  exact fails_ok _

/-- Of the constraints a change of the team can only break the one on the team. -/
theorem crashes_saveUser_team {db : Db} {user : User} (h : Storable db user) (value : Nat) :
    Crashes (db.saveUser { user with supportTeam := value }) ↔ db.teams.find? value = none := by
  constructor
  · intro hc
    by_contra hteam
    have hsaved : Storable db { user with supportTeam := value } :=
      ⟨h.unique, Option.isSome_iff_ne_none.2 hteam⟩
    exact not_crashes_saveUser hsaved hc
  · intro hteam
    unfold Db.saveUser
    split
    · simp [fails_error]
    · rw [if_pos (by simp [hteam])]
      simp [fails_error]

/-- A loaded user meets the constraints. -/
theorem UsersInv.loaded {db : Db} (h : UsersInv db) {userId : Nat} {user : User}
    (hload : loadUser db userId = .ok user) : Storable db user :=
  h user (Table.mem_of_find? (loadUser_ok hload))

section

variable {w : World} {userId : Nat} (h : ServingInv w) (hu : (w.db.users.find? userId).isSome)
include h hu

/-- The profile hash is there to be updated. -/
theorem ServingInv.updateFieldsOfUser (field value : String) :
    ¬ Crashes (w.redis.updateFieldsOfUser userId field value) := by
  have hid := h.ids userId hu
  unfold Redis.updateFieldsOfUser
  rw [if_neg]
  · exact fails_ok _
  · intro hempty
    rw [hempty] at hid
    cases hid

theorem not_crashes_updateUserProfileImage (value : String) :
    ¬ Crashes (updateUserProfileImage w.db userId value) := by
  refine not_fails_bind (not_crashes_loadUser hu) fun user hload =>
    not_fails_bind ?_ fun changed hchanged => not_fails_bind ?_ fun _ _ => fails_ok _
  · unfold User.updateProfileImage
    exact not_fails_guard (by simp) fun _ => fails_ok _
  · obtain rfl := User.updateProfileImage_ok hchanged
    have hstorable := h.users.loaded hload
    exact not_crashes_saveUser ⟨hstorable.unique, hstorable.team⟩

theorem not_crashes_updateImage (extractKeyFromUrl : String → Option String) (value : String) :
    ¬ Crashes (w.updateImage extractKeyFromUrl userId value).2 := by
  have hnot := not_crashes_updateUserProfileImage h hu value
  unfold World.updateImage
  cases hup : updateUserProfileImage w.db userId value with
  | error e => exact not_fails_error hnot hup
  | ok p =>
    obtain ⟨db, prevImage⟩ := p
    dsimp only
    have hredis : (if (prevImage.getD "") ≠ "" then
        ({ w with db } : World).deleteImage extractKeyFromUrl prevImage else { w with db }).redis =
          w.redis := by
      split <;> simp
    rw [hredis]
    have hfields := h.updateFieldsOfUser hu "profileImage" value
    cases hset : w.redis.updateFieldsOfUser userId "profileImage" value with
    | error e => exact not_fails_error hfields hset
    | ok redis => exact fails_ok ()

/-- A nickname that is not taken meets the constraints. -/
theorem not_crashes_updateUserProfileNickname (value : String) :
    ¬ Crashes (updateUserProfileNickname w.db userId value) := by
  unfold updateUserProfileNickname
  refine not_fails_guard (by simp) fun hfree => ?_
  refine not_fails_bind (not_crashes_loadUser hu) fun user hload =>
    not_fails_bind ?_ fun changed hchanged => ?_
  · unfold User.updateNickname
    exact not_fails_guard (by simp) fun _ => fails_ok _
  · obtain rfl := User.updateNickname_ok hchanged
    have hstorable := h.users.loaded hload
    refine not_crashes_saveUser ⟨fun v hv hne => ⟨(hstorable.unique v hv hne).1, ?_⟩, hstorable.team⟩
    exact fun he => hfree (List.any_eq_true.2 ⟨v, hv, decide_eq_true he⟩)

theorem not_crashes_updateNickname (value : String) :
    ¬ Crashes (w.updateNickname userId value).2 := by
  have hnot := not_crashes_updateUserProfileNickname h hu value
  unfold World.updateNickname
  cases hup : updateUserProfileNickname w.db userId value with
  | error e => exact not_fails_error hnot hup
  | ok db =>
    have hfields := h.updateFieldsOfUser hu "nickname" value
    dsimp only
    cases hset : w.redis.updateFieldsOfUser userId "nickname" value with
    | error e => exact not_fails_error hfields hset
    | ok redis => exact fails_ok ()

/-- The ids of the ten teams are foreseen, the rows of the teams are not. -/
theorem crashes_updateUserProfileTeamId (value : Nat) :
    Crashes (updateUserProfileTeamId w.db userId value) ↔
      (1 ≤ value ∧ value ≤ 10) ∧ w.db.teams.find? value = none := by
  unfold updateUserProfileTeamId
  refine (fails_bind_of_not (not_crashes_loadUser hu)).trans ?_
  constructor
  · rintro ⟨user, hload, hc⟩
    rcases fails_bind.1 hc with hc | ⟨changed, hchanged, hc⟩
    · unfold User.updateTeam at hc
      split at hc
      · simp [fails_error] at hc
      · exact absurd hc (fails_ok _)
    · obtain ⟨rfl, hrange⟩ := User.updateTeam_ok hchanged
      refine ⟨hrange, (crashes_saveUser_team (h.users.loaded hload) value).1 ?_⟩
      rcases fails_bind.1 hc with hc | ⟨db', -, hc⟩
      · exact hc
      · exact absurd hc (fails_ok _)
  · rintro ⟨hrange, hteam⟩
    obtain ⟨user, hfind⟩ := Option.isSome_iff_exists.1 hu
    have hload : loadUser w.db userId = .ok user := by
      unfold loadUser
      rw [hfind]
    have hchanged : user.updateTeam value = .ok { user with supportTeam := value } :=
      if_neg (by omega)
    refine ⟨user, hload, fails_bind.2 (Or.inr ⟨_, hchanged, fails_bind.2 (Or.inl ?_)⟩)⟩
    exact (crashes_saveUser_team (h.users.loaded hload) value).2 hteam

theorem crashes_updateTeamId (value year pick : Nat) :
    Crashes (w.updateTeamId userId value year pick).2 ↔
      (1 ≤ value ∧ value ≤ 10) ∧ w.db.teams.find? value = none := by
  rw [← crashes_updateUserProfileTeamId h hu value]
  unfold World.updateTeamId
  cases hup : updateUserProfileTeamId w.db userId value with
  | error e => exact fails_error.trans fails_error.symm
  | ok p =>
    obtain ⟨db, prevTeamId⟩ := p
    refine iff_of_false ?_ (fails_ok _)
    obtain ⟨old, user, hfind, rfl, -, rfl, -⟩ := updateUserProfileTeamId_ok hup
    have hstored : ((w.db.withUsers (w.db.users.save { old with supportTeam := value })).users.find?
        userId).isSome := isSome_find?_saveUser hu
    have hnot := not_crashes_insertRankIfAbsent (k := ⟨userId, value, year⟩) hstored
    dsimp only
    cases hins : insertRankIfAbsent
        (w.db.withUsers (w.db.users.save { old with supportTeam := value })) ⟨userId, value, year⟩ with
    | error e => exact not_fails_error hnot hins
    | ok db2 =>
      obtain ⟨-, -, -, hrow, -⟩ := insertRankIfAbsent_ok hins
      obtain ⟨row, hrow⟩ := Option.isSome_iff_exists.1 hrow
      -- the row just found or inserted is in the aggregate
      have hmem : row ∈ rowsOf db2 userId :=
        mem_rowsOf.2 ⟨Table.mem_of_find? hrow, congrArg RankKey.user (Table.find?_key hrow)⟩
      have hrows : rowsOf db2 userId ≠ [] := List.ne_nil_of_mem hmem
      dsimp only
      rw [aggregate_eq, if_neg (by simpa using hrows)]
      dsimp only
      split
      · exact fails_ok ()
      · exact fails_ok ()

end

theorem not_crashes_deleteUser {w : World} {userId : Nat} (hu : (w.db.users.find? userId).isSome)
    (extractKeyFromUrl : String → Option String) :
    ¬ Crashes (w.deleteUser extractKeyFromUrl userId) :=
  not_fails_bind (not_fails_bind (not_crashes_loadUser hu) fun _ _ => fails_ok _)
    fun _ _ => fails_ok _

end VictoryFairy
