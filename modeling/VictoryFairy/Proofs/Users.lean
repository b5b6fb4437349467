import VictoryFairy.Proofs.RankRows

/-!
# The user rows

A request leaves the user rows as they are, saves one row or removes one.  A row is only
saved when it meets the constraints (`Storable`), so all rows always do (`UsersInv`).

    commit_users     : what a request does to the user rows
    next_usersInv    : every event keeps the constraints
-/

namespace VictoryFairy

open Runs

/-- Every user row meets the constraints. -/
def UsersInv (db : Db) : Prop := ∀ user ∈ db.users.rows, Storable db user

/-- What a request leaves of the user rows. -/
inductive UserChange (db : Db) : Table User.id → Prop where
  | same : UserChange db db.users
  | saved (user : User) (h : Storable db user) : UserChange db (db.users.save user)
  | removed (userId : Nat) : UserChange db (db.users.remove userId)

theorem Storable.congr {db db' : Db} {user : User} (h : Storable db user)
    (hu : db'.users = db.users) (ht : db'.teams = db.teams) : Storable db' user :=
  ⟨by rw [hu]; exact h.unique, by rw [ht]; exact h.team⟩

/-- The change of the user rows; the teams stay. -/
structure UserEffect (db db' : Db) : Prop where
  change : UserChange db db'.users
  teams : db'.teams = db.teams

theorem UserEffect.refl (db : Db) : UserEffect db db := ⟨.same, rfl⟩

theorem UserEffect.inv {db db' : Db} (h : UserEffect db db') (hinv : UsersInv db) :
    UsersInv db' := by
  obtain ⟨hchange, ht⟩ := h
  generalize hu : db'.users = users at hchange
  intro user hm
  rw [hu] at hm
  cases hchange with
  | same => exact (hinv user hm).congr hu ht
  | saved new hnew =>
    refine ⟨fun v hv hne => ?_, ?_⟩
    · rw [hu] at hv
      rcases Table.mem_save.1 hm with rfl | ⟨hmOld, hother⟩
      · rcases Table.mem_save.1 hv with rfl | ⟨hvOld, -⟩
        · exact absurd rfl hne
        · exact hnew.unique v hvOld hne
      · rcases Table.mem_save.1 hv with rfl | ⟨hvOld, -⟩
        · obtain ⟨hemail, hnickname⟩ := hnew.unique user hmOld hother
          exact ⟨hemail.symm, hnickname.symm⟩
        · exact (hinv user hmOld).unique v hvOld hne
    · rw [ht]
      rcases Table.mem_save.1 hm with rfl | ⟨hmOld, -⟩
      · exact hnew.team
      · exact (hinv user hmOld).team
  | removed userId =>
    obtain ⟨hm, -⟩ := Table.mem_remove.1 hm
    refine ⟨fun v hv hne => ?_, ht ▸ (hinv user hm).team⟩
    rw [hu] at hv
    exact (hinv user hm).unique v (Table.mem_remove.1 hv).1 hne

/-! ## One request -/

theorem RankWrites.users {db db' : Db} {rows : List Rank} (h : RankWrites db db' rows) :
    db'.users = db.users := by
  rw [h.eq]
  rfl

theorem RankWrites.teams {db db' : Db} {rows : List Rank} (h : RankWrites db db' rows) :
    db'.teams = db.teams := by
  rw [h.eq]
  rfl

theorem RankWrites.userEffect {db db1 db' : Db} {rows : List Rank} (h : RankWrites db1 db' rows)
    (hu : db1.users = db.users) (ht : db1.teams = db.teams) : UserEffect db db' :=
  ⟨h.users.trans hu ▸ .same, h.teams.trans ht⟩

theorem signUp_userEffect {db db1 db' : Db} {user : User} {k : RankKey}
    (hs : SignedUp db db1 user) (h : insertRankIfAbsent db1 k = .ok db') : UserEffect db db' := by
  obtain ⟨rows, hw, -⟩ := insertRankIfAbsent_ok h
  exact ⟨hw.users.trans hs.users ▸ .saved user hs.storable, hw.teams.trans hs.teams⟩

theorem deleteRank_users (db : Db) (teamId userId pick : Nat) :
    (deleteRank db teamId userId none pick).users = db.users ∧
      (deleteRank db teamId userId none pick).teams = db.teams := by
  rcases deleteRank_eq db teamId userId pick with ⟨e, -⟩ | ⟨row, -, -, -, e⟩ <;> rw [e] <;>
    exact ⟨rfl, rfl⟩

/-- After the user was saved, a change of team touches rank rows only. -/
theorem teamIdCommit_users {db db1 : Db} {userId value prevTeamId : Nat} (year pick : Nat)
    (h : updateUserProfileTeamId db userId value = .ok (db1, prevTeamId)) :
    (teamIdCommit db userId value year pick).users = db1.users ∧
      (teamIdCommit db userId value year pick).teams = db1.teams := by
  unfold teamIdCommit
  rw [h]
  dsimp only
  cases hins : insertRankIfAbsent db1 ⟨userId, value, year⟩ with
  | error e => exact ⟨rfl, rfl⟩
  | ok db2 =>
    obtain ⟨rows, hw, -⟩ := insertRankIfAbsent_ok hins
    dsimp only
    split
    · obtain ⟨hu, ht⟩ := deleteRank_users db2 prevTeamId userId pick
      exact ⟨hu.trans hw.users, ht.trans hw.teams⟩
    · exact ⟨hw.users, hw.teams⟩

/-- A request saves at most one user row, one that meets the constraints. -/
theorem commit_users (db : Db) (op : Op) : UserEffect db (db.commit op) := by
  cases op with
  | registerLocalUser dto env year =>
    refine committed_of (.refl db) fun db' user hok => ?_
    obtain ⟨db1, k, hs, hins, -⟩ := registerLocalUser_ok hok
    exact signUp_userEffect hs hins
  | loginSocialUser sub email provider pick env year =>
    refine committed_of (.refl db) fun db' p hok => ?_
    rcases loginSocialUser_ok hok with ⟨-, rfl⟩ | ⟨-, db1, k, hs, hins, -⟩
    · exact .refl _
    · exact signUp_userEffect hs hins
  | register dto userId newId =>
    refine committed_of (.refl db) fun db' a hok => ?_
    obtain ⟨db1, rows, -, hu, ht, hw, -⟩ := register_writes hok
    exact hw.userEffect hu ht
  | update id dto userId =>
    refine committed_of (.refl db) fun db' a hok => ?_
    obtain ⟨db1, rows, -, hu, ht, hw, -⟩ := update_writes hok
    exact hw.userEffect hu ht
  | delete id userId =>
    refine committed_of (.refl db) fun db' a hok => ?_
    obtain ⟨db1, rows, -, hu, ht, hw, -⟩ := delete_writes hok
    exact hw.userEffect hu ht
  | updateUserProfile userId input year pick =>
    cases input with
    | image value =>
      refine committed_of (.refl db) fun db' prev hok => ?_
      obtain ⟨-, user, -, -, rfl, hst⟩ := updateUserProfileImage_ok hok
      exact ⟨.saved user hst, rfl⟩
    | nickname value =>
      show UserEffect db (nicknameCommit db userId value)
      unfold nicknameCommit
      cases hok : updateUserProfileNickname db userId value with
      | error e => exact .refl db
      | ok db' =>
        obtain ⟨-, user, -, -, rfl, hst⟩ := updateUserProfileNickname_ok hok
        exact ⟨.saved user hst, rfl⟩
    | teamId value =>
      show UserEffect db (teamIdCommit db userId value year pick)
      cases hup : updateUserProfileTeamId db userId value with
      | error e =>
        unfold teamIdCommit
        rw [hup]
        exact .refl db
      | ok p =>
        obtain ⟨hu, ht⟩ := teamIdCommit_users year pick hup
        obtain ⟨-, user, -, -, -, hdb, hst⟩ := updateUserProfileTeamId_ok hup
        rw [hdb] at hu ht
        exact ⟨hu ▸ .saved user hst, ht⟩
  | deleteUser userId =>
    refine committed_of (.refl db) fun db' prev hok => ?_
    rw [deleteUserRow_ok hok]
    exact ⟨.removed userId, rfl⟩

theorem next_usersInv (extractKeyFromUrl : String → Option String) (w : World) (e : Event)
    (h : UsersInv w.db) : UsersInv (w.next extractKeyFromUrl e).db := by
  cases e with
  | request op =>
    show UsersInv (w.step extractKeyFromUrl op).db
    rw [World.step_db]
    exact (commit_users w.db op).inv h
  | outcomes f => exact fun user hm => (h user hm).congr rfl rfl
  | newGame game =>
    obtain ⟨-, hu, ht⟩ := insertGame_keeps w.db game
    intro user hm
    rw [show (w.next extractKeyFromUrl (.newGame game)).db.users = w.db.users from hu] at hm
    exact (h user hm).congr hu ht

end VictoryFairy
