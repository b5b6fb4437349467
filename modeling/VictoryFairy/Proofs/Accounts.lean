import VictoryFairy.Proofs.Requests

/-!
# What the account requests do to the database

A sign-up saves one new user and inserts its first rank row; a change of team
saves the user, inserts a rank row when there is none and may remove one; a
deletion cascades.  `Db.commit` is what a request does to the database alone.

    World.step_db : the database after a step of the three stores is Db.commit
-/

namespace VictoryFairy

open Runs

/-! ## Sign-up -/

/-- The constraints on a user row: no other user has its email or nickname, and its team
exists. -/
structure Storable (db : Db) (user : User) : Prop where
  unique : ∀ u ∈ db.users.rows, u.id ≠ user.id → u.email ≠ user.email ∧ u.nickname ≠ user.nickname
  team : (db.teams.find? user.supportTeam).isSome

/-- `db1` is `db` with a new user and its child rows. -/
structure SignedUp (db db1 : Db) (user : User) : Prop where
  users : db1.users = db.users.save user
  fresh : db.users.find? user.id = none
  storable : Storable db user
  teams : db1.teams = db.teams
  games : db1.games = db.games
  registeredGames : db1.registeredGames = db.registeredGames
  ranks : db1.ranks = db.ranks

theorem insertUser_ok {db db' : Db} {user : User} (h : db.insertUser user = .ok db') :
    SignedUp db db' user := by
  unfold Db.insertUser at h
  split at h
  · cases h
  · next hfresh =>
    split at h
    · cases h
    · next hteam =>
      cases h
      simp only [List.any_eq_true, not_exists, not_and, Bool.or_eq_true, decide_eq_true_eq,
        not_or] at hfresh
      refine ⟨rfl, Table.find?_eq_none.2 fun u hu => (hfresh u hu).1.1,
        ⟨fun u hu _ => ⟨(hfresh u hu).1.2, (hfresh u hu).2⟩, ?_⟩, rfl, rfl, rfl, rfl⟩
      simpa [Option.isSome_iff_ne_none] using hteam

theorem SignedUp.congr {db db1 db2 : Db} {user : User} (hs : SignedUp db db1 user)
    (hu : db2.users = db1.users) (ht : db2.teams = db1.teams) (hg : db2.games = db1.games)
    (hr : db2.registeredGames = db1.registeredGames) (hk : db2.ranks = db1.ranks) :
    SignedUp db db2 user :=
  ⟨hu.trans hs.users, hs.fresh, hs.storable, ht.trans hs.teams, hg.trans hs.games,
    hr.trans hs.registeredGames, hk.trans hs.ranks⟩

theorem SignedUp.insertLocalAuth {db db1 db2 : Db} {user : User} {auth : LocalAuth}
    (hs : SignedUp db db1 user) (h : db1.insertLocalAuth auth = .ok db2) : SignedUp db db2 user := by
  unfold Db.insertLocalAuth at h
  split at h
  · cases h
  · cases h; exact hs.congr rfl rfl rfl rfl rfl

theorem SignedUp.insertSocialAuth {db db1 db2 : Db} {user : User} {auth : SocialAuth}
    (hs : SignedUp db db1 user) (h : db1.insertSocialAuth auth = .ok db2) :
    SignedUp db db2 user := by
  unfold Db.insertSocialAuth at h
  split at h
  · cases h
  · cases h; exact hs.congr rfl rfl rfl rfl rfl

theorem SignedUp.insertUserTerms {db db1 db2 : Db} {user : User} {terms : List UserTerm}
    (hs : SignedUp db db1 user) (h : insertUserTerms db1 terms = .ok db2) :
    SignedUp db db2 user := by
  refine foldlM_of_step (I := fun d => SignedUp db d user) (fun d term d' h hs => ?_) h hs
  unfold Db.insertUserTerm at h
  split at h
  · cases h
  · split at h
    · cases h
    · cases h; exact hs.congr rfl rfl rfl rfl rfl

/-- The inserts of a sign-up, in their order. -/
theorem createLocalUser_steps {db db' : Db} {dto : CreateLocalUserDto} {termIds : List String}
    {env : SignUpEnv} {user : User} (h : createLocalUser db dto termIds env = .ok (db', user)) :
    ∃ nickname terms db1 db2,
      user = User.build env.newId dto.email dto.image nickname dto.teamId ∧
      db.insertUser user = .ok db1 ∧
      db1.insertLocalAuth { userId := user.id, password := env.hashed } = .ok db2 ∧
      insertUserTerms db2 terms = .ok db' := by
  unfold createLocalUser at h
  obtain ⟨nickname, -, h⟩ := bind_eq_ok.1 h
  obtain ⟨terms, -, h⟩ := bind_eq_ok.1 h
  obtain ⟨db1, h1, h⟩ := bind_eq_ok.1 h
  obtain ⟨db2, h2, h⟩ := bind_eq_ok.1 h
  obtain ⟨db3, h3, h⟩ := bind_eq_ok.1 h
  cases h
  exact ⟨nickname, terms, db1, db2, rfl, h1, h2, h3⟩

theorem createSocialUser_steps {db db' : Db} {email sub provider providerEmail : String}
    {isPrimary : Bool} {termIds : List String} {env : SignUpEnv} {user : User}
    (h : createSocialUser db email sub provider providerEmail isPrimary termIds env =
      .ok (db', user)) :
    ∃ nickname auth terms db1 db2, user = User.build env.newId email "" nickname 1 ∧
      SocialAuth.create user.id provider sub providerEmail isPrimary = .ok auth ∧
      db.insertUser user = .ok db1 ∧ db1.insertSocialAuth auth = .ok db2 ∧
      insertUserTerms db2 terms = .ok db' := by
  unfold createSocialUser at h
  obtain ⟨nickname, -, h⟩ := bind_eq_ok.1 h
  obtain ⟨auth, hauth, h⟩ := bind_eq_ok.1 h
  obtain ⟨terms, -, h⟩ := bind_eq_ok.1 h
  obtain ⟨db1, h1, h⟩ := bind_eq_ok.1 h
  obtain ⟨db2, h2, h⟩ := bind_eq_ok.1 h
  obtain ⟨db3, h3, h⟩ := bind_eq_ok.1 h
  cases h
  exact ⟨nickname, auth, terms, db1, db2, rfl, hauth, h1, h2, h3⟩

theorem createLocalUser_ok {db db' : Db} {dto : CreateLocalUserDto} {termIds : List String}
    {env : SignUpEnv} {user : User} (h : createLocalUser db dto termIds env = .ok (db', user)) :
    SignedUp db db' user ∧ user.supportTeam = if dto.teamId = 0 then 1 else dto.teamId := by
  obtain ⟨nickname, terms, db1, db2, rfl, h1, h2, h3⟩ := createLocalUser_steps h
  exact ⟨((insertUser_ok h1).insertLocalAuth h2).insertUserTerms h3, rfl⟩

theorem createSocialUser_ok {db db' : Db} {email sub provider providerEmail : String}
    {isPrimary : Bool} {termIds : List String} {env : SignUpEnv} {user : User}
    (h : createSocialUser db email sub provider providerEmail isPrimary termIds env =
      .ok (db', user)) : SignedUp db db' user := by
  obtain ⟨nickname, auth, terms, db1, db2, rfl, -, h1, h2, h3⟩ := createSocialUser_steps h
  exact ((insertUser_ok h1).insertSocialAuth h2).insertUserTerms h3

/-- A rank row with an id of a team is inserted for the user's own team. -/
theorem registerLocalUser_ok {db db' : Db} {dto : CreateLocalUserDto} {env : SignUpEnv} {year : Nat}
    {user : User} (h : registerLocalUser db dto env year = .ok (db', user)) :
    ∃ db1 k, SignedUp db db1 user ∧ insertRankIfAbsent db1 k = .ok db' ∧ k.user = user.id ∧
      (1 ≤ k.teamId → k.teamId = user.supportTeam) := by
  unfold registerLocalUser at h
  obtain ⟨⟨db1, user1⟩, h1, h⟩ := bind_eq_ok.1 h
  obtain ⟨db2, h2, h⟩ := bind_eq_ok.1 h
  cases h
  obtain ⟨hs, hteam⟩ := createLocalUser_ok h1
  refine ⟨db1, _, hs, h2, rfl, fun hge => ?_⟩
  have hne : dto.teamId ≠ 0 := by have : 1 ≤ dto.teamId := hge; omega
  rw [hteam, if_neg hne]

/-- Logging in to an existing account changes nothing. -/
theorem loginSocialUser_ok {db db' : Db} {sub email provider : String} {pick : Nat}
    {env : SignUpEnv} {year : Nat} {user : User} {isNewUser : Bool}
    (h : loginSocialUser db sub email provider pick env year = .ok (db', user, isNewUser)) :
    (isNewUser = false ∧ db' = db) ∨
    (isNewUser = true ∧ ∃ db1 k, SignedUp db db1 user ∧ insertRankIfAbsent db1 k = .ok db' ∧
      k.user = user.id ∧ k.teamId = user.supportTeam) := by
  unfold loginSocialUser at h
  obtain ⟨found, -, h⟩ := bind_eq_ok.1 h
  cases found with
  | some u => cases h; exact Or.inl ⟨rfl, rfl⟩
  | none =>
    obtain ⟨⟨db1, user1⟩, h1, h⟩ := bind_eq_ok.1 h
    obtain ⟨db2, h2, h⟩ := bind_eq_ok.1 h
    cases h
    exact Or.inr ⟨rfl, db1, _, createSocialUser_ok h1, h2, rfl, rfl⟩

/-! ## Profile and deletion -/

theorem loadUser_ok {db : Db} {userId : Nat} {user : User} (h : loadUser db userId = .ok user) :
    db.users.find? userId = some user := by
  unfold loadUser at h
  split at h
  · cases h
  · next hu => cases h; exact hu

theorem saveUser_ok {db db' : Db} {user : User} (h : db.saveUser user = .ok db') :
    db' = db.withUsers (db.users.save user) ∧ Storable db user := by
  unfold Db.saveUser at h
  split at h
  · cases h
  · next hfree =>
    split at h
    · cases h
    · next hteam =>
      cases h
      simp only [List.any_eq_true, not_exists, not_and, Bool.and_eq_true, Bool.or_eq_true,
        decide_eq_true_eq, not_or] at hfree
      exact ⟨rfl, hfree, by simpa [Option.isSome_iff_ne_none] using hteam⟩

theorem User.updateProfileImage_ok {u changed : User} {imageUrl : String}
    (h : u.updateProfileImage imageUrl = .ok changed) : changed = { u with profileImage := imageUrl } := by
  unfold User.updateProfileImage at h
  split at h
  · cases h
  · exact (Except.ok.inj h).symm

theorem User.updateNickname_ok {u changed : User} {nickname : String}
    (h : u.updateNickname nickname = .ok changed) : changed = { u with nickname } := by
  unfold User.updateNickname at h
  split at h
  · cases h
  · exact (Except.ok.inj h).symm

theorem User.updateTeam_ok {u changed : User} {teamId : Nat} (h : u.updateTeam teamId = .ok changed) :
    changed = { u with supportTeam := teamId } ∧ 1 ≤ teamId ∧ teamId ≤ 10 := by
  unfold User.updateTeam at h
  split at h
  · cases h
  · exact ⟨(Except.ok.inj h).symm, by omega, by omega⟩

/-- Every profile branch saves the user it loaded, with one column changed. -/
theorem updateUserProfileImage_ok {db db' : Db} {userId : Nat} {imageUrl : String}
    {prev : Option String} (h : updateUserProfileImage db userId imageUrl = .ok (db', prev)) :
    ∃ old user, db.users.find? userId = some old ∧ user = { old with profileImage := imageUrl } ∧
      db' = db.withUsers (db.users.save user) ∧ Storable db user := by
  unfold updateUserProfileImage at h
  obtain ⟨old, hload, h⟩ := bind_eq_ok.1 h
  obtain ⟨changed, hchanged, h⟩ := bind_eq_ok.1 h
  obtain ⟨db1, hsave, h⟩ := bind_eq_ok.1 h
  cases h
  exact ⟨old, changed, loadUser_ok hload, User.updateProfileImage_ok hchanged, saveUser_ok hsave⟩

theorem updateUserProfileNickname_ok {db db' : Db} {userId : Nat} {nickname : String}
    (h : updateUserProfileNickname db userId nickname = .ok db') :
    ∃ old user, db.users.find? userId = some old ∧ user = { old with nickname } ∧
      db' = db.withUsers (db.users.save user) ∧ Storable db user := by
  unfold updateUserProfileNickname at h
  split at h
  · cases h
  · obtain ⟨old, hload, h⟩ := bind_eq_ok.1 h
    obtain ⟨changed, hchanged, h⟩ := bind_eq_ok.1 h
    exact ⟨old, changed, loadUser_ok hload, User.updateNickname_ok hchanged, saveUser_ok h⟩

theorem updateUserProfileTeamId_ok {db db' : Db} {userId teamId prevTeamId : Nat}
    (h : updateUserProfileTeamId db userId teamId = .ok (db', prevTeamId)) :
    ∃ old user, db.users.find? userId = some old ∧ user = { old with supportTeam := teamId } ∧
      prevTeamId = old.supportTeam ∧ db' = db.withUsers (db.users.save user) ∧ Storable db user := by
  unfold updateUserProfileTeamId at h
  obtain ⟨old, hload, h⟩ := bind_eq_ok.1 h
  obtain ⟨changed, hchanged, h⟩ := bind_eq_ok.1 h
  obtain ⟨db1, hsave, h⟩ := bind_eq_ok.1 h
  cases h
  exact ⟨old, changed, loadUser_ok hload, (User.updateTeam_ok hchanged).1, rfl, saveUser_ok hsave⟩

/-- `deleteRank` removes at most one row, and only one of the user and team. -/
theorem deleteRank_eq (db : Db) (teamId userId pick : Nat) :
    (deleteRank db teamId userId none pick = db ∧
      ∀ row ∈ db.ranks.rows, ¬ (row.user = userId ∧ row.teamId = teamId)) ∨
    ∃ row ∈ db.ranks.rows, row.user = userId ∧ row.teamId = teamId ∧
      deleteRank db teamId userId none pick = db.withRanks (db.ranks.remove row.key) := by
  unfold deleteRank
  split
  · next hnone =>
    refine Or.inl ⟨rfl, fun row hrow hc => ?_⟩
    have := Table.findAny_eq_none.1 hnone row hrow
    simp [hc, orNull] at this
  · next row hsome =>
    obtain ⟨hrow, hp⟩ := Table.findAny_eq_some hsome
    simp only [Bool.and_eq_true, decide_eq_true_eq] at hp
    exact Or.inr ⟨row, hrow, hp.1.1, hp.1.2, rfl⟩

theorem deleteUserRow_ok {db db' : Db} {userId : Nat} {prev : Option String}
    (h : deleteUserRow db userId = .ok (db', prev)) : db' = db.removeUser userId := by
  unfold deleteUserRow at h
  obtain ⟨user, -, h⟩ := bind_eq_ok.1 h
  cases h
  rfl

/-! ## The database's part of a request -/

/-- What a transaction leaves: the database it commits, or the one it found. -/
def committed {α : Type} (db : Db) (body : Except AppError (Db × α)) : Db :=
  match body with
  | .error _ => db
  | .ok (db, _) => db

theorem committed_ok {α : Type} {db db' : Db} {body : Except AppError (Db × α)} {a : α}
    (h : body = .ok (db', a)) : committed db body = db' := by
  rw [h]
  rfl

theorem committed_error {α : Type} {db : Db} {body : Except AppError (Db × α)} {e : AppError}
    (h : body = .error e) : committed db body = db := by
  rw [h]
  rfl

def nicknameCommit (db : Db) (userId : Nat) (value : String) : Db :=
  match updateUserProfileNickname db userId value with
  | .error _ => db
  | .ok db => db

/-- The database's part of the `teamId` branch. -/
def teamIdCommit (db : Db) (userId value year pick : Nat) : Db :=
  match updateUserProfileTeamId db userId value with
  | .error _ => db
  | .ok (db, prevTeamId) =>
    match insertRankIfAbsent db ⟨userId, value, year⟩ with
    | .error _ => db
    | .ok db =>
      if (aggregateRankStatsByUserId db userId).any fun data =>
          World.isEmptied data prevTeamId value
      then deleteRank db prevTeamId userId none pick else db

def Db.commit (db : Db) : Op → Db
  | .registerLocalUser dto env year => committed db (registerLocalUser db dto env year)
  | .loginSocialUser sub providerEmail provider pick env year =>
    committed db (loginSocialUser db sub providerEmail provider pick env year)
  | .register dto userId newId => committed db (register db dto userId newId)
  | .update id dto userId => committed db (update db id dto userId)
  | .delete id userId => committed db (delete db id userId)
  | .updateUserProfile userId (.image value) _ _ =>
    committed db (updateUserProfileImage db userId value)
  | .updateUserProfile userId (.nickname value) _ _ => nicknameCommit db userId value
  | .updateUserProfile userId (.teamId value) year pick => teamIdCommit db userId value year pick
  | .deleteUser userId => committed db (deleteUserRow db userId)

namespace World

theorem transactional_db {α : Type} (w : World) (body : Except AppError (Db × α))
    (onCommit : World → α → World) (h : ∀ w a, (onCommit w a).db = w.db) :
    (transactional w body onCommit).db = committed w.db body := by
  unfold transactional committed
  split
  · rfl
  · rw [h]

section S3

variable (extractKeyFromUrl : String → Option String)

@[simp] theorem deleteImage_db (w : World) (fileUrl : Option String) :
    (w.deleteImage extractKeyFromUrl fileUrl).db = w.db := by
  unfold deleteImage
  split
  · rfl
  · split <;> rfl

@[simp] theorem deleteImage_redis (w : World) (fileUrl : Option String) :
    (w.deleteImage extractKeyFromUrl fileUrl).redis = w.redis := by
  unfold deleteImage
  split
  · rfl
  · split <;> rfl

theorem updateHook_db (w : World) (result : UpdateRegisteredGameResult) (userId : Nat) :
    (w.updateHook extractKeyFromUrl result userId).db = w.db := by
  unfold updateHook refreshRankings
  split
  · dsimp only
    split <;> simp
  · rfl

theorem deleteHook_db (w : World) (result : DeleteRegisteredGameResult) (userId : Nat) :
    (w.deleteHook extractKeyFromUrl result userId).db = w.db := by
  unfold deleteHook refreshRankings
  dsimp only
  split <;> split <;> simp

theorem updateImage_db (w : World) (userId : Nat) (value : String) :
    (w.updateImage extractKeyFromUrl userId value).1.db =
      committed w.db (updateUserProfileImage w.db userId value) := by
  unfold updateImage committed
  cases updateUserProfileImage w.db userId value with
  | error e => rfl
  | ok p =>
    dsimp only
    split <;> split <;> simp

theorem step_deleteUser_error {w : World} {userId : Nat} {e : AppError}
    (h : deleteUserRow w.db userId = .error e) :
    w.step extractKeyFromUrl (.deleteUser userId) = w := by
  unfold step
  dsimp only
  unfold World.deleteUser
  rw [h]
  rfl

/-- A deletion removes the rows, the profile, the members and the stored profile image. -/
theorem step_deleteUser_ok {w : World} {userId : Nat} {db' : Db} {prev : Option String}
    (h : deleteUserRow w.db userId = .ok (db', prev)) :
    w.step extractKeyFromUrl (.deleteUser userId) =
      { db := w.db.removeUser userId,
        redis := (w.redis.deleteUser userId).deleteRankByUserId userId
          ((findAllTeams w.db).map Team.id),
        deletedImages := (if (prev.getD "") ≠ "" then w.deleteImage extractKeyFromUrl prev
          else w).deletedImages } := by
  unfold step
  dsimp only
  unfold World.deleteUser
  rw [h, deleteUserRow_ok h]
  dsimp only [bind, Except.bind, pure, Except.pure]
  split
  · rw [deleteImage_redis]
  · rfl

/-- **The database after a request.**  The hook, Redis and S3 do not touch it. -/
theorem step_db (w : World) (op : Op) : (w.step extractKeyFromUrl op).db = w.db.commit op := by
  cases op with
  | registerLocalUser dto env year => exact transactional_db w _ _ fun w a => rfl
  | loginSocialUser sub email provider pick env year =>
    refine transactional_db w _ _ fun w a => ?_
    obtain ⟨user, isNewUser⟩ := a
    cases isNewUser <;> rfl
  | register dto userId newId => exact transactional_db w _ _ fun w a => rfl
  | update id dto userId =>
    exact transactional_db w _ _ fun w result => updateHook_db extractKeyFromUrl w result userId
  | delete id userId =>
    exact transactional_db w _ _ fun w result => deleteHook_db extractKeyFromUrl w result userId
  | updateUserProfile userId input year pick =>
    cases input with
    | image value => exact updateImage_db extractKeyFromUrl w userId value
    | nickname value =>
      show (w.updateNickname userId value).1.db = nicknameCommit w.db userId value
      unfold updateNickname nicknameCommit
      cases updateUserProfileNickname w.db userId value with
      | error e => rfl
      | ok db => dsimp only; split <;> rfl
    | teamId value =>
      show (w.updateTeamId userId value year pick).1.db = teamIdCommit w.db userId value year pick
      unfold updateTeamId teamIdCommit
      cases updateUserProfileTeamId w.db userId value with
      | error e => rfl
      | ok p =>
        dsimp only
        cases insertRankIfAbsent p.1 ⟨userId, value, year⟩ with
        | error e => rfl
        | ok db =>
          dsimp only
          cases aggregateRankStatsByUserId db userId with
          | none => rfl
          | some data => dsimp only [Option.any]; split <;> rfl
  | deleteUser userId =>
    show _ = committed w.db (deleteUserRow w.db userId)
    cases hrow : deleteUserRow w.db userId with
    | error e => rw [step_deleteUser_error extractKeyFromUrl hrow]; rfl
    | ok p =>
      rw [step_deleteUser_ok extractKeyFromUrl hrow]
      exact (deleteUserRow_ok hrow).symm

end S3

end World

end VictoryFairy
