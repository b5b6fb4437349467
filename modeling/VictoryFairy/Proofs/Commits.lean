import VictoryFairy.Proofs.Credentials
import VictoryFairy.Proofs.Ledger

/-!
# What a request writes

A user who stays saves registrations or the profile, and with them rank rows.  Other
requests sign a user up, or delete one.

    commit_saves      : the requests of a user who stays
    commit_cases      : all requests
    nextAccount_cases : the requests on credentials apart
-/

namespace VictoryFairy

open Runs

/-- What a request of a user who stays leaves in the database. -/
inductive Saves (db : Db) : Db → Prop where
  | nothing : Saves db db
  | registrations (registeredGames : Table RegisteredGame.id) (ranks : Table Rank.key)
      (hrows : ∀ r ∈ registeredGames.rows,
        r ∈ db.registeredGames.rows ∨ db.Takes r) :
      Saves db { db with registeredGames, ranks }
  | profile {userId : Nat} {old : User} (user : User) (ranks : Table Rank.key)
      (hfind : db.users.find? userId = some old) (hid : user.id = old.id)
      (hemail : user.email = old.email) :
      Saves db { db with users := db.users.save user, ranks }

/-- The request signs no user up and deletes none. -/
def Op.Stays : Op → Prop
  | .register .. | .update .. | .delete .. | .updateUserProfile .. => True
  | _ => False

/-- What a request leaves in the database. -/
inductive Commit (db : Db) : Op → Db → Prop where
  | saved {op : Op} {db' : Db} (h : Saves db db') : Commit db op db'
  | localSignUp {dto : CreateLocalUserDto} {env : SignUpEnv} {year : Nat} {user : User}
      {k : RankKey} {db1 db' : Db}
      (hcreate : createLocalUser db dto (requiredTermIds db) env = .ok (db1, user))
      (hins : insertRankIfAbsent db1 k = .ok db') : Commit db (.registerLocalUser dto env year) db'
  | socialSignUp {sub email provider : String} {pick : Nat} {env : SignUpEnv} {year : Nat}
      {user : User} {k : RankKey} {db1 db' : Db}
      (hcreate : createSocialUser db email sub provider email true (requiredTermIds db) env =
        .ok (db1, user))
      (hins : insertRankIfAbsent db1 k = .ok db') :
      Commit db (.loginSocialUser sub email provider pick env year) db'
  | deleted {userId : Nat} : Commit db (.deleteUser userId) (db.removeUser userId)

section

variable {db db' : Db}

theorem Saves.row {row : RegisteredGame} {us : List RankUpdate}
    (htakes : db.Takes row)
    (hus : applyRankUpdates (db.withRegisteredGames (db.registeredGames.save row)) us = .ok db') :
    Saves db db' := by
  obtain ⟨rows, hw, -⟩ := applyRankUpdates_ok hus
  rw [hw.eq]
  refine .registrations _ _ fun r hr => ?_
  rcases Table.mem_save.1 hr with rfl | ⟨hr, -⟩
  · exact Or.inr htakes
  · exact Or.inl hr

theorem teamIdCommit_saves (db : Db) (userId value year pick : Nat) :
    Saves db (teamIdCommit db userId value year pick) := by
  unfold teamIdCommit
  cases hup : updateUserProfileTeamId db userId value with
  | error e => exact .nothing
  | ok p =>
    obtain ⟨db1, prevTeamId⟩ := p
    obtain ⟨old, user, hfind, rfl, -, rfl, -⟩ := updateUserProfileTeamId_ok hup
    dsimp only
    split
    · exact .profile _ db.ranks hfind rfl rfl
    · next db2 hins =>
      obtain ⟨rows, hw, -⟩ := insertRankIfAbsent_ok hins
      obtain rfl := hw.eq
      split
      · rcases deleteRank_eq _ prevTeamId userId pick with ⟨he, -⟩ | ⟨row, -, -, -, he⟩ <;> rw [he]
        · exact .profile _ _ hfind rfl rfl
        · exact .profile _ _ hfind rfl rfl
      · exact .profile _ _ hfind rfl rfl

theorem commit_saves (db : Db) {op : Op} (h : op.Stays) : Saves db (db.commit op) := by
  cases op with
  | registerLocalUser | loginSocialUser | deleteUser => cases h
  | register dto userId newId =>
    refine committed_of .nothing fun db' a hok => ?_
    obtain ⟨row, game, hnew, -, -, -, -, hus⟩ := register_ok hok
    exact .row hnew.takes hus
  | update id dto userId =>
    refine committed_of .nothing fun db' a hok => ?_
    obtain ⟨r, game, changed, -, -, -, -, htakes, -, -, -, hus⟩ := update_ok hok
    exact .row htakes hus
  | delete id userId =>
    refine committed_of .nothing fun db' a hok => ?_
    obtain ⟨r, game, -, -, -, -, -, hus⟩ := delete_ok hok
    obtain ⟨rows, hw, -⟩ := applyRankUpdates_ok hus
    rw [hw.eq]
    exact .registrations _ _ fun r hr => Or.inl (Table.mem_remove.1 hr).1
  | updateUserProfile userId input year pick =>
    cases input with
    | image value =>
      refine committed_of .nothing fun db' prev hok => ?_
      obtain ⟨old, user, hfind, rfl, rfl, -⟩ := updateUserProfileImage_ok hok
      exact .profile _ db.ranks hfind rfl rfl
    | nickname value =>
      show Saves db (nicknameCommit db userId value)
      unfold nicknameCommit
      cases hok : updateUserProfileNickname db userId value with
      | error e => exact .nothing
      | ok db' =>
        obtain ⟨old, user, hfind, rfl, rfl, -⟩ := updateUserProfileNickname_ok hok
        exact .profile _ db.ranks hfind rfl rfl
    | teamId value => exact teamIdCommit_saves db userId value year pick

/-- A user who stays is there before and after. -/
theorem Saves.sameCredentials (h : Saves db db') : SameCredentials db db' := by
  cases h with
  | nothing => exact .refl db
  | registrations registeredGames ranks hrows => exact ⟨fun _ => rfl, rfl, rfl⟩
  | profile user ranks hfind hid hemail =>
    exact ⟨(saveUser_credentials hfind hid).users, rfl, rfl⟩

theorem commit_cases (db : Db) (op : Op) : Commit db op (db.commit op) := by
  cases op with
  | registerLocalUser dto env year =>
    refine committed_of (.saved .nothing) fun db' user hok => ?_
    unfold registerLocalUser at hok
    obtain ⟨⟨db1, created⟩, hcreate, hok⟩ := bind_eq_ok.1 hok
    obtain ⟨db2, hins, hok⟩ := bind_eq_ok.1 hok
    cases hok
    exact .localSignUp hcreate hins
  | loginSocialUser sub email provider pick env year =>
    refine committed_of (.saved .nothing) fun db' p hok => ?_
    unfold loginSocialUser at hok
    obtain ⟨found, -, hok⟩ := bind_eq_ok.1 hok
    cases found with
    | some user => cases hok; exact .saved .nothing
    | none =>
      obtain ⟨⟨db1, created⟩, hcreate, hok⟩ := bind_eq_ok.1 hok
      obtain ⟨db2, hins, hok⟩ := bind_eq_ok.1 hok
      cases hok
      exact .socialSignUp hcreate hins
  | register | update | delete | updateUserProfile => exact .saved (commit_saves db trivial)
  | deleteUser userId =>
    refine committed_of (.saved .nothing) fun db' prev hok => ?_
    rw [deleteUserRow_ok hok]
    exact .deleted

end

/-! ## Changes of the credentials, and new games -/

theorem orKeep_of {P : Db → Prop} {db : Db} {body : Except AppError Db} (h : P db)
    (hok : ∀ db', body = .ok db' → P db') : P (db.orKeep body) := by
  unfold Db.orKeep
  cases body with
  | error e => exact h
  | ok db' => exact hok db' rfl

/-- The requests on credentials write passwords and social accounts, and nothing else. -/
theorem nextAccount_cases (extractKeyFromUrl : String → Option String) (w : World)
    (e : AccountEvent) :
    (∃ event, e = .event event) ∨ ∃ localAuths socialAuths,
      w.nextAccount extractKeyFromUrl e = { w with db := { w.db with localAuths, socialAuths } } := by
  have hkeep : ∀ body : Except AppError Db,
      (∀ db', body = .ok db' → ∃ localAuths socialAuths,
        db' = { w.db with localAuths, socialAuths }) →
      ∃ localAuths socialAuths,
        { w with db := w.db.orKeep body } = { w with db := { w.db with localAuths, socialAuths } } := by
    intro body hok
    obtain ⟨localAuths, socialAuths, hdb⟩ := orKeep_of (P := fun db => ∃ localAuths socialAuths,
      db = { w.db with localAuths, socialAuths }) ⟨w.db.localAuths, w.db.socialAuths, rfl⟩ hok
    exact ⟨localAuths, socialAuths, by rw [hdb]⟩
  cases e with
  | event event => exact Or.inl ⟨event, rfl⟩
  | linkSocial userId sub provider providerEmail =>
    refine Or.inr (hkeep _ fun db' h => ?_)
    obtain ⟨-, -, -, rfl⟩ := linkSocial_ok h
    exact ⟨_, _, rfl⟩
  | unlinkSocial userId provider pick =>
    refine Or.inr (hkeep _ fun db' h => ?_)
    unfold unlinkSocial at h
    obtain ⟨user, -, h⟩ := bind_eq_ok.1 h
    obtain ⟨target, -, h⟩ := bind_eq_ok.1 h
    cases h
    exact ⟨_, _, rfl⟩
  | changePassword email hashed =>
    refine Or.inr (hkeep _ fun db' h => ?_)
    obtain ⟨user, old, -, -, -, rfl⟩ := changePassword_writes h
    exact ⟨_, _, rfl⟩

/-- A game comes in only with its teams. -/
theorem insertGame_cases (db : Db) (game : GameRow) :
    db.insertGame game = db ∨
      ((db.teams.find? game.homeTeam).isSome ∧ (db.teams.find? game.awayTeam).isSome) ∧
        db.insertGame game = db.withGames (db.games.save game) := by
  unfold Db.insertGame
  split
  · exact Or.inl rfl
  · next hteams =>
    cases hins : db.games.insert? game with
    | none => exact Or.inl rfl
    | some games =>
      obtain ⟨-, rfl⟩ := Table.insert?_eq_some.1 hins
      simp only [Bool.or_eq_true, Option.isNone_iff_eq_none, not_or,
        ← Option.isSome_iff_ne_none] at hteams
      exact Or.inr ⟨hteams, rfl⟩

end VictoryFairy
