import VictoryFairy.Model.Credentials
import VictoryFairy.Proofs.Users

/-!
# Every user keeps one way in

A user signs up with a password or with a primary social account.  Links are never primary
and an unlink never takes the primary row, in whatever order the rows are loaded, so what a
user has signed up with stays until the account is deleted.

    CredentialChange         : all that an event does to the credentials
    CredentialChange.inv     : each of these keeps the invariant
    nextAccount_credentials  : every event is one of them
-/

namespace VictoryFairy

open Runs

namespace Db

def hasLocal (db : Db) (u : Nat) : Bool := (db.localAuths.find? u).isSome

/-- One for a primary row of the user. -/
def primaryOf (u : Nat) (a : SocialAuth) : Nat := if a.userId = u ∧ a.isPrimary then 1 else 0

/-- The number of the user's primary rows. -/
def primaryCount (db : Db) (u : Nat) : Nat := db.socialAuths.total (primaryOf u)

end Db

/-- A password and no primary row, or one primary row and no password. -/
def OneWayIn (db : Db) (u : Nat) : Prop :=
  (db.hasLocal u = true ∧ db.primaryCount u = 0) ∨ (db.hasLocal u = false ∧ db.primaryCount u = 1)

theorem OneWayIn.congr {db db' : Db} {u : Nat} (h : OneWayIn db u)
    (hlocal : db'.hasLocal u = db.hasLocal u) (hcount : db'.primaryCount u = db.primaryCount u) :
    OneWayIn db' u := by
  unfold OneWayIn
  rw [hlocal, hcount]
  exact h

structure CredentialInv (db : Db) : Prop where
  localUser : ∀ a ∈ db.localAuths.rows, (db.users.find? a.userId).isSome
  socialUser : ∀ a ∈ db.socialAuths.rows, (db.users.find? a.userId).isSome
  login : ∀ u, (db.users.find? u).isSome → OneWayIn db u

/-! ## What an event does to the credentials -/

/-- The credentials and the ids of the users stay. -/
structure SameCredentials (db db' : Db) : Prop where
  users : ∀ u, (db'.users.find? u).isSome = (db.users.find? u).isSome
  localAuths : db'.localAuths = db.localAuths
  socialAuths : db'.socialAuths = db.socialAuths

theorem SameCredentials.refl (db : Db) : SameCredentials db db := ⟨fun _ => rfl, rfl, rfl⟩

theorem SameCredentials.trans {db db1 db2 : Db} (h : SameCredentials db db1)
    (h' : SameCredentials db1 db2) : SameCredentials db db2 :=
  ⟨fun u => (h'.users u).trans (h.users u), h'.localAuths.trans h.localAuths,
    h'.socialAuths.trans h.socialAuths⟩

/-- `db'` has one user more. -/
structure NewUser (db db' : Db) (userId : Nat) : Prop where
  fresh : db.users.find? userId = none
  users : ∀ u, (db'.users.find? u).isSome = (decide (userId = u) || (db.users.find? u).isSome)

inductive CredentialChange (db db' : Db) : Prop where
  | same (h : SameCredentials db db')
  | localSignUp (auth : LocalAuth) (hnew : NewUser db db' auth.userId)
      (hl : db'.localAuths = db.localAuths.save auth) (hs : db'.socialAuths = db.socialAuths)
  | socialSignUp (auth : SocialAuth) (hprimary : auth.isPrimary = true)
      (hnew : NewUser db db' auth.userId) (hfresh : db.socialAuths.find? auth.key = none)
      (hl : db'.localAuths = db.localAuths) (hs : db'.socialAuths = db.socialAuths.save auth)
  | removed (userId : Nat) (h : db' = db.removeUser userId)
  | linked (auth : SocialAuth) (hprimary : auth.isPrimary = false)
      (huser : (db.users.find? auth.userId).isSome) (hfresh : db.socialAuths.find? auth.key = none)
      (h : db' = { db with socialAuths := db.socialAuths.save auth })
  | unlinked (auth : SocialAuth) (hprimary : auth.isPrimary = false)
      (hmem : auth ∈ db.socialAuths.rows)
      (h : db' = { db with socialAuths := db.socialAuths.remove auth.key })
  | password (auth old : LocalAuth) (hold : db.localAuths.find? auth.userId = some old)
      (h : db' = { db with localAuths := db.localAuths.save auth })

theorem hasLocal_save {db db' : Db} {auth : LocalAuth}
    (h : db'.localAuths = db.localAuths.save auth) (u : Nat) :
    db'.hasLocal u = (decide (auth.userId = u) || db.hasLocal u) := by
  unfold Db.hasLocal
  rw [h, Table.find?_save]
  by_cases he : auth.userId = u <;> simp [he]

theorem primaryCount_save {db : Db} {auth : SocialAuth}
    (hfresh : db.socialAuths.find? auth.key = none) (u : Nat) :
    (db.socialAuths.save auth).total (Db.primaryOf u) = db.primaryCount u + Db.primaryOf u auth := by
  have hsum := Table.total_save (Db.primaryOf u) db.socialAuths auth
  rw [hfresh] at hsum
  exact hsum

/-- A user whose rows are nobody's has none. -/
theorem CredentialInv.primaryCount_fresh {db : Db} (h : CredentialInv db) {u : Nat}
    (hfresh : db.users.find? u = none) : db.primaryCount u = 0 := by
  refine Table.total_eq_zero.2 fun a ha => if_neg fun hc => ?_
  have hsome := h.socialUser a ha
  rw [hc.1, hfresh] at hsome
  cases hsome

theorem CredentialInv.hasLocal_fresh {db : Db} (h : CredentialInv db) {u : Nat}
    (hfresh : db.users.find? u = none) : db.hasLocal u = false := by
  unfold Db.hasLocal
  cases hf : db.localAuths.find? u with
  | none => rfl
  | some a =>
    have hsome := h.localUser a (Table.mem_of_find? hf)
    rw [Table.find?_key hf, hfresh] at hsome
    cases hsome

/-! Each change keeps the invariant. -/

section

variable {db db' : Db} (h : CredentialInv db)

include h

theorem CredentialInv.same (hsame : SameCredentials db db') : CredentialInv db' := by
  refine ⟨fun a ha => ?_, fun a ha => ?_, fun u hu => ?_⟩
  · rw [hsame.users]
    exact h.localUser a (hsame.localAuths ▸ ha)
  · rw [hsame.users]
    exact h.socialUser a (hsame.socialAuths ▸ ha)
  · refine (h.login u (hsame.users u ▸ hu)).congr ?_ ?_
    · unfold Db.hasLocal
      rw [hsame.localAuths]
    · unfold Db.primaryCount
      rw [hsame.socialAuths]

theorem CredentialInv.localSignUp {auth : LocalAuth} (hnew : NewUser db db' auth.userId)
    (hl : db'.localAuths = db.localAuths.save auth) (hs : db'.socialAuths = db.socialAuths) :
    CredentialInv db' := by
  refine ⟨fun a ha => ?_, fun a ha => ?_, fun u hu => ?_⟩
  · rw [hnew.users, Bool.or_eq_true, decide_eq_true_eq]
    rw [hl] at ha
    rcases Table.mem_save.1 ha with rfl | ⟨ha, -⟩
    · exact Or.inl rfl
    · exact Or.inr (h.localUser a ha)
  · rw [hnew.users, Bool.or_eq_true]
    exact Or.inr (h.socialUser a (hs ▸ ha))
  · have hcount : db'.primaryCount u = db.primaryCount u := by
      unfold Db.primaryCount
      rw [hs]
    have hlocal := hasLocal_save hl u
    rw [hnew.users] at hu
    by_cases he : auth.userId = u
    · subst he
      rw [decide_eq_true rfl, Bool.true_or] at hlocal
      exact Or.inl ⟨hlocal, hcount.trans (h.primaryCount_fresh hnew.fresh)⟩
    · rw [decide_eq_false he, Bool.false_or] at hlocal hu
      exact (h.login u hu).congr hlocal hcount

theorem CredentialInv.socialSignUp {auth : SocialAuth} (hprimary : auth.isPrimary = true)
    (hnew : NewUser db db' auth.userId) (hfresh : db.socialAuths.find? auth.key = none)
    (hl : db'.localAuths = db.localAuths) (hs : db'.socialAuths = db.socialAuths.save auth) :
    CredentialInv db' := by
  refine ⟨fun a ha => ?_, fun a ha => ?_, fun u hu => ?_⟩
  · rw [hnew.users, Bool.or_eq_true]
    exact Or.inr (h.localUser a (hl ▸ ha))
  · rw [hnew.users, Bool.or_eq_true, decide_eq_true_eq]
    rw [hs] at ha
    rcases Table.mem_save.1 ha with rfl | ⟨ha, -⟩
    · exact Or.inl rfl
    · exact Or.inr (h.socialUser a ha)
  · have hcount : db'.primaryCount u = db.primaryCount u + Db.primaryOf u auth := by
      unfold Db.primaryCount
      rw [hs]
      exact primaryCount_save hfresh u
    have hlocal : db'.hasLocal u = db.hasLocal u := by
      unfold Db.hasLocal
      rw [hl]
    rw [hnew.users] at hu
    by_cases he : auth.userId = u
    · subst he
      refine Or.inr ⟨hlocal.trans (h.hasLocal_fresh hnew.fresh), ?_⟩
      rw [hcount, h.primaryCount_fresh hnew.fresh]
      simp [Db.primaryOf, hprimary]
    · rw [decide_eq_false he, Bool.false_or] at hu
      refine (h.login u hu).congr hlocal (hcount.trans ?_)
      simp [Db.primaryOf, he]

theorem CredentialInv.removeUser (userId : Nat) : CredentialInv (db.removeUser userId) := by
  have husers : ∀ u, ((db.removeUser userId).users.find? u).isSome =
      (decide (userId ≠ u) && (db.users.find? u).isSome) := by
    intro u
    unfold Db.removeUser
    rw [Table.find?_remove]
    by_cases he : userId = u <;> simp [he]
  refine ⟨fun a ha => ?_, fun a ha => ?_, fun u hu => ?_⟩
  · obtain ⟨ha, hne⟩ := Table.mem_remove.1 ha
    rw [husers, h.localUser a ha]
    rw [decide_eq_true (Ne.symm hne)]
    rfl
  · obtain ⟨ha, hne⟩ := Table.mem_reject.1 ha
    rw [husers, h.socialUser a ha, decide_eq_true (Ne.symm (of_decide_eq_false hne))]
    rfl
  · rw [husers, Bool.and_eq_true, decide_eq_true_eq] at hu
    obtain ⟨hne, hu⟩ := hu
    have hcount : (db.removeUser userId).primaryCount u = db.primaryCount u := by
      have hsum := Table.total_reject (Db.primaryOf u) db.socialAuths
        fun a => decide (a.userId = userId)
      have hdropped : (db.socialAuths.total fun a =>
          if decide (a.userId = userId) then Db.primaryOf u a else 0) = 0 := by
        refine Table.total_eq_zero.2 fun a _ => ?_
        by_cases ha : a.userId = userId
        · simp [Db.primaryOf, ha, hne]
        · simp [ha]
      rw [hdropped] at hsum
      exact hsum
    have hlocal : (db.removeUser userId).hasLocal u = db.hasLocal u := by
      unfold Db.hasLocal Db.removeUser
      rw [Table.find?_remove, if_neg hne]
    exact (h.login u hu).congr hlocal hcount

theorem CredentialInv.linked {auth : SocialAuth} (hprimary : auth.isPrimary = false)
    (huser : (db.users.find? auth.userId).isSome) (hfresh : db.socialAuths.find? auth.key = none) :
    CredentialInv { db with socialAuths := db.socialAuths.save auth } := by
  refine ⟨h.localUser, fun a ha => ?_, fun u hu => ?_⟩
  · rcases Table.mem_save.1 ha with rfl | ⟨ha, -⟩
    · exact huser
    · exact h.socialUser a ha
  · have hcount := primaryCount_save hfresh u
    rw [show Db.primaryOf u auth = 0 by simp [Db.primaryOf, hprimary], Nat.add_zero] at hcount
    exact (h.login u hu).congr rfl hcount

theorem CredentialInv.unlinked {auth : SocialAuth} (hprimary : auth.isPrimary = false)
    (hmem : auth ∈ db.socialAuths.rows) :
    CredentialInv { db with socialAuths := db.socialAuths.remove auth.key } := by
  refine ⟨h.localUser, fun a ha => h.socialUser a (Table.mem_remove.1 ha).1, fun u hu => ?_⟩
  have hcount := Table.total_remove (Db.primaryOf u) db.socialAuths auth.key
  rw [Table.find?_of_mem hmem, Option.elim,
    show Db.primaryOf u auth = 0 by simp [Db.primaryOf, hprimary], Nat.add_zero] at hcount
  exact (h.login u hu).congr rfl hcount

theorem CredentialInv.password {auth old : LocalAuth}
    (hold : db.localAuths.find? auth.userId = some old) :
    CredentialInv { db with localAuths := db.localAuths.save auth } := by
  have hid : old.userId = auth.userId := Table.find?_key hold
  have hsome := h.localUser old (Table.mem_of_find? hold)
  rw [hid] at hsome
  refine ⟨fun a ha => ?_, h.socialUser, fun u hu => ?_⟩
  · rcases Table.mem_save.1 ha with rfl | ⟨ha, -⟩
    · exact hsome
    · exact h.localUser a ha
  · refine (h.login u hu).congr ((hasLocal_save rfl u).trans ?_) rfl
    by_cases he : auth.userId = u
    · subst he
      unfold Db.hasLocal
      rw [hold]
      simp
    · rw [decide_eq_false he, Bool.false_or]

theorem CredentialChange.inv (hc : CredentialChange db db') : CredentialInv db' := by
  cases hc with
  | same hsame => exact h.same hsame
  | localSignUp auth hnew hl hs => exact h.localSignUp hnew hl hs
  | socialSignUp auth hprimary hnew hfresh hl hs => exact h.socialSignUp hprimary hnew hfresh hl hs
  | removed userId hdb =>
    subst hdb
    exact h.removeUser userId
  | linked auth hprimary huser hfresh hdb =>
    subst hdb
    exact h.linked hprimary huser hfresh
  | unlinked auth hprimary hmem hdb =>
    subst hdb
    exact h.unlinked hprimary hmem
  | password auth old hold hdb =>
    subst hdb
    exact h.password hold

end

/-! ## Sign-up -/

theorem RankWrites.sameCredentials {db db' : Db} {rows : List Rank} (h : RankWrites db db' rows) :
    SameCredentials db db' := by
  rw [h.eq]
  exact ⟨fun _ => rfl, rfl, rfl⟩

theorem insertUserTerms_credentials {db db' : Db} {terms : List UserTerm}
    (h : insertUserTerms db terms = .ok db') :
    db'.users = db.users ∧ db'.localAuths = db.localAuths ∧ db'.socialAuths = db.socialAuths := by
  refine foldlM_of_step (I := fun d : Db => d.users = db.users ∧ d.localAuths = db.localAuths ∧
    d.socialAuths = db.socialAuths) (fun d term d' h hd => ?_) h ⟨rfl, rfl, rfl⟩
  unfold Db.insertUserTerm at h
  split at h
  · cases h
  · split at h
    · cases h
    · cases h; exact hd

theorem insertUser_eq {db db' : Db} {user : User} (h : db.insertUser user = .ok db') :
    db' = db.withUsers (db.users.save user) := by
  unfold Db.insertUser at h
  split at h
  · cases h
  · split at h
    · cases h
    · cases h; rfl

theorem insertLocalAuth_ok {db db' : Db} {auth : LocalAuth} (h : db.insertLocalAuth auth = .ok db') :
    db' = { db with localAuths := db.localAuths.save auth } := by
  unfold Db.insertLocalAuth at h
  split at h
  · cases h
  · next hins =>
    cases h
    rw [(Table.insert?_eq_some.1 hins).2]

theorem insertSocialAuth_ok {db db' : Db} {auth : SocialAuth}
    (h : db.insertSocialAuth auth = .ok db') :
    db.socialAuths.find? auth.key = none ∧
      db' = { db with socialAuths := db.socialAuths.save auth } := by
  unfold Db.insertSocialAuth at h
  split at h
  · cases h
  · next hins =>
    cases h
    obtain ⟨hfresh, rfl⟩ := Table.insert?_eq_some.1 hins
    exact ⟨hfresh, rfl⟩

theorem SocialAuth.create_ok {userId : Nat} {provider sub providerEmail : String} {isPrimary : Bool}
    {auth : SocialAuth} (h : create userId provider sub providerEmail isPrimary = .ok auth) :
    auth = { provider, sub, userId, providerEmail, isPrimary } := by
  unfold create at h
  split at h
  · cases h
  · split at h
    · cases h
    · cases h; rfl

theorem SignedUp.newUser {db db1 : Db} {user : User} (h : SignedUp db db1 user) :
    NewUser db db1 user.id := by
  refine ⟨h.fresh, fun u => ?_⟩
  rw [h.users, Table.find?_save]
  by_cases he : user.id = u <;> simp [he]

/-- The rank row that is inserted after a sign-up does not matter here. -/
theorem NewUser.inserted {db db1 db' : Db} {userId : Nat} {k : RankKey} (h : NewUser db db1 userId)
    (hins : insertRankIfAbsent db1 k = .ok db') :
    NewUser db db' userId ∧ db'.localAuths = db1.localAuths ∧ db'.socialAuths = db1.socialAuths := by
  obtain ⟨rows, hw, -⟩ := insertRankIfAbsent_ok hins
  have hsame := hw.sameCredentials
  exact ⟨⟨h.fresh, fun u => (hsame.users u).trans (h.users u)⟩, hsame.localAuths, hsame.socialAuths⟩

theorem createLocalUser_credentials {db db1 db' : Db} {dto : CreateLocalUserDto}
    {termIds : List String} {env : SignUpEnv} {user : User} {k : RankKey}
    (h : createLocalUser db dto termIds env = .ok (db1, user))
    (hins : insertRankIfAbsent db1 k = .ok db') : CredentialChange db db' := by
  obtain ⟨hnew, hl, hs⟩ := (createLocalUser_ok h).1.newUser.inserted hins
  obtain ⟨nickname, terms, d1, d2, rfl, h1, h2, h3⟩ := createLocalUser_steps h
  obtain ⟨-, hl3, hs3⟩ := insertUserTerms_credentials h3
  obtain rfl := insertLocalAuth_ok h2
  obtain rfl := insertUser_eq h1
  exact .localSignUp ⟨env.newId, env.hashed⟩ hnew (hl.trans hl3) (hs.trans hs3)

theorem createSocialUser_credentials {db db1 db' : Db} {email sub provider providerEmail : String}
    {termIds : List String} {env : SignUpEnv} {user : User} {k : RankKey}
    (h : createSocialUser db email sub provider providerEmail true termIds env = .ok (db1, user))
    (hins : insertRankIfAbsent db1 k = .ok db') : CredentialChange db db' := by
  obtain ⟨hnew, hl, hs⟩ := (createSocialUser_ok h).newUser.inserted hins
  obtain ⟨nickname, auth, terms, d1, d2, rfl, hauth, h1, h2, h3⟩ := createSocialUser_steps h
  obtain ⟨-, hl3, hs3⟩ := insertUserTerms_credentials h3
  obtain ⟨hfresh, rfl⟩ := insertSocialAuth_ok h2
  obtain rfl := insertUser_eq h1
  have hauth := SocialAuth.create_ok hauth
  refine .socialSignUp auth ?_ ?_ hfresh (hl.trans hl3) (hs.trans hs3)
  · rw [hauth]
  · rw [hauth]
    exact hnew

/-! ## One event -/

/-- A profile save keeps the id. -/
theorem saveUser_credentials {db : Db} {old user : User} {userId : Nat}
    (hfind : db.users.find? userId = some old) (hid : user.id = old.id) :
    SameCredentials db (db.withUsers (db.users.save user)) := by
  refine ⟨fun u => ?_, rfl, rfl⟩
  rw [Db.withUsers_users, Table.find?_save]
  split
  · next he =>
    rw [← he, hid, Table.find?_of_mem (Table.mem_of_find? hfind)]
    rfl
  · rfl

theorem deleteRank_credentials (db : Db) (teamId userId pick : Nat) :
    SameCredentials db (deleteRank db teamId userId none pick) := by
  rcases deleteRank_eq db teamId userId pick with ⟨e, -⟩ | ⟨row, -, -, -, e⟩ <;> rw [e] <;>
    exact ⟨fun _ => rfl, rfl, rfl⟩

theorem teamIdCommit_credentials (db : Db) (userId value year pick : Nat) :
    SameCredentials db (teamIdCommit db userId value year pick) := by
  unfold teamIdCommit
  cases hup : updateUserProfileTeamId db userId value with
  | error e => exact .refl db
  | ok p =>
    obtain ⟨old, user, hfind, rfl, -, hdb, -⟩ := updateUserProfileTeamId_ok hup
    have h1 : SameCredentials db p.1 := by
      rw [hdb]
      exact saveUser_credentials hfind rfl
    dsimp only
    split
    · exact h1
    · next db2 hins =>
      obtain ⟨rows, hw, -⟩ := insertRankIfAbsent_ok hins
      have h2 := h1.trans hw.sameCredentials
      split
      · exact h2.trans (deleteRank_credentials db2 p.2 userId pick)
      · exact h2

/-- A request on registrations leaves the credentials. -/
theorem applyRankUpdates_credentials {db db' : Db} {registeredGames : Table RegisteredGame.id}
    {us : List RankUpdate}
    (h : applyRankUpdates (db.withRegisteredGames registeredGames) us = .ok db') :
    CredentialChange db db' := by
  obtain ⟨rows, hw, -⟩ := applyRankUpdates_ok h
  have hrows : SameCredentials db (db.withRegisteredGames registeredGames) :=
    ⟨fun _ => rfl, rfl, rfl⟩
  exact .same (hrows.trans hw.sameCredentials)

theorem commit_credentials (db : Db) (op : Op) : CredentialChange db (db.commit op) := by
  have hrejected : CredentialChange db db := .same (.refl db)
  cases op with
  | registerLocalUser dto env year =>
    refine committed_of hrejected fun db' user hok => ?_
    unfold registerLocalUser at hok
    obtain ⟨⟨db1, created⟩, hcreate, hok⟩ := bind_eq_ok.1 hok
    obtain ⟨db2, hins, hok⟩ := bind_eq_ok.1 hok
    cases hok
    exact createLocalUser_credentials hcreate hins
  | loginSocialUser sub email provider pick env year =>
    refine committed_of hrejected fun db' p hok => ?_
    unfold loginSocialUser at hok
    obtain ⟨found, -, hok⟩ := bind_eq_ok.1 hok
    cases found with
    | some user => cases hok; exact hrejected
    | none =>
      obtain ⟨⟨db1, created⟩, hcreate, hok⟩ := bind_eq_ok.1 hok
      obtain ⟨db2, hins, hok⟩ := bind_eq_ok.1 hok
      cases hok
      exact createSocialUser_credentials hcreate hins
  | register dto userId newId =>
    refine committed_of hrejected fun db' a hok => ?_
    obtain ⟨row, game, -, -, -, -, -, hus⟩ := register_ok hok
    exact applyRankUpdates_credentials hus
  | update id dto userId =>
    refine committed_of hrejected fun db' a hok => ?_
    obtain ⟨r, game, changed, -, -, -, -, -, -, -, -, hus⟩ := update_ok hok
    exact applyRankUpdates_credentials hus
  | delete id userId =>
    refine committed_of hrejected fun db' a hok => ?_
    obtain ⟨r, game, -, -, -, -, -, hus⟩ := delete_ok hok
    exact applyRankUpdates_credentials hus
  | updateUserProfile userId input year pick =>
    cases input with
    | image value =>
      refine committed_of hrejected fun db' prev hok => ?_
      obtain ⟨old, user, hfind, rfl, rfl, -⟩ := updateUserProfileImage_ok hok
      exact .same (saveUser_credentials hfind rfl)
    | nickname value =>
      show CredentialChange db (nicknameCommit db userId value)
      unfold nicknameCommit
      cases hok : updateUserProfileNickname db userId value with
      | error e => exact hrejected
      | ok db' =>
        obtain ⟨old, user, hfind, rfl, rfl, -⟩ := updateUserProfileNickname_ok hok
        exact .same (saveUser_credentials hfind rfl)
    | teamId value => exact .same (teamIdCommit_credentials db userId value year pick)
  | deleteUser userId =>
    refine committed_of hrejected fun db' prev hok => ?_
    exact .removed userId (deleteUserRow_ok hok)

/-- The row a link inserts. -/
def CreateSocialAuthInput.row (data : CreateSocialAuthInput) : SocialAuth where
  provider := data.provider
  sub := data.sub
  userId := data.userId
  providerEmail := data.providerEmail
  isPrimary := data.isPrimary

theorem linkSocial_ok {db db' : Db} {data : CreateSocialAuthInput} (h : linkSocial db data = .ok db') :
    (db.users.find? data.userId).isSome ∧
      SocialAuth.create data.userId data.provider data.sub data.providerEmail data.isPrimary =
        .ok data.row ∧
      db.socialAuths.find? data.row.key = none ∧
      db' = { db with socialAuths := db.socialAuths.save data.row } := by
  unfold linkSocial at h
  obtain ⟨user, hload, h⟩ := bind_eq_ok.1 h
  obtain ⟨auth, hauth, h⟩ := bind_eq_ok.1 h
  obtain ⟨hfresh, rfl⟩ := insertSocialAuth_ok h
  have hfind := loadUser_ok hload
  have hid : user.id = data.userId := Table.find?_key hfind
  unfold User.addSocialAuth at hauth
  split at hauth
  · cases hauth
  · rw [hid] at hauth
    obtain rfl : auth = data.row := SocialAuth.create_ok hauth
    exact ⟨Option.isSome_iff_exists.2 ⟨user, hfind⟩, hauth, hfresh, rfl⟩

theorem linkSocial_credentials {db db' : Db} {data : CreateSocialAuthInput}
    (hlink : data.isPrimary = false) (h : linkSocial db data = .ok db') : CredentialChange db db' := by
  obtain ⟨huser, -, hfresh, rfl⟩ := linkSocial_ok h
  exact .linked data.row hlink huser hfresh rfl

/-- The row an unlink removes is the user's and not primary. -/
theorem unlinkSocial_credentials {db db' : Db} {userId pick : Nat} {provider : String}
    (h : unlinkSocial db userId provider pick = .ok db') : CredentialChange db db' := by
  unfold unlinkSocial at h
  obtain ⟨user, -, h⟩ := bind_eq_ok.1 h
  obtain ⟨target, htarget, h⟩ := bind_eq_ok.1 h
  cases h
  unfold User.removeSocialAuth at htarget
  split at htarget
  · cases htarget
  · split at htarget
    · cases htarget
    · next found hfound =>
      split at htarget
      · cases htarget
      · next hprimary =>
        cases htarget
        refine .unlinked target (by simpa using hprimary) ?_ rfl
        have hmem := List.mem_of_find?_eq_some hfound
        unfold Db.socialAuthsOf at hmem
        exact (List.mem_filter.1 (List.mem_rotate.1 hmem)).1

/-- What a change of password writes. -/
theorem changePassword_writes {db db' : Db} {email hashed : String}
    (h : changePassword db email hashed = .ok db') :
    ∃ user old, db.userByEmail email = some user ∧ db.localAuths.find? user.id = some old ∧
      old.userId = user.id ∧
      db' = { db with localAuths := db.localAuths.save { old with password := hashed } } := by
  unfold changePassword at h
  split at h
  · cases h
  · next user huser =>
    split at h
    · cases h
    · next old hold =>
      cases h
      exact ⟨user, old, huser, hold, Table.find?_key hold, rfl⟩

theorem changePassword_credentials {db db' : Db} {email hashed : String}
    (h : changePassword db email hashed = .ok db') : CredentialChange db db' := by
  obtain ⟨user, old, -, hold, hid, hdb⟩ := changePassword_writes h
  refine .password _ old ?_ hdb
  show db.localAuths.find? old.userId = some old
  rw [hid]
  exact hold

theorem orKeep_credentials {db : Db} {body : Except AppError Db}
    (h : ∀ db', body = .ok db' → CredentialChange db db') : CredentialChange db (db.orKeep body) := by
  unfold Db.orKeep
  cases body with
  | error e => exact .same (.refl db)
  | ok db' => exact h db' rfl

theorem nextAccount_credentials (extractKeyFromUrl : String → Option String) (w : World)
    (e : AccountEvent) : CredentialChange w.db (w.nextAccount extractKeyFromUrl e).db := by
  cases e with
  | event e =>
    cases e with
    | request op =>
      show CredentialChange w.db (w.step extractKeyFromUrl op).db
      rw [World.step_db]
      exact commit_credentials w.db op
    | outcomes f => exact .same ⟨fun _ => rfl, rfl, rfl⟩
    | newGame game =>
      refine .same ?_
      show SameCredentials w.db (w.db.insertGame game)
      unfold Db.insertGame
      split
      · exact .refl w.db
      · cases w.db.games.insert? game <;> exact ⟨fun _ => rfl, rfl, rfl⟩
  | linkSocial userId sub provider providerEmail =>
    exact orKeep_credentials fun db' h => linkSocial_credentials rfl h
  | unlinkSocial userId provider pick =>
    exact orKeep_credentials fun db' h => unlinkSocial_credentials h
  | changePassword email hashed => exact orKeep_credentials fun db' h => changePassword_credentials h

/-- **One way in.**  In every state of every history of sign-ups, links, unlinks, changes of
password and deletions, each user has a password and no primary social account, or one
primary social account and no password, and no social account is linked to two users. -/
theorem users_keep_one_way_in (extractKeyFromUrl : String → Option String) (teams : Table Team.id)
    (stadiums : Table Stadium.id) (games : Table GameRow.id) (terms : Table Term.id)
    (history : List AccountEvent) :
    Always (World.nextAccount extractKeyFromUrl)
      (fun w => (∀ user ∈ w.db.users.rows, OneWayIn w.db user.id) ∧
        ∀ a ∈ w.db.socialAuths.rows, ∀ b ∈ w.db.socialAuths.rows,
          a.sub = b.sub → a.provider = b.provider → a.userId = b.userId)
      (World.start teams stadiums games terms) history := by
  have hstart : CredentialInv (World.start teams stadiums games terms).db :=
    ⟨nofun, nofun, nofun⟩
  refine (always_of_step (fun w e h => (nextAccount_credentials extractKeyFromUrl w e).inv h) hstart
    history).imp fun w h => ⟨fun user hu => h.login user.id ?_, fun a ha b hb hsub hprovider => ?_⟩
  · rw [Table.find?_of_mem hu]
    rfl
  · have hkey : a.key = b.key := Prod.ext hsub hprovider
    rw [Table.eq_of_key ha hb hkey]

end VictoryFairy
