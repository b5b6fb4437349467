import VictoryFairy.Lib.Past
import VictoryFairy.Proofs.Commits

/-!
# Which password logs in

A password is set by a local sign-up or by a reset, under an e-mail; a login compares with
the row of the e-mail's owner.  Over a whole history the answers depend on the last of these
events alone, whatever links, profile changes and requests of others came between.

    loginEffect           : what an event does to the e-mails and passwords
    nextAccount_login     : nothing else changes them
    last_password_logs_in : a login accepts the password set last and no other
    sign_up_type_is_told  : isExistEmail tells how the owner of the e-mail signed up
-/

namespace VictoryFairy

open Runs

inductive LoginEffect where
  | keeps
  | signsUp (email : String) (password : Option String)
  | resets (email hashed : String)
  | removes (userId : Nat)

/-- Only a request that succeeds has its effect. -/
def LoginEffect.ifOk {α : Type} (body : Except AppError α) (effect : α → LoginEffect) :
    LoginEffect :=
  match body with
  | .error _ => .keeps
  | .ok a => effect a

/-- What an event does to the e-mails and passwords. -/
def loginEffect (w : World) : AccountEvent → LoginEffect
  | .event (.request (.registerLocalUser dto env year)) =>
    .ifOk (registerLocalUser w.db dto env year) fun _ => .signsUp dto.email (some env.hashed)
  | .event (.request (.loginSocialUser sub email provider pick env year)) =>
    .ifOk (loginSocialUser w.db sub email provider pick env year) fun p =>
      if p.2.2 then .signsUp email none else .keeps
  | .event (.request (.deleteUser userId)) =>
    .ifOk (deleteUserRow w.db userId) fun _ => .removes userId
  | .changePassword email hashed =>
    .ifOk (VictoryFairy.changePassword w.db email hashed) fun _ => .resets email hashed
  | _ => .keeps

namespace Db

def emailOf (db : Db) (userId : Nat) : Option String := (db.users.find? userId).map User.email

def passwordOf (db : Db) (userId : Nat) : Option String :=
  (db.localAuths.find? userId).map LocalAuth.password

end Db

/-- The e-mail has an owner whose password, if any, is one of `Q`. -/
def Owned (db : Db) (email : String) (Q : Option String → Prop) : Prop :=
  ∃ userId, db.emailOf userId = some email ∧ Q (db.passwordOf userId)

def HasLogin (db : Db) (email hashed : String) : Prop := Owned db email (· = some hashed)

/-- The owner of the e-mail has a password if and only if the kind is `local`. -/
def HasKind (db : Db) (email : String) (kind : InitialSignUpType) : Prop :=
  Owned db email fun password => password.isSome ↔ kind = .local

namespace LoginEffect

def Sets (email hashed : String) (effect : LoginEffect) : Prop :=
  effect = .signsUp email (some hashed) ∨ effect = .resets email hashed

/-- The owner of the e-mail leaves. -/
def Leaves (db : Db) (email : String) : LoginEffect → Prop
  | .removes userId => db.emailOf userId = some email
  | _ => False

/-- The e-mail's password is taken away: another one is set, or the owner leaves. -/
def Ends (db : Db) (email : String) : LoginEffect → Prop
  | .resets email' _ => email' = email
  | effect => effect.Leaves db email

/-- The e-mail signs up, with or without a password. -/
def SignsUpAs (email : String) (kind : InitialSignUpType) (effect : LoginEffect) : Prop :=
  ∃ password, effect = .signsUp email password ∧ (password.isSome ↔ kind = .local)

end LoginEffect

section

variable (extractKeyFromUrl : String → Option String) (w : World) (email : String)
  (history : List AccountEvent)

/-- The password was set for the e-mail, and neither another one since nor has the owner left. -/
def LastSet (hashed : String) : Prop :=
  SinceAt (World.nextAccount extractKeyFromUrl) (fun w e => (loginEffect w e).Sets email hashed)
    (fun w e => (loginEffect w e).Ends w.db email) w history

/-- The e-mail signed up so, and its owner has not left since. -/
def SignedUpAs (kind : InitialSignUpType) : Prop :=
  SinceAt (World.nextAccount extractKeyFromUrl)
    (fun w e => (loginEffect w e).SignsUpAs email kind)
    (fun w e => (loginEffect w e).Leaves w.db email) w history

end

/-- An e-mail has one owner, and only users have passwords. -/
structure LoginInv (db : Db) : Prop where
  unique : ∀ a b email, db.emailOf a = some email → db.emailOf b = some email → a = b
  owner : ∀ a, db.emailOf a = none → db.passwordOf a = none

/-! ## What an event does -/

structure SameLogins (db db' : Db) : Prop where
  emailOf : db'.emailOf = db.emailOf
  passwordOf : db'.passwordOf = db.passwordOf

/-- `db'` has one user more. -/
structure Joins (db db' : Db) (user : User) : Prop where
  emailOf : db'.emailOf = Function.update db.emailOf user.id (some user.email)
  fresh : db.emailOf user.id = none
  unused : ∀ a, db.emailOf a ≠ some user.email

inductive LoginChange (db db' : Db) : LoginEffect → Prop where
  | same (h : SameLogins db db') : LoginChange db db' .keeps
  | signUp (user : User) (password : Option String) (h : Joins db db' user)
      (hp : db'.passwordOf = Function.update db.passwordOf user.id password) :
      LoginChange db db' (.signsUp user.email password)
  | reset (userId : Nat) (email hashed : String) (howner : db.emailOf userId = some email)
      (hpassword : (db.passwordOf userId).isSome) (he : db'.emailOf = db.emailOf)
      (hp : db'.passwordOf = Function.update db.passwordOf userId (some hashed)) :
      LoginChange db db' (.resets email hashed)
  | removed (userId : Nat) (he : db'.emailOf = Function.update db.emailOf userId none)
      (hp : db'.passwordOf = Function.update db.passwordOf userId none) :
      LoginChange db db' (.removes userId)

theorem passwordOf_congr {db db' : Db} (h : db'.localAuths = db.localAuths) :
    db'.passwordOf = db.passwordOf := by
  funext a
  unfold Db.passwordOf
  rw [h]

namespace SameLogins

variable {db db1 db' : Db}

theorem refl (db : Db) : SameLogins db db := ⟨rfl, rfl⟩

theorem trans (h : SameLogins db db1) (h' : SameLogins db1 db') : SameLogins db db' :=
  ⟨h'.emailOf.trans h.emailOf, h'.passwordOf.trans h.passwordOf⟩

theorem rankWrites {rows : List Rank} (h : RankWrites db db' rows) : SameLogins db db' := by
  rw [h.eq]
  exact ⟨rfl, rfl⟩

/-- A profile save keeps the e-mail. -/
theorem saveUser {old user : User} {userId : Nat} (hfind : db.users.find? userId = some old)
    (hid : user.id = old.id) (hemail : user.email = old.email) :
    SameLogins db (db.withUsers (db.users.save user)) := by
  refine ⟨funext fun a => ?_, rfl⟩
  unfold Db.emailOf
  rw [Db.withUsers_users, Table.find?_save]
  split
  · next he =>
    rw [← he, hid, Table.find?_of_mem (Table.mem_of_find? hfind)]
    exact congrArg some hemail
  · rfl

end SameLogins

/-- Somebody has the e-mail after one value of both functions was changed: the one whose values
they are, or somebody else as before. -/
theorem exists_update_iff {e p : Nat → Option String} {u : Nat} {m q : Option String}
    {email : String} {Q : Option String → Prop} :
    (∃ a, Function.update e u m a = some email ∧ Q (Function.update p u q a)) ↔
      (m = some email ∧ Q q) ∨ ∃ a, (e a = some email ∧ Q (p a)) ∧ a ≠ u := by
  constructor
  · rintro ⟨a, ha, hq⟩
    by_cases hu : a = u
    · rw [hu, Function.update_self] at ha hq
      exact Or.inl ⟨ha, hq⟩
    · rw [Function.update_of_ne hu] at ha hq
      exact Or.inr ⟨a, ⟨ha, hq⟩, hu⟩
  · rintro (⟨hm, hq⟩ | ⟨a, ⟨ha, hq⟩, hu⟩)
    · refine ⟨u, ?_, ?_⟩ <;> rw [Function.update_self]
      · exact hm
      · exact hq
    · refine ⟨a, ?_, ?_⟩ <;> rw [Function.update_of_ne hu]
      · exact ha
      · exact hq

section

variable {db db' : Db}

theorem emailOf_save {user : User} (h : db'.users = db.users.save user) :
    db'.emailOf = Function.update db.emailOf user.id (some user.email) := by
  funext a
  unfold Db.emailOf
  rw [h, Table.find?_save, Function.update_apply]
  by_cases he : user.id = a
  · rw [if_pos he, if_pos he.symm]
    rfl
  · rw [if_neg he, if_neg (Ne.symm he)]

theorem passwordOf_save {auth : LocalAuth} (h : db'.localAuths = db.localAuths.save auth) :
    db'.passwordOf = Function.update db.passwordOf auth.userId (some auth.password) := by
  funext a
  unfold Db.passwordOf
  rw [h, Table.find?_save, Function.update_apply]
  by_cases he : auth.userId = a
  · rw [if_pos he, if_pos he.symm]
    rfl
  · rw [if_neg he, if_neg (Ne.symm he)]

theorem removeUser_login (db : Db) (userId : Nat) :
    LoginChange db (db.removeUser userId) (.removes userId) := by
  refine .removed userId (funext fun a => ?_) (funext fun a => ?_) <;>
    rw [Function.update_apply] <;> by_cases he : userId = a
  · simp [Db.emailOf, Db.removeUser, he]
  · simp [Db.emailOf, Db.removeUser, he, Ne.symm he]
  · simp [Db.passwordOf, Db.removeUser, he]
  · simp [Db.passwordOf, Db.removeUser, he, Ne.symm he]

theorem mem_of_emailOf {userId : Nat} {email : String} (h : db.emailOf userId = some email) :
    ∃ user ∈ db.users.rows, user.id = userId ∧ user.email = email := by
  obtain ⟨user, hfind, hemail⟩ := Option.map_eq_some_iff.1 h
  exact ⟨user, Table.mem_of_find? hfind, Table.find?_key hfind, hemail⟩

theorem emailOf_of_mem {user : User} (h : user ∈ db.users.rows) :
    db.emailOf user.id = some user.email := by
  unfold Db.emailOf
  rw [Table.find?_of_mem h]
  rfl

theorem SignedUp.joins {user : User} (h : SignedUp db db' user) : Joins db db' user := by
  refine ⟨emailOf_save h.users, ?_, fun a ha => ?_⟩
  · unfold Db.emailOf
    rw [h.fresh]
    rfl
  · obtain ⟨other, hmem, -, hemail⟩ := mem_of_emailOf ha
    have hne : other.id ≠ user.id := Table.find?_eq_none.1 h.fresh other hmem
    exact (h.storable.unique other hmem hne).1 hemail

/-- The rank row that is inserted after a sign-up does not matter here. -/
theorem Joins.inserted {db1 : Db} {user : User} {k : RankKey} (h : Joins db db1 user)
    (hins : insertRankIfAbsent db1 k = .ok db') :
    Joins db db' user ∧ db'.localAuths = db1.localAuths := by
  obtain ⟨rows, hw, -⟩ := insertRankIfAbsent_ok hins
  refine ⟨⟨(SameLogins.rankWrites hw).emailOf.trans h.emailOf, h.fresh, h.unused⟩, ?_⟩
  rw [hw.eq]
  rfl

theorem registerLocalUser_login {dto : CreateLocalUserDto} {env : SignUpEnv} {year : Nat}
    {user : User} (h : registerLocalUser db dto env year = .ok (db', user)) :
    LoginChange db db' (.signsUp dto.email (some env.hashed)) := by
  unfold registerLocalUser at h
  obtain ⟨⟨db1, created⟩, hcreate, h⟩ := bind_eq_ok.1 h
  obtain ⟨db2, hins, h⟩ := bind_eq_ok.1 h
  cases h
  obtain ⟨hjoins, hl⟩ := (createLocalUser_ok hcreate).1.joins.inserted hins
  obtain ⟨nickname, terms, d1, d2, rfl, h1, h2, h3⟩ := createLocalUser_steps hcreate
  obtain ⟨-, hl3, -⟩ := insertUserTerms_credentials h3
  obtain rfl := insertLocalAuth_ok h2
  obtain rfl := insertUser_eq h1
  exact .signUp _ (some env.hashed) hjoins (passwordOf_save (hl.trans hl3))

theorem loginSocialUser_login (hi : LoginInv db) {sub email provider : String} {pick : Nat}
    {env : SignUpEnv} {year : Nat} {user : User} {isNewUser : Bool}
    (h : loginSocialUser db sub email provider pick env year = .ok (db', user, isNewUser)) :
    LoginChange db db' (if isNewUser then .signsUp email none else .keeps) := by
  unfold loginSocialUser at h
  obtain ⟨found, -, h⟩ := bind_eq_ok.1 h
  cases found with
  | some user => cases h; exact .same (.refl db)
  | none =>
    obtain ⟨⟨db1, created⟩, hcreate, h⟩ := bind_eq_ok.1 h
    obtain ⟨db2, hins, h⟩ := bind_eq_ok.1 h
    cases h
    obtain ⟨hjoins, hl⟩ := (createSocialUser_ok hcreate).joins.inserted hins
    obtain ⟨nickname, auth, terms, d1, d2, rfl, -, h1, h2, h3⟩ := createSocialUser_steps hcreate
    obtain ⟨-, hl3, -⟩ := insertUserTerms_credentials h3
    obtain ⟨-, rfl⟩ := insertSocialAuth_ok h2
    obtain rfl := insertUser_eq h1
    -- who has no e-mail yet has no password
    refine .signUp _ none hjoins ((passwordOf_congr (hl.trans hl3)).trans ?_)
    exact (Function.update_eq_self_iff.2 (hi.owner _ hjoins.fresh).symm).symm

theorem Saves.sameLogins (h : Saves db db') : SameLogins db db' := by
  cases h with
  | nothing => exact .refl db
  | registrations registeredGames ranks hrows => exact ⟨rfl, rfl⟩
  | profile user ranks hfind hid hemail =>
    have hsaved := SameLogins.saveUser hfind hid hemail
    exact ⟨hsaved.emailOf, hsaved.passwordOf⟩

theorem changePassword_login {email hashed : String}
    (h : VictoryFairy.changePassword db email hashed = .ok db') :
    LoginChange db db' (.resets email hashed) := by
  obtain ⟨user, old, huser, hold, hid, rfl⟩ := changePassword_writes h
  have hemail : user.email = email := by simpa using List.find?_some huser
  have howner : db.emailOf user.id = some email := by
    rw [emailOf_of_mem (List.mem_of_find?_eq_some huser), hemail]
  have hpassword : (db.passwordOf user.id).isSome := by
    unfold Db.passwordOf
    rw [hold]
    rfl
  refine .reset user.id email hashed howner hpassword rfl ?_
  let changed : LocalAuth := { old with password := hashed }
  have hsaved : ({ db with localAuths := db.localAuths.save changed } : Db).localAuths =
      db.localAuths.save changed := rfl
  rw [← hid]
  exact passwordOf_save hsaved

end

theorem committed_login {α : Type} {db : Db} {body : Except AppError (Db × α)}
    {effect : Db × α → LoginEffect}
    (h : ∀ db' a, body = .ok (db', a) → LoginChange db db' (effect (db', a))) :
    LoginChange db (committed db body) (.ifOk body effect) := by
  unfold committed LoginEffect.ifOk
  cases body with
  | error e => exact .same (.refl db)
  | ok p => exact h p.1 p.2 rfl

theorem orKeep_login {db : Db} {body : Except AppError Db}
    (h : ∀ db', body = .ok db' → SameLogins db db') : LoginChange db (db.orKeep body) .keeps :=
  .same (orKeep_of (.refl db) h)

theorem commit_login {w : World} (hi : LoginInv w.db) (op : Op) :
    LoginChange w.db (w.db.commit op) (loginEffect w (.event (.request op))) := by
  cases op with
  | registerLocalUser dto env year =>
    exact committed_login fun db' user hok => registerLocalUser_login hok
  | loginSocialUser sub email provider pick env year =>
    exact committed_login fun db' p hok => loginSocialUser_login hi hok
  | register | update | delete | updateUserProfile =>
    refine .same (Saves.sameLogins ?_)
    exact commit_saves w.db trivial
  | deleteUser userId =>
    refine committed_login fun db' prev hok => ?_
    rw [deleteUserRow_ok hok]
    exact removeUser_login w.db userId

/-- Nothing but the effect of an event changes the e-mails and the passwords. -/
theorem nextAccount_login (extractKeyFromUrl : String → Option String) {w : World}
    (hi : LoginInv w.db) (e : AccountEvent) :
    LoginChange w.db (w.nextAccount extractKeyFromUrl e).db (loginEffect w e) := by
  cases e with
  | event e =>
    cases e with
    | request op =>
      show LoginChange w.db (w.step extractKeyFromUrl op).db _
      rw [World.step_db]
      exact commit_login hi op
    | outcomes f => exact .same ⟨rfl, rfl⟩
    | newGame game =>
      refine .same ?_
      show SameLogins w.db (w.db.insertGame game)
      rcases insertGame_cases w.db game with he | ⟨-, he⟩ <;> rw [he]
      · exact .refl w.db
      · exact ⟨rfl, rfl⟩
  | linkSocial userId sub provider providerEmail =>
    refine orKeep_login fun db' h => ?_
    obtain ⟨-, -, -, rfl⟩ := linkSocial_ok h
    exact ⟨rfl, rfl⟩
  | unlinkSocial userId provider pick =>
    refine orKeep_login fun db' h => ?_
    unfold unlinkSocial at h
    obtain ⟨user, -, h⟩ := bind_eq_ok.1 h
    obtain ⟨target, -, h⟩ := bind_eq_ok.1 h
    cases h
    exact ⟨rfl, rfl⟩
  | changePassword email hashed =>
    show LoginChange w.db (w.db.orKeep (VictoryFairy.changePassword w.db email hashed))
      (.ifOk (VictoryFairy.changePassword w.db email hashed) fun _ => .resets email hashed)
    cases hok : VictoryFairy.changePassword w.db email hashed with
    | error e => exact .same (.refl w.db)
    | ok db' => exact changePassword_login hok

/-! ## Owners and passwords -/

section

variable {db db' : Db} (hi : LoginInv db)
include hi

theorem LoginInv.joins {user : User} (h : Joins db db' user) (a b : Nat) (email : String)
    (ha : db'.emailOf a = some email) (hb : db'.emailOf b = some email) : a = b := by
  rw [h.emailOf, Function.update_apply] at ha hb
  split at ha <;> split at hb
  · next hia hib => exact hia.trans hib.symm
  · cases ha; exact absurd hb (h.unused b)
  · cases hb; exact absurd ha (h.unused a)
  · exact hi.unique a b email ha hb

theorem LoginChange.inv {effect : LoginEffect} (h : LoginChange db db' effect) : LoginInv db' := by
  cases h with
  | same h =>
    refine ⟨?_, ?_⟩ <;> rw [h.emailOf]
    · exact hi.unique
    · rw [h.passwordOf]
      exact hi.owner
  | signUp user password h hp =>
    refine ⟨hi.joins h, fun a ha => ?_⟩
    rw [h.emailOf, Function.update_apply] at ha
    rw [hp, Function.update_apply]
    split at ha
    · cases ha
    · next hne => exact (if_neg hne).trans (hi.owner a ha)
  | reset userId email hashed howner hpassword he hp =>
    refine ⟨by rw [he]; exact hi.unique, fun a ha => ?_⟩
    rw [he] at ha
    rw [hp, Function.update_of_ne]
    · exact hi.owner a ha
    · rintro rfl
      cases ha.symm.trans howner
  | removed userId he hp =>
    refine ⟨fun a b email ha hb => ?_, fun a ha => ?_⟩
    · rw [he, Function.update_apply] at ha hb
      split at ha
      · cases ha
      · split at hb
        · cases hb
        · exact hi.unique a b email ha hb
    · rw [he, Function.update_apply] at ha
      rw [hp, Function.update_apply]
      split at ha
      · next h => exact if_pos h
      · next h => exact (if_neg h).trans (hi.owner a ha)

/-- Nothing but the events that set or end it changes the password of an e-mail. -/
theorem LoginChange.owned {effect : LoginEffect} (h : LoginChange db db' effect) (email : String)
    (Q : Option String → Prop) :
    Owned db' email Q ↔
      ((∃ password, effect = .signsUp email password ∧ Q password) ∨
        ∃ hashed, effect = .resets email hashed ∧ Q (some hashed)) ∨
      Owned db email Q ∧ ¬ effect.Ends db email := by
  unfold Owned
  cases h with
  | same h =>
    rw [h.emailOf, h.passwordOf]
    simp [LoginEffect.Ends, LoginEffect.Leaves]
  | signUp user password h hp =>
    -- nobody else is new
    have hrest : (∃ a, (db.emailOf a = some email ∧ Q (db.passwordOf a)) ∧ a ≠ user.id) ↔
        ∃ a, db.emailOf a = some email ∧ Q (db.passwordOf a) :=
      exists_congr fun a => and_iff_left_of_imp fun ha hu => by cases (hu ▸ ha.1).symm.trans h.fresh
    rw [h.emailOf, hp, exists_update_iff, hrest]
    simp [LoginEffect.Ends, LoginEffect.Leaves]
  | reset userId email' hashed howner hpassword he hp =>
    -- the e-mail is the owner's own
    have hrest : (∃ a, (db.emailOf a = some email ∧ Q (db.passwordOf a)) ∧ a ≠ userId) ↔
        (∃ a, db.emailOf a = some email ∧ Q (db.passwordOf a)) ∧ email' ≠ email := by
      rw [← exists_and_right]
      refine exists_congr fun a => and_congr_right fun ha => not_congr ⟨?_, ?_⟩
      · rintro rfl
        exact Option.some.inj (howner.symm.trans ha.1)
      · rintro rfl
        exact hi.unique a userId _ ha.1 howner
    have hself : db.emailOf = Function.update db.emailOf userId (some email') :=
      (Function.update_eq_self_iff.2 howner.symm).symm
    rw [he, hp, hself, exists_update_iff, ← hself, hrest]
    simp [LoginEffect.Ends]
  | removed userId he hp =>
    have hrest : (∃ a, (db.emailOf a = some email ∧ Q (db.passwordOf a)) ∧ a ≠ userId) ↔
        (∃ a, db.emailOf a = some email ∧ Q (db.passwordOf a)) ∧ ¬ db.emailOf userId = some email := by
      rw [← exists_and_right]
      refine exists_congr fun a => and_congr_right fun ha => not_congr ⟨?_, ?_⟩
      · rintro rfl
        exact ha.1
      · exact fun hremoved => hi.unique a userId email ha.1 hremoved
    rw [he, hp, exists_update_iff, hrest]
    simp [LoginEffect.Ends, LoginEffect.Leaves]

theorem LoginChange.hasLogin {effect : LoginEffect} (h : LoginChange db db' effect)
    (email hashed : String) :
    HasLogin db' email hashed ↔
      effect.Sets email hashed ∨ HasLogin db email hashed ∧ ¬ effect.Ends db email := by
  unfold HasLogin
  rw [h.owned hi]
  simp [LoginEffect.Sets]

/-- A user keeps the kind of the sign-up. -/
theorem LoginChange.hasKind {effect : LoginEffect} (h : LoginChange db db' effect) (email : String)
    (kind : InitialSignUpType) :
    HasKind db' email kind ↔
      effect.SignsUpAs email kind ∨ HasKind db email kind ∧ ¬ effect.Leaves db email := by
  have howned := h.owned hi email fun password => password.isSome ↔ kind = .local
  cases h with
  | same h => simpa [HasKind, LoginEffect.SignsUpAs, LoginEffect.Ends] using howned
  | signUp user password h hp =>
    simpa [HasKind, LoginEffect.SignsUpAs, LoginEffect.Ends] using howned
  | removed userId he hp =>
    simpa [HasKind, LoginEffect.SignsUpAs, LoginEffect.Ends] using howned
  | reset userId email' hashed howner hpassword he hp =>
    -- the password was there before
    have hsome : ∀ a, (db'.passwordOf a).isSome = (db.passwordOf a).isSome := by
      intro a
      rw [hp, Function.update_apply]
      split
      · next h => rw [h, hpassword]; rfl
      · rfl
    unfold HasKind Owned
    rw [he]
    simp only [hsome]
    simp [LoginEffect.SignsUpAs, LoginEffect.Leaves]

end

section

variable {db : Db}

/-! ## The answers -/

theorem emailOf_of_userByEmail {user : User} {email : String}
    (h : db.userByEmail email = some user) : db.emailOf user.id = some email := by
  have hemail : user.email = email := by simpa using List.find?_some h
  rw [emailOf_of_mem (List.mem_of_find?_eq_some h), hemail]

/-- The row that is found by its e-mail is the owner's. -/
theorem userByEmail_of_emailOf (hi : LoginInv db) {userId : Nat} {email : String}
    (h : db.emailOf userId = some email) :
    ∃ user, db.userByEmail email = some user ∧ user.id = userId := by
  cases huser : db.userByEmail email with
  | none =>
    obtain ⟨user, hmem, -, hemail⟩ := mem_of_emailOf h
    exact absurd (List.find?_eq_none.1 huser user hmem) (by simpa using hemail)
  | some user => exact ⟨user, rfl, hi.unique _ _ email (emailOf_of_userByEmail huser) h⟩

/-- A login compares with the password of the e-mail's owner. -/
theorem loginLocalUser_ok (hi : LoginInv db) {compare : String → String → Bool}
    {email password : String} :
    (∃ user, loginLocalUser compare db email password = .ok user) ↔
      ∃ hashed, HasLogin db email hashed ∧ hashed ≠ "" ∧ compare password hashed = true := by
  unfold loginLocalUser
  constructor
  · rintro ⟨user, h⟩
    split at h
    · cases h
    · next user' huser =>
      split at h
      · next hany =>
        cases h
        obtain ⟨auth, hauth, hcompare⟩ := (Option.any_eq_true _ _).1 hany
        rw [Bool.and_eq_true, decide_eq_true_eq] at hcompare
        refine ⟨auth.password, ⟨user.id, emailOf_of_userByEmail huser, ?_⟩, hcompare⟩
        unfold Db.passwordOf
        rw [hauth]
        rfl
      · cases h
  · rintro ⟨hashed, ⟨userId, howner, hpassword⟩, hcompare⟩
    obtain ⟨user, huser, rfl⟩ := userByEmail_of_emailOf hi howner
    obtain ⟨auth, hauth, rfl⟩ := Option.map_eq_some_iff.1 hpassword
    refine ⟨user, ?_⟩
    rw [huser]
    dsimp only
    rw [hauth, Option.any_some, if_pos]
    rw [Bool.and_eq_true, decide_eq_true_eq]
    exact hcompare

theorem checkPassword_true {compare : String → String → Bool} {email password : String} :
    (∃ userId, db.emailOf userId = some email ∧
      checkPassword compare db userId password = .ok true) ↔
      ∃ hashed, HasLogin db email hashed ∧ compare password hashed = true := by
  have hcheck : ∀ userId, db.emailOf userId = some email →
      checkPassword compare db userId password =
        (db.localAuths.find? userId).elim (.error (.account .notLocalAccount))
          fun localAuth => .ok (compare password localAuth.password) := by
    intro userId howner
    obtain ⟨user, hfind, -⟩ := Option.map_eq_some_iff.1 howner
    have hid : user.id = userId := Table.find?_key hfind
    have hload : loadUser db userId = .ok user := by
      unfold loadUser
      rw [hfind]
    unfold checkPassword
    rw [hload, ← hid]
    cases hauth : db.localAuths.find? user.id <;> simp [bind, Except.bind, hauth]
  constructor
  · rintro ⟨userId, howner, h⟩
    rw [hcheck userId howner] at h
    cases hauth : db.localAuths.find? userId with
    | none => rw [hauth] at h; cases h
    | some auth =>
      rw [hauth] at h
      refine ⟨auth.password, ⟨userId, howner, ?_⟩, Except.ok.inj h⟩
      unfold Db.passwordOf
      rw [hauth]
      rfl
  · rintro ⟨hashed, ⟨userId, howner, hpassword⟩, hcompare⟩
    obtain ⟨auth, hauth, rfl⟩ := Option.map_eq_some_iff.1 hpassword
    refine ⟨userId, howner, ?_⟩
    rw [hcheck userId howner, hauth]
    exact congrArg Except.ok hcompare

theorem isExistEmail_eq (hi : LoginInv db) {email : String} {kind : InitialSignUpType} :
    isExistEmail db email = ⟨true, some kind⟩ ↔ HasKind db email kind := by
  have hisSome : ∀ userId, (db.passwordOf userId).isSome = (db.localAuths.find? userId).isSome :=
    fun userId => Option.isSome_map ..
  unfold isExistEmail
  constructor
  · intro h
    split at h
    · cases h
    · next user huser =>
      refine ⟨user.id, emailOf_of_userByEmail huser, ?_⟩
      dsimp only
      rw [hisSome]
      split at h
      · next hlocal => cases h; exact iff_of_true hlocal rfl
      · next hlocal => cases h; exact iff_of_false hlocal (by decide)
  · rintro ⟨userId, howner, hkind⟩
    obtain ⟨user, huser, rfl⟩ := userByEmail_of_emailOf hi howner
    rw [hisSome] at hkind
    rw [huser]
    dsimp only
    by_cases hlocal : kind = .local
    · rw [if_pos (hkind.2 hlocal), hlocal]
    · rw [if_neg fun h => hlocal (hkind.1 h)]
      cases kind
      · exact absurd rfl hlocal
      · rfl

end

/-! ## Histories -/

section

variable (extractKeyFromUrl : String → Option String) (teams : Table Team.id)
  (stadiums : Table Stadium.id) (games : Table GameRow.id) (terms : Table Term.id)

theorem start_loginInv : LoginInv (World.start teams stadiums games terms).db :=
  ⟨nofun, fun _ _ => rfl⟩

theorem run_loginInv (history : List AccountEvent) :
    LoginInv (run (World.nextAccount extractKeyFromUrl) (World.start teams stadiums games terms)
      history).db :=
  (always_of_step (I := fun w : World => LoginInv w.db)
    (fun _ e hi => (nextAccount_login extractKeyFromUrl hi e).inv hi)
    (start_loginInv teams stadiums games terms) history).last

theorem hasLogin_iff_lastSet (history : List AccountEvent) (email hashed : String) :
    HasLogin (run (World.nextAccount extractKeyFromUrl) (World.start teams stadiums games terms)
      history).db email hashed ↔
      LastSet extractKeyFromUrl (World.start teams stadiums games terms) email history hashed := by
  refine run_iff_sinceAt (I := fun w : World => LoginInv w.db)
    (P := fun w : World => HasLogin w.db email hashed)
    (fun _ e hi => (nextAccount_login extractKeyFromUrl hi e).inv hi)
    (fun _ e hi => (nextAccount_login extractKeyFromUrl hi e).hasLogin hi email hashed)
    (start_loginInv teams stadiums games terms) ?_ history
  rintro ⟨userId, h, -⟩
  cases h

/-- **The last password.**  After every history of sign-ups, social logins, links, resets,
profile changes, registrations and deletions, an e-mail logs in with exactly the passwords that
match the one set for it last, by its sign-up or by a reset, unless its owner has left since.
The check of the owner's own password says the same. -/
theorem last_password_logs_in (compare : String → String → Bool) (history : List AccountEvent)
    (email password : String) :
    let w : World := run (World.nextAccount extractKeyFromUrl)
      (World.start teams stadiums games terms) history
    let lastSet := LastSet extractKeyFromUrl (World.start teams stadiums games terms) email history
    ((∃ user, loginLocalUser compare w.db email password = .ok user) ↔
      ∃ hashed, lastSet hashed ∧ hashed ≠ "" ∧ compare password hashed = true) ∧
    ((∃ userId, w.db.emailOf userId = some email ∧
        checkPassword compare w.db userId password = .ok true) ↔
      ∃ hashed, lastSet hashed ∧ compare password hashed = true) := by
  intro w lastSet
  have hi := run_loginInv extractKeyFromUrl teams stadiums games terms history
  have hset := hasLogin_iff_lastSet extractKeyFromUrl teams stadiums games terms history email
  constructor
  · rw [loginLocalUser_ok hi]
    exact exists_congr fun hashed => and_congr_left' (hset hashed)
  · rw [checkPassword_true]
    exact exists_congr fun hashed => and_congr_left' (hset hashed)

/-- **How an e-mail signed up.**  After every history, `isExistEmail` tells the kind of the
sign-up since which the owner of the e-mail has not left, and that there is none. -/
theorem sign_up_type_is_told (history : List AccountEvent) (email : String) :
    let w : World := run (World.nextAccount extractKeyFromUrl)
      (World.start teams stadiums games terms) history
    let signedUpAs := SignedUpAs extractKeyFromUrl (World.start teams stadiums games terms) email
      history
    (∀ kind, isExistEmail w.db email = ⟨true, some kind⟩ ↔ signedUpAs kind) ∧
      (isExistEmail w.db email = ⟨false, none⟩ ↔ ∀ kind, ¬ signedUpAs kind) := by
  intro w signedUpAs
  have hi := run_loginInv extractKeyFromUrl teams stadiums games terms history
  have hkind : ∀ kind, isExistEmail w.db email = ⟨true, some kind⟩ ↔ signedUpAs kind := by
    intro kind
    rw [isExistEmail_eq hi]
    refine run_iff_sinceAt (I := fun w : World => LoginInv w.db)
      (P := fun w : World => HasKind w.db email kind)
      (fun _ e hi => (nextAccount_login extractKeyFromUrl hi e).inv hi)
      (fun _ e hi => (nextAccount_login extractKeyFromUrl hi e).hasKind hi email kind)
      (start_loginInv teams stadiums games terms) ?_ history
    rintro ⟨userId, h, -⟩
    cases h
  refine ⟨hkind, ?_⟩
  simp only [← hkind]
  unfold isExistEmail
  cases w.db.userByEmail email with
  | none => simp
  | some user => simp

end

end VictoryFairy
