import Mathlib.Data.List.Rotate
import VictoryFairy.Model.Application

/-!
# Credentials: passwords and social links

`linkSocial`, `unlinkSocial` and `changePassword` of `AccountCoreService` and the local
login.  They work on the database alone; none of them has a hook.
-/

namespace VictoryFairy

namespace Db

/-- `findOne({ where: { email } })` -/
def userByEmail (db : Db) (email : String) : Option User :=
  db.users.rows.find? fun u => u.email = email

/-- The `social_auths` loaded with a user.  No order is asked for: `pick` decides which of
them comes first. -/
def socialAuthsOf (db : Db) (userId pick : Nat) : List SocialAuth :=
  (db.socialAuths.rows.filter fun a => a.userId = userId).rotate pick

end Db

namespace User

/-- The row `addSocialAuth` pushes. -/
def addSocialAuth (u : User) (socialAuths : List SocialAuth)
    (sub provider providerEmail : String) (isPrimary : Bool) : Except AppError SocialAuth :=
  if socialAuths.any fun a => a.provider = provider && a.sub = sub then
    .error (.account .alreadyLinked)
  else SocialAuth.create u.id provider sub providerEmail isPrimary

/-- The first row of the provider, unless it is the one of the sign-up. -/
def removeSocialAuth (socialAuths : List SocialAuth) (provider : String) :
    Except AppError SocialAuth :=
  if socialAuths.isEmpty then .error (.account .noSocialLinkHistory)
  else
    match socialAuths.find? fun a => a.provider = provider with
    | none => .error (.account .socialPlatformNotFound)
    | some target =>
      if target.isPrimary then .error (.account .primarySocialCannotUnlink) else .ok target

end User

structure CreateSocialAuthInput where
  sub : String
  provider : String
  userId : Nat
  providerEmail : String
  isPrimary : Bool
deriving DecidableEq, Repr

def linkSocial (db : Db) (data : CreateSocialAuthInput) : Except AppError Db := do
  let user ← loadUser db data.userId
  let auth ← user.addSocialAuth (db.socialAuthsOf user.id 0) data.sub data.provider
    data.providerEmail data.isPrimary
  db.insertSocialAuth auth

def unlinkSocial (db : Db) (userId : Nat) (provider : String) (pick : Nat) : Except AppError Db := do
  let user ← loadUser db userId
  let target ← User.removeSocialAuth (db.socialAuthsOf user.id pick) provider
  return { db with socialAuths := db.socialAuths.remove target.key }

/-- `unlinkSocial` when the user's rows come in the order `loaded`. -/
def unlinkLoaded (db : Db) (userId : Nat) (loaded : List SocialAuth) (provider : String) :
    Except AppError Db := do
  let _user ← loadUser db userId
  let target ← User.removeSocialAuth loaded provider
  return { db with socialAuths := db.socialAuths.remove target.key }

/-- `hashed` is what `bcrypt.hash` makes of the new password. -/
def changePassword (db : Db) (email hashed : String) : Except AppError Db :=
  match db.userByEmail email with
  | none => .error .typeError
  | some user =>
    match db.localAuths.find? user.id with
    | none => .error (.account .notLocalAccount)
    | some localAuth =>
      .ok { db with localAuths := db.localAuths.save { localAuth with password := hashed } }

/-- `compare` is `bcrypt.compare`. -/
def loginLocalUser (compare : String → String → Bool) (db : Db) (email password : String) :
    Except AppError User :=
  match db.userByEmail email with
  | none => .error (.account .userNotFound)
  | some user =>
    if (db.localAuths.find? user.id).any fun a => a.password ≠ "" && compare password a.password then
      .ok user
    else .error (.http 401 "이메일 또는 비밀번호가 틀렸습니다.")

/-- `user.validatePassword` of a user that was loaded with its local account. -/
def checkPassword (compare : String → String → Bool) (db : Db) (userId : Nat) (password : String) :
    Except AppError Bool := do
  let user ← loadUser db userId
  match db.localAuths.find? user.id with
  | none => .error (.account .notLocalAccount)
  | some localAuth => .ok (compare password localAuth.password)

inductive InitialSignUpType where
  | local
  | social
deriving DecidableEq, Repr

structure ExistEmail where
  isExist : Bool
  initialSignUpType : Option InitialSignUpType
deriving DecidableEq, Repr

def isExistEmail (db : Db) (email : String) : ExistEmail :=
  match db.userByEmail email with
  | none => { isExist := false, initialSignUpType := none }
  | some user =>
    { isExist := true
      initialSignUpType := some (if (db.localAuths.find? user.id).isSome then .local else .social) }

/-! ## Histories -/

/-- A link is never primary: `handleSocialLink` passes `isPrimary: false`. -/
inductive AccountEvent where
  | event (e : Event)
  | linkSocial (userId : Nat) (sub provider providerEmail : String)
  | unlinkSocial (userId : Nat) (provider : String) (pick : Nat)
  | changePassword (email hashed : String)

/-- A request that rejects leaves the database as it was. -/
def Db.orKeep (db : Db) (body : Except AppError Db) : Db :=
  match body with
  | .error _ => db
  | .ok db => db

namespace World

def nextAccount (extractKeyFromUrl : String → Option String) (w : World) : AccountEvent → World
  | .event e => w.next extractKeyFromUrl e
  | .linkSocial userId sub provider providerEmail =>
    { w with
      db := w.db.orKeep (VictoryFairy.linkSocial w.db
        { sub, provider, userId, providerEmail, isPrimary := false }) }
  | .unlinkSocial userId provider pick =>
    { w with db := w.db.orKeep (VictoryFairy.unlinkSocial w.db userId provider pick) }
  | .changePassword email hashed =>
    { w with db := w.db.orKeep (VictoryFairy.changePassword w.db email hashed) }

end World

end VictoryFairy
