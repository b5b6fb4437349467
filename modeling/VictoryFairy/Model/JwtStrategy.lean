import VictoryFairy.Model.RankingQuery

/-!
# `JwtStrategy` and the guard of refresh tokens

A user is looked up in the cache first and in the database second.  What `JwtService`
makes of a token is a parameter.
-/

namespace VictoryFairy

inductive TokenType where
  | ac
  | rf
deriving DecidableEq, Repr

structure IJwtPayload where
  id : Nat
  email : String
  type : TokenType
deriving DecidableEq, Repr

/-- `AccountCoreService.getUserById` -/
def getUserById (db : Db) (userId : Nat) : Option User := db.users.find? userId

/-- `JwtStrategy.checkUser` -/
def checkUser (redis : Redis) (db : Db) (userId : Nat) : Except AppError UserProfile := do
  let result ← redis.getUserInfoByIds [userId]
  match result.find? fun p => p.id == userId with
  | some user => return user
  | none =>
    match getUserById db userId with
    | none => throw (.http 401 "유저 정보 없음")
    | some foundUser =>
      return { id := foundUser.id, nickname := some foundUser.nickname,
               profileImage := some foundUser.profileImage }

/-- `validateToken` with the refresh secret; `verify` is `JwtService.verifyAsync`. -/
def validateToken (verify : String → Option IJwtPayload) (token : String) :
    Except AppError IJwtPayload :=
  match verify token with
  | none => .error (.http 401 "토큰 검증 실패")
  | some payload => .ok payload

/-- `RefreshTokenGuard.canActivate`; the result is `req.user`.  The check of the user that
`checkUser` has returned always passes. -/
def canActivate (verify : String → Option IJwtPayload) (redis : Redis) (db : Db)
    (cookie : Option String) : Except AppError (Nat × String) :=
  let token := cookie.getD ""
  if token = "" then .error (.http 401 "토큰 없음")
  else do
    let payload ← validateToken verify token
    let _ ← checkUser redis db payload.id
    if payload.type = .rf then return (payload.id, payload.email)
    else throw (.http 401 "refresh-token이 아님")

end VictoryFairy
