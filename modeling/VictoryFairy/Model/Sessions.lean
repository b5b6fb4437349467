import VictoryFairy.Model.Credentials
import VictoryFairy.Model.JwtStrategy

/-!
# Sessions

A login hands out a refresh token, in a cookie, and an access token; with the cookie
`token/issue` hands out further access tokens.  `JwtService` is a parameter.  It counts in
seconds, the server's clock and the cookie in milliseconds.
-/

namespace VictoryFairy

/-! ## Tokens -/

/-- `sign` of a payload with a secret, issued at a second and for a number of them; `verify`
of a token with a secret at a second. -/
structure JwtService where
  sign : IJwtPayload → String → Nat → Nat → String
  verify : String → String → Nat → Option IJwtPayload

/-- The `type` of `issueToken` and `validateToken`. -/
inductive TokenKind where
  | refresh
  | access
deriving DecidableEq, Repr

def TokenKind.type : TokenKind → TokenType
  | .refresh => .rf
  | .access => .ac

structure AuthConfig where
  jwtAccessSecret : String
  jwtRefreshSecret : String
  accessExpireTime : Nat
  refreshExpireTime : Nat
deriving DecidableEq, Repr

namespace AuthConfig

def secret (config : AuthConfig) : TokenKind → String
  | .refresh => config.jwtRefreshSecret
  | .access => config.jwtAccessSecret

def exTime (config : AuthConfig) : TokenKind → Nat
  | .refresh => config.refreshExpireTime
  | .access => config.accessExpireTime

end AuthConfig

/-- `AuthService` and the guards with what they are given: `compare` is `bcrypt.compare`,
`extractKeyFromUrl` the one of `AwsS3Service`. -/
structure AuthDeps where
  jwtService : JwtService
  config : AuthConfig
  compare : String → String → Bool
  extractKeyFromUrl : String → Option String

/-- `Math.floor(Date.now() / 1000)` -/
def seconds (time : Nat) : Nat := time / 1000

/-- `AccountApplicationQueryService.getUserWithSupportTeam` -/
def getUserWithSupportTeam (db : Db) (userId : Nat) : Except AppError User :=
  match db.users.find? userId with
  | none => .error (.http 400 "존재하지 않는 유저입니다.")
  | some user => .ok user

/-- The first two parts of `authHeader.split(' ')`. -/
def splitHeader (authHeader : String) : String × Option String :=
  let rest := authHeader.toList.dropWhile (· ≠ ' ')
  (String.ofList (authHeader.toList.takeWhile (· ≠ ' ')),
    if rest = [] then none else some (String.ofList (rest.tail.takeWhile (· ≠ ' '))))

structure Sessions where
  world : World
  /-- the clock in milliseconds -/
  time : Nat
  /-- the tokens sent to clients so far -/
  issued : List String

inductive SessionEvent where
  | elapse (ms : Nat)
  | localLogin (email password : String)
  /-- what the guard has learnt of the pid's code is part of the request -/
  | handleSocialLogin (sub providerEmail provider : String) (pick : Nat) (env : SignUpEnv)
      (year : Nat)
  | reissueAcToken (cookie : Option String)
  | event (e : AccountEvent)

section

variable (deps : AuthDeps)

def issueToken (time : Nat) (user : User) (kind : TokenKind) : String :=
  deps.jwtService.sign { id := user.id, email := user.email, type := kind.type } (deps.config.secret kind)
    (seconds time) (deps.config.exTime kind)

namespace Sessions

/-- `JwtStrategy.validateToken`: what `verifyAsync` makes of a token. -/
def verifyAsync (s : Sessions) (kind : TokenKind) (token : String) : Option IJwtPayload :=
  deps.jwtService.verify token (deps.config.secret kind) (seconds s.time)

/-- `AccessTokenGuard.canActivate`; the result is `req.user`.  A header without a second part
has the token `undefined`, which is not verified. -/
def accessTokenGuard (s : Sessions) (authorization : Option String) :
    Except AppError (Nat × String) :=
  let authHeader := authorization.getD ""
  if authHeader = "" then .error (.http 401 "토큰 없음")
  else
    let (bearer, token) := splitHeader authHeader
    if bearer.toList.map Char.toLower ≠ "bearer".toList then .error (.http 401 "토큰 형식 오류")
    else do
      let payload ← match token with
        | none => .error (.http 401 "토큰 검증 실패")
        | some token => validateToken (s.verifyAsync deps .access) token
      if payload.type = .ac then return (payload.id, payload.email)
      else throw (.http 401 "access-token이 아님")

/-- `RefreshTokenGuard.canActivate` -/
def refreshTokenGuard (s : Sessions) (cookie : Option String) : Except AppError (Nat × String) :=
  canActivate (s.verifyAsync deps .refresh) s.world.redis s.world.db cookie

/-- Both tokens of a login. -/
def sendTokens (s : Sessions) (user : User) : Sessions :=
  { s with issued := s.issued ++
      [issueToken deps s.time user .refresh, issueToken deps s.time user .access] }

/-- The access token of the response. -/
def reissueAcToken (s : Sessions) (cookie : Option String) : Except AppError String := do
  let (userId, _) ← s.refreshTokenGuard deps cookie
  let user ← getUserWithSupportTeam s.world.db userId
  return issueToken deps s.time user .access

def step (s : Sessions) : SessionEvent → Sessions
  | .elapse ms => { s with time := s.time + ms }
  | .localLogin email password =>
    match loginLocalUser deps.compare s.world.db email password with
    | .error _ => s
    | .ok user => s.sendTokens deps user
  | .handleSocialLogin sub providerEmail provider pick env year =>
    match loginSocialUser s.world.db sub providerEmail provider pick env year with
    | .error _ => s
    | .ok (_, user, _) =>
      { s with
        world := s.world.step deps.extractKeyFromUrl
          (.loginSocialUser sub providerEmail provider pick env year) }.sendTokens deps user
  | .reissueAcToken cookie =>
    match s.reissueAcToken deps cookie with
    | .error _ => s
    | .ok acToken => { s with issued := s.issued ++ [acToken] }
  | .event e => { s with world := s.world.nextAccount deps.extractKeyFromUrl e }

end Sessions

end

namespace Sessions

def start (w : World) (time : Nat) : Sessions := ⟨w, time, []⟩

end Sessions

end VictoryFairy
