import VictoryFairy.Model.Credentials

/-!
# Authentication: e-mail codes and social flows

`AuthRedisService` and `AuthService`, the two guards of the social flows and the
requests that use them.  A uuid is the number of uuids made before it.  What the mail
server and a social platform answer is part of a request, and so is the code drawn.

A social flow has three requests: an entry point saves a state, the platform's callback
consumes it and saves the code under a pid, and a `handle` request redeems the pid.
-/

namespace VictoryFairy

/-! ## `AuthRedisService` -/

/-- `IOAuthStateCachingData` -/
structure OAuthState where
  provider : String
  userId : Option Nat
  state : Nat
deriving DecidableEq, Repr

structure CodeWithIp where
  code : String
  ip : String
deriving DecidableEq, Repr

structure AuthRedis where
  emailCodes : String → Option String
  oauthStates : Nat → Option OAuthState
  oauthCodes : Nat → Option CodeWithIp

namespace AuthRedis

def empty : AuthRedis := ⟨fun _ => none, fun _ => none, fun _ => none⟩

def cachingVerificationCode (redis : AuthRedis) (email code : String) : AuthRedis :=
  { redis with emailCodes := Function.update redis.emailCodes email (some code) }

def deleteVerificationCode (redis : AuthRedis) (email : String) : AuthRedis :=
  { redis with emailCodes := Function.update redis.emailCodes email none }

def saveOAuthState (redis : AuthRedis) (data : OAuthState) : AuthRedis :=
  { redis with oauthStates := Function.update redis.oauthStates data.state (some data) }

def getOAuthState (redis : AuthRedis) (state : Nat) : Except AppError OAuthState :=
  match redis.oauthStates state with
  | none => .error (.http 401 "state 만료되었거나 없음")
  | some data => .ok data

def deleteOAuthState (redis : AuthRedis) (state : Nat) : AuthRedis :=
  { redis with oauthStates := Function.update redis.oauthStates state none }

def saveOAuthCode (redis : AuthRedis) (code : String) (uuid : Nat) (ip : String) : AuthRedis :=
  { redis with oauthCodes := Function.update redis.oauthCodes uuid (some { code, ip }) }

def getOAuthCode (redis : AuthRedis) (uuid : Nat) : Except AppError CodeWithIp :=
  match redis.oauthCodes uuid with
  | none => .error (.http 401 "코드 만료 또는 없음")
  | some data => .ok data

def deleteOAuthCode (redis : AuthRedis) (uuid : Nat) : AuthRedis :=
  { redis with oauthCodes := Function.update redis.oauthCodes uuid none }

end AuthRedis

/-! ## `AuthService` -/

/-- `sent` is the mail server's answer. -/
def makeCodeAndSendMail (redis : AuthRedis) (email code : String) (sent : Bool) :
    Except AppError AuthRedis :=
  if sent then .ok (redis.cachingVerificationCode email code)
  else .error (.http 500 "이메일 전송 실패")

/-- `!getCachedCode || getCachedCode !== code` -/
def isWrongCode (getCachedCode : Option String) (code : String) : Bool :=
  (getCachedCode.getD "") = "" || getCachedCode ≠ some code

def verifyEmailCode (redis : AuthRedis) (email code : String) : Except AppError AuthRedis :=
  if isWrongCode (redis.emailCodes email) code then .error (.http 401 "인증 코드 틀림")
  else .ok (redis.deleteVerificationCode email)

def getOAuthStateData (redis : AuthRedis) (state : Nat) :
    Except AppError (AuthRedis × OAuthState) := do
  let data ← redis.getOAuthState state
  return (redis.deleteOAuthState state, data)

def getCodeByPid (redis : AuthRedis) (uuid : Nat) : Except AppError (AuthRedis × CodeWithIp) := do
  let codeWithIp ← redis.getOAuthCode uuid
  return (redis.deleteOAuthCode uuid, codeWithIp)

/-! ## The stores of a run -/

structure AuthRun where
  world : World
  redis : AuthRedis
  nextUuid : Nat

namespace AuthRun

/-- Returns the state. -/
def saveOAuthStateWithUser (s : AuthRun) (provider : String) (userId : Option Nat) :
    AuthRun × Nat :=
  let state := s.nextUuid
  ({ s with redis := s.redis.saveOAuthState { provider, userId, state }, nextUuid := state + 1 },
    state)

/-- Returns the pid. -/
def createUuidAndCachingCode (s : AuthRun) (code ip : String) : AuthRun × Nat :=
  let uuid := s.nextUuid
  ({ s with redis := s.redis.saveOAuthCode code uuid ip, nextUuid := uuid + 1 }, uuid)

end AuthRun

/-! ## `SocialAuthGuard` -/

inductive FlowType where
  | login
  | link
deriving DecidableEq, Repr

/-- The routes of the guard.  Only the entry point of a link has a user, the one of the
refresh token. -/
inductive SocialPath where
  | login
  | link (userId : Nat)
  | callback (flowType : FlowType)
deriving DecidableEq, Repr

/-- `req.user?.id` -/
def SocialPath.userId : SocialPath → Option Nat
  | .link userId => some userId
  | _ => none

structure SocialAuthRequest where
  path : SocialPath
  provider : String
  isPost : Bool
  /-- of the body in a `POST` of Apple's, of the query otherwise -/
  code : Option String
  state : Option Nat
  ip : String
deriving DecidableEq, Repr

/-- `!!(code && pathname.includes('/callback'))` -/
def SocialAuthRequest.isCallbackRequest (req : SocialAuthRequest) : Bool :=
  match req.path with
  | .callback _ => (req.code.getD "") ≠ ""
  | _ => false

namespace AuthRun

/-- Redirects to the platform with the state. -/
def handleEntryPoint (s : AuthRun) (provider : String) (userId : Option Nat) : AuthRun :=
  (s.saveOAuthStateWithUser provider userId).1

/-- The pid that is passed on, `none` with `socialAuthError`.  Of the state's data only
its being there is looked at. -/
def handleCallback (s : AuthRun) (code : String) (receivedState : Option Nat) (ip : String) :
    AuthRun × Except AppError (Option Nat) :=
  match receivedState with
  | none => (s, .ok none)
  | some state =>
    match getOAuthStateData s.redis state with
    | .error e => (s, .error e)
    | .ok (redis, _) =>
      let (s, pid) := { s with redis }.createUuidAndCachingCode code ip
      (s, .ok (some pid))

/-- `canActivate` -/
def socialAuthGuard (s : AuthRun) (req : SocialAuthRequest) :
    AuthRun × Except AppError (Option Nat) :=
  if req.provider ∉ SocialProvider then
    (s, .error (.http 400 ("지원하지 않는 소셜 로그인 플랫폼: " ++ req.provider)))
  else if !req.isCallbackRequest then
    (s.handleEntryPoint req.provider req.path.userId, .ok none)
  else if req.provider = "apple" ∧ req.isPost = false then
    (s, .error (.http 400 "애플 로그인은 POST 요청만 가능"))
  else if req.provider ≠ "apple" ∧ req.isPost = true then
    (s, .error (.http 400 "그 외의 소셜 로그인은 GET 요청만 가능"))
  else s.handleCallback (req.code.getD "") req.state req.ip

end AuthRun

/-! ## `SocialPostGuard` -/

/-- `ISocialUserInfo` -/
structure SocialUserInfo where
  sub : String
  email : String
deriving DecidableEq, Repr

/-- `answer` is what the platform says of the code, `none` when it rejects it. -/
structure SocialPostRequest where
  provider : String
  pid : Option Nat
  ip : String
  answer : Option SocialUserInfo
deriving DecidableEq, Repr

namespace AuthRun

def socialPostGuard (s : AuthRun) (req : SocialPostRequest) :
    AuthRun × Except AppError SocialUserInfo :=
  if req.provider ∉ SocialProvider then (s, .error (.http 400 "유효하지 않은 provider"))
  else
    match req.pid with
    | none => (s, .error (.http 400 "pid 누락"))
    | some pid =>
      match getCodeByPid s.redis pid with
      | .error e => (s, .error e)
      | .ok (redis, codeWithIp) =>
        let s := { s with redis }
        if req.ip ≠ codeWithIp.ip then (s, .error (.http 401 "동일한 사용자 아님"))
        else
          match req.answer with
          | none => (s, .error (.http 401 "소셜 플랫폼 인증 실패"))
          | some socialUserInfo => (s, .ok socialUserInfo)

/-! ## Requests -/

/-- `userId` is the user of the access token. -/
def handleSocialLink (s : AuthRun) (userId : Nat) (req : SocialPostRequest) :
    AuthRun × Except AppError Unit :=
  match s.socialPostGuard req with
  | (s, .error e) => (s, .error e)
  | (s, .ok { sub, email }) =>
    match linkSocial s.world.db
      { sub, provider := req.provider, userId, providerEmail := email, isPrimary := false } with
    | .error e => (s, .error e)
    | .ok db => ({ s with world := { s.world with db } }, .ok ())

def handleSocialLogin (extractKeyFromUrl : String → Option String) (s : AuthRun)
    (req : SocialPostRequest) (pick : Nat) (env : SignUpEnv) (year : Nat) : AuthRun :=
  match s.socialPostGuard req with
  | (s, .error _) => s
  | (s, .ok { sub, email }) =>
    { s with
      world := s.world.step extractKeyFromUrl
        (.loginSocialUser sub email req.provider pick env year) }

end AuthRun

inductive AuthEvent where
  | socialAuth (req : SocialAuthRequest)
  | handleSocialLink (userId : Nat) (req : SocialPostRequest)
  | handleSocialLogin (req : SocialPostRequest) (pick : Nat) (env : SignUpEnv) (year : Nat)
  | makeCodeAndSendMail (email code : String) (sent : Bool)
  | verifyEmailCode (email code : String)
  | localLogin (email password : String)
  | resetPw (email hashed : String)
  /-- a key reaches its time to live -/
  | expireCode (email : String)
  | expireState (state : Nat)
  | expirePid (pid : Nat)
  | event (e : Event)

namespace AuthRun

def start (w : World) : AuthRun := ⟨w, .empty, 0⟩

/-- A request that rejects leaves the codes as they were. -/
def keepOnError (s : AuthRun) (body : Except AppError AuthRedis) : AuthRun :=
  match body with
  | .error _ => s
  | .ok redis => { s with redis }

def next (extractKeyFromUrl : String → Option String) (s : AuthRun) : AuthEvent → AuthRun
  | .socialAuth req => (s.socialAuthGuard req).1
  | .handleSocialLink userId req => (s.handleSocialLink userId req).1
  | .handleSocialLogin req pick env year => s.handleSocialLogin extractKeyFromUrl req pick env year
  | .makeCodeAndSendMail email code sent =>
    s.keepOnError (VictoryFairy.makeCodeAndSendMail s.redis email code sent)
  | .verifyEmailCode email code => s.keepOnError (VictoryFairy.verifyEmailCode s.redis email code)
  | .localLogin _ _ => s
  | .resetPw email hashed =>
    { s with
      world := { s.world with db := s.world.db.orKeep (changePassword s.world.db email hashed) } }
  | .expireCode email => { s with redis := s.redis.deleteVerificationCode email }
  | .expireState state => { s with redis := s.redis.deleteOAuthState state }
  | .expirePid pid => { s with redis := s.redis.deleteOAuthCode pid }
  | .event e => { s with world := s.world.next extractKeyFromUrl e }

end AuthRun

end VictoryFairy
