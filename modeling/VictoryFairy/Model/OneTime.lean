import VictoryFairy.Lib.OneTime
import VictoryFairy.Model.Auth

/-!
# Redeeming a code, a state or a pid, command by command

`verifyEmailCode`, `getOAuthStateData` and `getCodeByPid` each send a `GET`, look at what
came back and send a `DEL`.  Other requests run between the two commands.

A value is told from others stored under its key by its version, the number of `SET`s of the
key so far.
-/

namespace VictoryFairy

/-- `RedisKeys.EMAIL_CODE`, `RedisKeys.OAUTH_STATE` and `RedisKeys.OAUTH_CODE` -/
inductive TokenKey where
  | emailCode (email : String)
  | oauthState (state : Nat)
  | oauthCode (uuid : Nat)
deriving DecidableEq, Repr

inductive TokenValue where
  | emailCode (code : String)
  | oauthState (data : OAuthState)
  | oauthCode (codeWithIp : CodeWithIp)
deriving DecidableEq, Repr

inductive TokenRequest where
  | verifyEmailCode (email code : String)
  | getOAuthStateData (state : Nat)
  | getCodeByPid (uuid : Nat)
deriving DecidableEq, Repr

namespace TokenRequest

def key : TokenRequest → TokenKey
  | .verifyEmailCode email _ => .emailCode email
  | .getOAuthStateData state => .oauthState state
  | .getCodeByPid uuid => .oauthCode uuid

/-- Up to the `DEL`. -/
def fetch (redis : AuthRedis) : TokenRequest → Except AppError TokenValue
  | .verifyEmailCode email code =>
    if isWrongCode (redis.emailCodes email) code then .error (.http 401 "인증 코드 틀림")
    else .ok (.emailCode code)
  | .getOAuthStateData state => (redis.getOAuthState state).map .oauthState
  | .getCodeByPid uuid => (redis.getOAuthCode uuid).map .oauthCode

end TokenRequest

namespace AuthRedis

def del (redis : AuthRedis) : TokenKey → AuthRedis
  | .emailCode email => redis.deleteVerificationCode email
  | .oauthState state => redis.deleteOAuthState state
  | .oauthCode uuid => redis.deleteOAuthCode uuid

end AuthRedis

structure TokenRun where
  redis : AuthRedis
  version : TokenKey → Nat
  requests : List (OneTime.Request TokenValue TokenRequest AppError)

inductive TokenEvent where
  | cachingVerificationCode (email code : String)
  | saveOAuthState (data : OAuthState)
  | saveOAuthCode (code : String) (uuid : Nat) (ip : String)
  /-- a key reaches its time to live -/
  | expire (key : TokenKey)
  | call (request : TokenRequest)
  | get (i : Nat)
  | del (i : Nat)

namespace TokenRun

def start (redis : AuthRedis) : TokenRun := ⟨redis, fun _ => 0, []⟩

/-- After a `SET` of the key. -/
def stored (s : TokenRun) (key : TokenKey) (redis : AuthRedis) : TokenRun :=
  { s with redis, version := Function.update s.version key (s.version key + 1) }

def step (s : TokenRun) : TokenEvent → TokenRun
  | .cachingVerificationCode email code =>
    s.stored (.emailCode email) (s.redis.cachingVerificationCode email code)
  | .saveOAuthState data => s.stored (.oauthState data.state) (s.redis.saveOAuthState data)
  | .saveOAuthCode code uuid ip => s.stored (.oauthCode uuid) (s.redis.saveOAuthCode code uuid ip)
  | .expire key => { s with redis := s.redis.del key }
  | .call request => { s with requests := s.requests ++ [⟨request, .called⟩] }
  | .get i =>
    match s.requests[i]? with
    | some ⟨request, .called⟩ =>
      { s with
        requests := s.requests.set i
          ⟨request, .ofFetch (s.version request.key) (request.fetch s.redis)⟩ }
    | _ => s
  | .del i =>
    match s.requests[i]? with
    | some ⟨request, .fetched version value⟩ =>
      { s with
        redis := s.redis.del request.key,
        requests := s.requests.set i ⟨request, .accepted version value⟩ }
    | _ => s

/-- The key and version of the value that request `i` was accepted with: it returned `true`,
the state or the code. -/
def accepted (s : TokenRun) (i : Nat) : Option (TokenKey × Nat) :=
  match s.requests[i]? with
  | some ⟨request, .accepted version _⟩ => some (request.key, version)
  | _ => none

/-- The value that request `i` has read and not deleted. -/
def fetched (s : TokenRun) (i : Nat) : Option (TokenKey × Nat) :=
  match s.requests[i]? with
  | some ⟨request, .fetched version _⟩ => some (request.key, version)
  | _ => none

end TokenRun

end VictoryFairy
