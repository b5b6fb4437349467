import VictoryFairy.Model.OneTime
import VictoryFairy.Proofs.Auth

/-!
# One-time values

The `GET` and the `DEL` of a request are two commands, so two requests can both read a value
before either deletes it, and both are accepted.

    verifyEmailCode_steps, getOAuthStateData_steps, getCodeByPid_steps
                           : with nothing in between, the two commands are the service's function
    step_race              : a step is a step of the general race over one store
    tokens_singleUse_iff   : when every value is accepted once
-/

namespace VictoryFairy

open Runs

namespace TokenRun

/-- No value was accepted twice. -/
def AcceptedOnce (s : TokenRun) : Prop :=
  ∀ i j value, s.accepted i = some value → s.accepted j = some value → i = j

/-- However the open requests finish, no value is accepted twice. -/
def SingleUse (s : TokenRun) : Prop :=
  ∀ dels : List Nat, (run step s (dels.map .del)).AcceptedOnce

/-- A `GET` that finds its value does so while no other request that has read the value has
its `DEL` ahead. -/
def OneReader (s : TokenRun) : TokenEvent → Prop
  | .get i => ∀ request value, s.requests[i]? = some ⟨request, .called⟩ →
      request.fetch s.redis = .ok value →
      ∀ j, s.fetched j ≠ some (request.key, s.version request.key)
  | _ => True

end TokenRun

/-! ## The functions of the service -/

theorem verifyEmailCode_steps (redis : AuthRedis) (email code : String) :
    verifyEmailCode redis email code =
      ((TokenRequest.verifyEmailCode email code).fetch redis).map
        fun _ => redis.del (.emailCode email) := by
  unfold verifyEmailCode TokenRequest.fetch
  dsimp only
  split <;> rfl

theorem getOAuthStateData_steps (redis : AuthRedis) (state : Nat) :
    (getOAuthStateData redis state).map (fun r => (r.1, TokenValue.oauthState r.2)) =
      ((TokenRequest.getOAuthStateData state).fetch redis).map
        fun value => (redis.del (.oauthState state), value) := by
  unfold getOAuthStateData TokenRequest.fetch
  dsimp only
  cases redis.getOAuthState state <;> rfl

theorem getCodeByPid_steps (redis : AuthRedis) (uuid : Nat) :
    (getCodeByPid redis uuid).map (fun r => (r.1, TokenValue.oauthCode r.2)) =
      ((TokenRequest.getCodeByPid uuid).fetch redis).map
        fun value => (redis.del (.oauthCode uuid), value) := by
  unfold getCodeByPid TokenRequest.fetch
  dsimp only
  cases redis.getOAuthCode uuid <;> rfl

/-! ## One store -/

/-- What is stored under a key. -/
def AuthRedis.cell (redis : AuthRedis) : TokenKey → Option TokenValue
  | .emailCode email => (redis.emailCodes email).map .emailCode
  | .oauthState state => (redis.oauthStates state).map .oauthState
  | .oauthCode uuid => (redis.oauthCodes uuid).map .oauthCode

/-- What a request makes of the value under its key. -/
def TokenRequest.ofValue : TokenRequest → Option TokenValue → Except AppError TokenValue
  | .verifyEmailCode _ code, value =>
    if value = some (.emailCode code) ∧ code ≠ "" then .ok (.emailCode code)
    else .error (.http 401 "인증 코드 틀림")
  | .getOAuthStateData _, none => .error (.http 401 "state 만료되었거나 없음")
  | .getCodeByPid _, none => .error (.http 401 "코드 만료 또는 없음")
  | _, some value => .ok value

def tokenScheme : OneTime.Scheme TokenKey TokenValue TokenRequest AppError where
  key := TokenRequest.key
  fetch := TokenRequest.ofValue
  fetch_none := by
    intro request value h
    cases request with
    | verifyEmailCode email code =>
      unfold TokenRequest.ofValue at h
      dsimp only at h
      rw [if_neg (by simp)] at h
      cases h
    | getOAuthStateData | getCodeByPid => cases h

theorem fetch_cell (redis : AuthRedis) (request : TokenRequest) :
    request.fetch redis = request.ofValue (redis.cell request.key) := by
  cases request with
  | verifyEmailCode email code =>
    unfold TokenRequest.fetch TokenRequest.ofValue isWrongCode AuthRedis.cell TokenRequest.key
    dsimp only
    cases redis.emailCodes email with
    | none => simp
    | some cached =>
      by_cases hc : cached = code
      · subst hc
        by_cases he : cached = "" <;> simp [he]
      · simp [hc]
  | getOAuthStateData state =>
    unfold TokenRequest.fetch AuthRedis.getOAuthState AuthRedis.cell TokenRequest.key
    dsimp only
    cases redis.oauthStates state <;> rfl
  | getCodeByPid uuid =>
    unfold TokenRequest.fetch AuthRedis.getOAuthCode AuthRedis.cell TokenRequest.key
    dsimp only
    cases redis.oauthCodes uuid <;> rfl

theorem cell_del (redis : AuthRedis) (key : TokenKey) :
    (redis.del key).cell = Function.update redis.cell key none := by
  funext k
  cases key <;> cases k <;>
    simp [AuthRedis.del, AuthRedis.deleteVerificationCode, AuthRedis.deleteOAuthState,
      AuthRedis.deleteOAuthCode, AuthRedis.cell, Function.update_apply, apply_ite (Option.map _)]

/-- The race that a run is. -/
def TokenRun.race (s : TokenRun) : OneTime.Race TokenKey TokenValue TokenRequest AppError :=
  ⟨s.redis.cell, s.version, s.requests⟩

def TokenEvent.toRace : TokenEvent → OneTime.Event TokenKey TokenValue TokenRequest
  | .cachingVerificationCode email code => .store (.emailCode email) (.emailCode code)
  | .saveOAuthState data => .store (.oauthState data.state) (.oauthState data)
  | .saveOAuthCode code uuid ip => .store (.oauthCode uuid) (.oauthCode ⟨code, ip⟩)
  | .expire key => .expire key
  | .call request => .call request
  | .get i => .get i
  | .del i => .del i

theorem cell_set (redis : AuthRedis) :
    (∀ email code, (redis.cachingVerificationCode email code).cell =
      Function.update redis.cell (.emailCode email) (some (.emailCode code))) ∧
    (∀ data, (redis.saveOAuthState data).cell =
      Function.update redis.cell (.oauthState data.state) (some (.oauthState data))) ∧
    ∀ code uuid ip, (redis.saveOAuthCode code uuid ip).cell =
      Function.update redis.cell (.oauthCode uuid) (some (.oauthCode ⟨code, ip⟩)) := by
  refine ⟨fun email code => ?_, fun data => ?_, fun code uuid ip => ?_⟩ <;> funext k <;> cases k <;>
    simp [AuthRedis.cachingVerificationCode, AuthRedis.saveOAuthState, AuthRedis.saveOAuthCode,
      AuthRedis.cell, Function.update_apply, apply_ite (Option.map _)]

/-- A step is a step of the race. -/
theorem step_race (s : TokenRun) (a : TokenEvent) :
    (s.step a).race = tokenScheme.step s.race a.toRace := by
  obtain ⟨hcode, hstate, hpid⟩ := cell_set s.redis
  cases a with
  | cachingVerificationCode email code =>
    simp [TokenRun.step, TokenRun.stored, TokenRun.race, OneTime.Scheme.step, TokenEvent.toRace, hcode]
  | saveOAuthState data =>
    simp [TokenRun.step, TokenRun.stored, TokenRun.race, OneTime.Scheme.step, TokenEvent.toRace, hstate]
  | saveOAuthCode code uuid ip =>
    simp [TokenRun.step, TokenRun.stored, TokenRun.race, OneTime.Scheme.step, TokenEvent.toRace, hpid]
  | expire key =>
    simp [TokenRun.step, TokenRun.race, OneTime.Scheme.step, TokenEvent.toRace, cell_del]
  | call request => rfl
  | get i =>
    unfold TokenRun.step OneTime.Scheme.step TokenEvent.toRace TokenRun.race
    dsimp only
    rcases s.requests[i]? with _ | ⟨request, phase⟩
    · rfl
    cases phase with
    | called =>
      dsimp only
      rw [fetch_cell]
      rfl
    | fetched | accepted | rejected => rfl
  | del i =>
    unfold TokenRun.step OneTime.Scheme.step TokenEvent.toRace TokenRun.race
    dsimp only
    rcases s.requests[i]? with _ | ⟨request, phase⟩
    · rfl
    cases phase with
    | fetched version value =>
      dsimp only
      rw [cell_del]
      rfl
    | called | accepted | rejected => rfl

/-! ## Runs -/

theorem accepted_race (s : TokenRun) (i : Nat) :
    s.race.requests[i]?.bind tokenScheme.acceptedBy = s.accepted i := by
  unfold TokenRun.accepted TokenRun.race
  dsimp only
  rcases s.requests[i]? with _ | ⟨request, phase⟩
  · rfl
  · cases phase <;> rfl

theorem fetched_race (s : TokenRun) (i : Nat) :
    s.race.requests[i]?.bind tokenScheme.fetchedBy = s.fetched i := by
  unfold TokenRun.fetched TokenRun.race
  dsimp only
  rcases s.requests[i]? with _ | ⟨request, phase⟩
  · rfl
  · cases phase <;> rfl

theorem singleUse_race (s : TokenRun) : s.SingleUse ↔ tokenScheme.SingleUse s.race := by
  unfold TokenRun.SingleUse TokenRun.AcceptedOnce OneTime.Scheme.SingleUse
    OneTime.Scheme.AcceptedOnce
  refine forall_congr' fun dels => ?_
  have hmap : dels.map OneTime.Event.del = (dels.map TokenEvent.del).map TokenEvent.toRace := by
    rw [List.map_map]
    rfl
  rw [hmap, ← run_map step_race]
  simp only [accepted_race]

theorem oneReader_race (s : TokenRun) (a : TokenEvent) :
    s.OneReader a ↔ tokenScheme.OneReader s.race a.toRace := by
  cases a with
  | get i =>
    unfold TokenRun.OneReader OneTime.Scheme.OneReader TokenEvent.toRace
    simp only [fetched_race, fetch_cell]
    rfl
  | _ => exact Iff.rfl

/-- **One-time values.**  In a run, no value is accepted twice however the open requests
finish exactly when no `GET` finds a value that another request is about to delete. -/
theorem tokens_singleUse_iff (redis : AuthRedis) (events : List TokenEvent) :
    Always TokenRun.step TokenRun.SingleUse (TokenRun.start redis) events ↔
      Guarded TokenRun.step TokenRun.OneReader (TokenRun.start redis) events := by
  rw [always_map step_race singleUse_race, guarded_map step_race oneReader_race]
  exact OneTime.singleUse_iff rfl _

/-- A code is mailed, and two requests present it at once. -/
def presentedTwice : List TokenEvent :=
  [.cachingVerificationCode "fan@test" "123456",
   .call (.verifyEmailCode "fan@test" "123456"), .call (.verifyEmailCode "fan@test" "123456"),
   .get 0, .get 1, .del 0, .del 1]

/-- Both are accepted. -/
theorem presentedTwice_accepted :
    ¬ (run TokenRun.step (TokenRun.start .empty) presentedTwice).AcceptedOnce := by
  intro h
  exact absurd (h 0 1 (.emailCode "fan@test", 1) (by decide) (by decide)) (by decide)

end VictoryFairy
