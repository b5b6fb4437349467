import VictoryFairy.Lib.Past
import VictoryFairy.Model.Auth

/-!
# What an authentication request does to the stores

The two guards, case by case, and what an event leaves of the cached codes and states.

    socialAuthGuard_cases   : a request of a social flow starts one, ends one or does nothing
    socialPostGuard_cases   : a `handle` request is refused or redeems its pid
    next_oauthState         : where a cached state comes from
    next_oauthCode          : where the code under a pid comes from
-/

namespace VictoryFairy

open Runs

variable {extractKeyFromUrl : String → Option String} {w : World}

/-- The state after the events. -/
def AuthRun.after (extractKeyFromUrl : String → Option String) (w : World)
    (events : List AuthEvent) : AuthRun :=
  run (AuthRun.next extractKeyFromUrl) (AuthRun.start w) events

/-- The request is sent to the platform with a new state. -/
def StartsFlow (req : SocialAuthRequest) : Prop :=
  req.provider ∈ SocialProvider ∧ req.isCallbackRequest = false

theorem getOAuthStateData_ok {redis redis' : AuthRedis} {state : Nat} {data : OAuthState} :
    getOAuthStateData redis state = .ok (redis', data) ↔
      redis.oauthStates state = some data ∧ redis' = redis.deleteOAuthState state := by
  unfold getOAuthStateData AuthRedis.getOAuthState
  cases redis.oauthStates state with
  | none => simp [bind, Except.bind]
  | some cached => simp [bind, Except.bind, pure, Except.pure, and_comm, eq_comm]

theorem getCodeByPid_ok {redis redis' : AuthRedis} {pid : Nat} {codeWithIp : CodeWithIp} :
    getCodeByPid redis pid = .ok (redis', codeWithIp) ↔
      redis.oauthCodes pid = some codeWithIp ∧ redis' = redis.deleteOAuthCode pid := by
  unfold getCodeByPid AuthRedis.getOAuthCode
  cases redis.oauthCodes pid with
  | none => simp [bind, Except.bind]
  | some cached => simp [bind, Except.bind, pure, Except.pure, and_comm, eq_comm]

/-- What `saveOAuthStateWithUser` saves for the request. -/
def SocialAuthRequest.stateData (req : SocialAuthRequest) (state : Nat) : OAuthState :=
  { provider := req.provider, userId := req.path.userId, state }

/-- What the callback leaves. -/
def AuthRun.calledBack (s : AuthRun) (req : SocialAuthRequest) (state : Nat) : AuthRun :=
  { s with
    redis := (s.redis.deleteOAuthState state).saveOAuthCode (req.code.getD "") s.nextUuid req.ip,
    nextUuid := s.nextUuid + 1 }

theorem handleCallback_cases (s : AuthRun) (req : SocialAuthRequest) :
    (∃ answer, s.handleCallback (req.code.getD "") req.state req.ip = (s, answer) ∧
      ∀ pid, answer ≠ .ok (some pid)) ∨
    ∃ state data, req.state = some state ∧ s.redis.oauthStates state = some data ∧
      s.handleCallback (req.code.getD "") req.state req.ip =
        (s.calledBack req state, .ok (some s.nextUuid)) := by
  unfold AuthRun.handleCallback getOAuthStateData AuthRedis.getOAuthState
  cases req.state with
  | none => exact Or.inl ⟨_, rfl, nofun⟩
  | some state =>
    dsimp only
    cases hdata : s.redis.oauthStates state with
    | none => exact Or.inl ⟨_, rfl, nofun⟩
    | some data => exact Or.inr ⟨state, data, rfl, hdata, rfl⟩

theorem socialAuthGuard_cases (s : AuthRun) (req : SocialAuthRequest) :
    (∃ answer, s.socialAuthGuard req = (s, answer) ∧ ∀ pid, answer ≠ .ok (some pid)) ∨
    (StartsFlow req ∧
      s.socialAuthGuard req = (s.handleEntryPoint req.provider req.path.userId, .ok none)) ∨
    ∃ state data, req.state = some state ∧ s.redis.oauthStates state = some data ∧
      s.socialAuthGuard req = (s.calledBack req state, .ok (some s.nextUuid)) := by
  unfold AuthRun.socialAuthGuard
  split
  · exact Or.inl ⟨_, rfl, nofun⟩
  next hprovider =>
  split
  · next hentry =>
    exact Or.inr (Or.inl ⟨⟨not_not.1 hprovider, by simpa using hentry⟩, rfl⟩)
  split
  · exact Or.inl ⟨_, rfl, nofun⟩
  split
  · exact Or.inl ⟨_, rfl, nofun⟩
  · rcases handleCallback_cases s req with h | h
    · exact Or.inl h
    · exact Or.inr (Or.inr h)

theorem StartsFlow.guard {req : SocialAuthRequest} (h : StartsFlow req) (s : AuthRun) :
    s.socialAuthGuard req = (s.handleEntryPoint req.provider req.path.userId, .ok none) := by
  unfold AuthRun.socialAuthGuard
  rw [if_neg (not_not.2 h.1), if_pos (by rw [h.2]; rfl)]

/-- The code under the pid is deleted before anything is checked. -/
theorem socialPostGuard_cases (s : AuthRun) (req : SocialPostRequest) :
    (∃ e, s.socialPostGuard req = (s, .error e) ∧ ∀ pid, req.provider ∈ SocialProvider →
      req.pid = some pid → s.redis.oauthCodes pid = none) ∨
    ∃ pid codeWithIp, req.provider ∈ SocialProvider ∧ req.pid = some pid ∧
      s.redis.oauthCodes pid = some codeWithIp ∧
      (s.socialPostGuard req).1 = { s with redis := s.redis.deleteOAuthCode pid } ∧
      ∀ info, (s.socialPostGuard req).2 = .ok info ↔
        req.ip = codeWithIp.ip ∧ req.answer = some info := by
  unfold AuthRun.socialPostGuard getCodeByPid AuthRedis.getOAuthCode
  split
  · next hprovider => exact Or.inl ⟨_, rfl, fun _ h => absurd h hprovider⟩
  next hprovider =>
  cases req.pid with
  | none => exact Or.inl ⟨_, rfl, fun _ _ => nofun⟩
  | some pid =>
    dsimp only
    cases hcode : s.redis.oauthCodes pid with
    | none =>
      refine Or.inl ⟨_, rfl, fun pid' _ h => ?_⟩
      cases h
      exact hcode
    | some codeWithIp =>
      refine Or.inr ⟨pid, codeWithIp, not_not.1 hprovider, rfl, hcode, ?_⟩
      dsimp only [bind, Except.bind, pure, Except.pure]
      by_cases hip : req.ip = codeWithIp.ip
      · rw [if_neg (not_not.2 hip)]
        cases req.answer <;> simp [hip]
      · simp [hip]

/-- All that a `handle` request does to the caches. -/
theorem socialPostGuard_redis (s : AuthRun) (req : SocialPostRequest) :
    (s.socialPostGuard req).1.nextUuid = s.nextUuid ∧
      ((s.socialPostGuard req).1.redis = s.redis ∨
        ∃ pid, (s.socialPostGuard req).1.redis = s.redis.deleteOAuthCode pid) := by
  rcases socialPostGuard_cases s req with ⟨e, h, -⟩ | ⟨pid, -, -, -, -, h, -⟩
  · rw [h]
    exact ⟨rfl, Or.inl rfl⟩
  · rw [h]
    exact ⟨rfl, Or.inr ⟨pid, rfl⟩⟩

theorem handleSocialLink_stores (s : AuthRun) (userId : Nat) (req : SocialPostRequest) :
    (s.handleSocialLink userId req).1.redis = (s.socialPostGuard req).1.redis ∧
      (s.handleSocialLink userId req).1.nextUuid = (s.socialPostGuard req).1.nextUuid := by
  unfold AuthRun.handleSocialLink
  rcases s.socialPostGuard req with ⟨s, e | ⟨sub, email⟩⟩
  · exact ⟨rfl, rfl⟩
  · dsimp only
    split <;> exact ⟨rfl, rfl⟩

theorem handleSocialLogin_stores (s : AuthRun) (req : SocialPostRequest) (pick : Nat)
    (env : SignUpEnv) (year : Nat) :
    (s.handleSocialLogin extractKeyFromUrl req pick env year).redis =
        (s.socialPostGuard req).1.redis ∧
      (s.handleSocialLogin extractKeyFromUrl req pick env year).nextUuid =
        (s.socialPostGuard req).1.nextUuid := by
  unfold AuthRun.handleSocialLogin
  rcases s.socialPostGuard req with ⟨s, e | ⟨sub, email⟩⟩ <;> exact ⟨rfl, rfl⟩

/-- What a request that is not `socialAuth` leaves of the stores of the social flows. -/
theorem next_other (s : AuthRun) {a : AuthEvent} (ha : ∀ req, a ≠ .socialAuth req) :
    (s.next extractKeyFromUrl a).nextUuid = s.nextUuid ∧
      (∀ state data, (s.next extractKeyFromUrl a).redis.oauthStates state = some data →
        s.redis.oauthStates state = some data) ∧
      ∀ pid code, (s.next extractKeyFromUrl a).redis.oauthCodes pid = some code →
        s.redis.oauthCodes pid = some code := by
  -- a `handle` request, whatever it does to the database
  have hpost : ∀ (req : SocialPostRequest) (s' : AuthRun),
      s'.redis = (s.socialPostGuard req).1.redis →
      s'.nextUuid = (s.socialPostGuard req).1.nextUuid →
      s'.nextUuid = s.nextUuid ∧
        (∀ state data, s'.redis.oauthStates state = some data →
          s.redis.oauthStates state = some data) ∧
        ∀ pid code, s'.redis.oauthCodes pid = some code → s.redis.oauthCodes pid = some code := by
    intro req s' hredis huuid
    obtain ⟨hu, hr | ⟨pid, hr⟩⟩ := socialPostGuard_redis s req
    · rw [huuid, hu, hredis, hr]
      exact ⟨rfl, fun _ _ => id, fun _ _ => id⟩
    · rw [huuid, hu, hredis, hr]
      refine ⟨rfl, fun _ _ => id, fun other code h => ?_⟩
      by_cases hpid : other = pid
      · subst hpid
        simp [AuthRedis.deleteOAuthCode] at h
      · simpa [AuthRedis.deleteOAuthCode, hpid] using h
  cases a with
  | socialAuth req => exact absurd rfl (ha req)
  | handleSocialLink userId req =>
    obtain ⟨hredis, huuid⟩ := handleSocialLink_stores s userId req
    exact hpost req _ hredis huuid
  | handleSocialLogin req pick env year =>
    refine hpost req (s.handleSocialLogin extractKeyFromUrl req pick env year) ?_ ?_
    · exact (handleSocialLogin_stores s req pick env year).1
    · exact (handleSocialLogin_stores s req pick env year).2
  | makeCodeAndSendMail email code sent =>
    cases sent <;> exact ⟨rfl, fun _ _ => id, fun _ _ => id⟩
  | verifyEmailCode email code =>
    unfold AuthRun.next verifyEmailCode
    dsimp only
    split <;> exact ⟨rfl, fun _ _ => id, fun _ _ => id⟩
  | localLogin | resetPw | expireCode | event => exact ⟨rfl, fun _ _ => id, fun _ _ => id⟩
  | expireState state =>
    refine ⟨rfl, fun other data h => ?_, fun _ _ => id⟩
    by_cases hstate : other = state
    · subst hstate
      simp [AuthRun.next, AuthRedis.deleteOAuthState] at h
    · simpa [AuthRun.next, AuthRedis.deleteOAuthState, hstate] using h
  | expirePid pid =>
    refine ⟨rfl, fun _ _ => id, fun other code h => ?_⟩
    by_cases hpid : other = pid
    · subst hpid
      simp [AuthRun.next, AuthRedis.deleteOAuthCode] at h
    · simpa [AuthRun.next, AuthRedis.deleteOAuthCode, hpid] using h

/-- A cached state was there before, or a flow starts with it. -/
theorem next_oauthState (s : AuthRun) (a : AuthEvent) {state : Nat} {data : OAuthState}
    (h : (s.next extractKeyFromUrl a).redis.oauthStates state = some data) :
    s.redis.oauthStates state = some data ∨
      ∃ req, a = .socialAuth req ∧ StartsFlow req ∧ state = s.nextUuid ∧
        data = req.stateData state := by
  by_cases ha : ∀ req, a ≠ .socialAuth req
  · exact Or.inl ((next_other s ha).2.1 state data h)
  obtain ⟨req, rfl⟩ := not_forall_not.1 ha
  rw [AuthRun.next] at h
  rcases socialAuthGuard_cases s req with ⟨answer, hs, -⟩ | ⟨hstart, hs⟩ | ⟨used, _, -, -, hs⟩
  · rw [hs] at h
    exact Or.inl h
  · rw [hs] at h
    by_cases hstate : state = s.nextUuid
    · subst hstate
      refine Or.inr ⟨req, rfl, hstart, rfl, ?_⟩
      simpa [AuthRun.handleEntryPoint, AuthRun.saveOAuthStateWithUser, AuthRedis.saveOAuthState,
        SocialAuthRequest.stateData, eq_comm] using h
    · simp [AuthRun.handleEntryPoint, AuthRun.saveOAuthStateWithUser, AuthRedis.saveOAuthState,
        hstate] at h
      exact Or.inl h
  · rw [hs] at h
    by_cases hstate : state = used
    · subst hstate
      simp [AuthRun.calledBack, AuthRedis.saveOAuthCode, AuthRedis.deleteOAuthState] at h
    · simp [AuthRun.calledBack, AuthRedis.saveOAuthCode, AuthRedis.deleteOAuthState, hstate] at h
      exact Or.inl h

/-- A cached code was there before, or a callback is given its pid. -/
theorem next_oauthCode (s : AuthRun) (a : AuthEvent) {pid : Nat} {codeWithIp : CodeWithIp}
    (h : (s.next extractKeyFromUrl a).redis.oauthCodes pid = some codeWithIp) :
    s.redis.oauthCodes pid = some codeWithIp ∨
      ∃ req, a = .socialAuth req ∧ (s.socialAuthGuard req).2 = .ok (some pid) ∧
        codeWithIp.ip = req.ip := by
  by_cases ha : ∀ req, a ≠ .socialAuth req
  · exact Or.inl ((next_other s ha).2.2 pid codeWithIp h)
  obtain ⟨req, rfl⟩ := not_forall_not.1 ha
  rw [AuthRun.next] at h
  rcases socialAuthGuard_cases s req with ⟨answer, hs, -⟩ | ⟨-, hs⟩ | ⟨used, _, -, -, hs⟩
  · rw [hs] at h
    exact Or.inl h
  · rw [hs] at h
    exact Or.inl h
  · rw [hs] at h
    by_cases hpid : pid = s.nextUuid
    · subst hpid
      refine Or.inr ⟨req, rfl, by rw [hs], ?_⟩
      simp [AuthRun.calledBack, AuthRedis.saveOAuthCode] at h
      rw [← h]
    · simp [AuthRun.calledBack, AuthRedis.saveOAuthCode, AuthRedis.deleteOAuthState, hpid] at h
      exact Or.inl h

theorem next_nextUuid (s : AuthRun) (a : AuthEvent) :
    s.nextUuid ≤ (s.next extractKeyFromUrl a).nextUuid := by
  by_cases ha : ∀ req, a ≠ .socialAuth req
  · exact Nat.le_of_eq (next_other s ha).1.symm
  obtain ⟨req, rfl⟩ := not_forall_not.1 ha
  rw [AuthRun.next]
  rcases socialAuthGuard_cases s req with ⟨answer, hs, -⟩ | ⟨-, hs⟩ | ⟨used, _, -, -, hs⟩
  · rw [hs]
  · rw [hs]
    exact Nat.le_succ _
  · rw [hs]
    exact Nat.le_succ _

end VictoryFairy
