import VictoryFairy.Proofs.Auth
import VictoryFairy.Proofs.Credentials

/-!
# Whose flow a social link ends

An entry point saves the provider and the user with the state, but the callback only looks
whether the state is there, and what it saves under the pid is the code and the ip.  So a
link is made for whoever redeems the pid, at whatever provider.

    exists_flow       : a live pid ends a flow that an entry request started
    FlowOf.data       : the state a pid was created from is the one of its entry request
    linksBound_iff    : links are bound exactly when users redeem the pids of their own flows
-/

namespace VictoryFairy

open Runs

section

variable (extractKeyFromUrl : String → Option String) (w : World)

/-- `saveOAuthStateWithUser` saved the data. -/
def WasSaved (data : OAuthState) (events : List AuthEvent) : Prop :=
  Occurs (fun before a => ∃ req, a = .socialAuth req ∧ StartsFlow req ∧
    data = req.stateData (AuthRun.after extractKeyFromUrl w before).nextUuid) events

/-- A callback consumed the saved data and created the pid. -/
def CreatedFrom (pid : Nat) (data : OAuthState) (events : List AuthEvent) : Prop :=
  Occurs (fun before a => ∃ req state redis, a = .socialAuth req ∧ req.state = some state ∧
    getOAuthStateData (AuthRun.after extractKeyFromUrl w before).redis state = .ok (redis, data) ∧
    ((AuthRun.after extractKeyFromUrl w before).socialAuthGuard req).2 = .ok (some pid) ∧
    WasSaved extractKeyFromUrl w data before) events

/-- The request redeems the pid, whatever comes of it. -/
def Redeems (s : AuthRun) (req : SocialPostRequest) (pid : Nat) : Prop :=
  req.provider ∈ SocialProvider ∧ req.pid = some pid ∧
    ∃ redis codeWithIp, getCodeByPid s.redis pid = .ok (redis, codeWithIp)

/-- A link redeems a pid created from a state of the same provider and user, and no link
request redeems one created from a state without a user. -/
def LinksBound (events : List AuthEvent) : Prop :=
  ∀ before userId req later, events = before ++ .handleSocialLink userId req :: later →
    (((AuthRun.after extractKeyFromUrl w before).handleSocialLink userId req).2 = .ok () →
      ∃ pid data, Redeems (AuthRun.after extractKeyFromUrl w before) req pid ∧
        CreatedFrom extractKeyFromUrl w pid data before ∧
        data.provider = req.provider ∧ data.userId = some userId) ∧
    ∀ pid data, Redeems (AuthRun.after extractKeyFromUrl w before) req pid →
      CreatedFrom extractKeyFromUrl w pid data before → data.userId ≠ none

/-- `back` was given the pid and presented the state that `start` was given. -/
def FlowOf (start back : SocialAuthRequest) (pid : Nat) (events : List AuthEvent) : Prop :=
  Occurs (fun before a => a = .socialAuth back ∧
    ((AuthRun.after extractKeyFromUrl w before).socialAuthGuard back).2 = .ok (some pid) ∧
    Occurs (fun first b => b = .socialAuth start ∧ StartsFlow start ∧
      back.state = some (AuthRun.after extractKeyFromUrl w first).nextUuid) before) events

/-- The user is there, and nobody has the social account. -/
def CanLink (db : Db) (userId : Nat) (provider : String) (info : SocialUserInfo) : Prop :=
  db.users.find? userId ≠ none ∧ info.sub ≠ "" ∧ info.email ≠ "" ∧
    db.socialAuths.find? (info.sub, provider) = none

/-- A link request with a live pid ends a flow that a user started.  When it comes from the
ip of the callback, the platform knows the code and the account is free, the flow was started
by the same user at the same provider. -/
def LinksOwnFlow (events : List AuthEvent) : Prop :=
  ∀ before userId req later, events = before ++ .handleSocialLink userId req :: later →
    ∀ pid, req.provider ∈ SocialProvider → req.pid = some pid →
      (AuthRun.after extractKeyFromUrl w before).redis.oauthCodes pid ≠ none →
      ∀ start back, FlowOf extractKeyFromUrl w start back pid before →
        start.path.userId ≠ none ∧
        ∀ info, req.ip = back.ip → req.answer = some info →
          CanLink (AuthRun.after extractKeyFromUrl w before).world.db userId req.provider info →
          start.provider = req.provider ∧ start.path.userId = some userId

end

variable {extractKeyFromUrl : String → Option String} {w : World}

/-! ## When a link is made -/

theorem create_iff {userId : Nat} {provider : String} {info : SocialUserInfo}
    (hprovider : provider ∈ SocialProvider) :
    (∃ auth, SocialAuth.create userId provider info.sub info.email false = .ok auth) ↔
      info.sub ≠ "" ∧ info.email ≠ "" := by
  have hne : provider ≠ "" := by
    rintro rfl
    exact absurd hprovider (by decide)
  unfold SocialAuth.create
  by_cases hempty : info.email = "" ∨ info.sub = "" ∨ provider = ""
  · rw [if_pos hempty]
    refine ⟨nofun, fun h => ?_⟩
    rcases hempty with he | he | he
    · exact absurd he h.2
    · exact absurd he h.1
    · exact absurd he hne
  · rw [if_neg hempty, if_neg (not_not.2 hprovider)]
    rw [not_or, not_or] at hempty
    exact ⟨fun _ => ⟨hempty.2.1, hempty.1⟩, fun _ => ⟨_, rfl⟩⟩

theorem linkSocial_iff {db : Db} {userId : Nat} {provider : String} {info : SocialUserInfo}
    (hprovider : provider ∈ SocialProvider) :
    (∃ db', linkSocial db ⟨info.sub, provider, userId, info.email, false⟩ = .ok db') ↔
      CanLink db userId provider info := by
  constructor
  · rintro ⟨db', h⟩
    obtain ⟨huser, hcreate, hfresh, -⟩ := linkSocial_ok h
    obtain ⟨hsub, hemail⟩ := (create_iff hprovider).1 ⟨_, hcreate⟩
    exact ⟨Option.isSome_iff_ne_none.1 huser, hsub, hemail, hfresh⟩
  · rintro ⟨huser, hsub, hemail, hfree⟩
    obtain ⟨user, hfind⟩ := Option.ne_none_iff_exists'.1 huser
    obtain ⟨auth, hauth⟩ : ∃ auth, SocialAuth.create user.id provider info.sub info.email false =
        .ok auth := (create_iff hprovider).2 ⟨hsub, hemail⟩
    have hkey : auth.key = (info.sub, provider) := by
      rw [SocialAuth.create_ok hauth]
      rfl
    have hnew : ((db.socialAuthsOf user.id 0).any fun a =>
        a.provider = provider && a.sub = info.sub) = false := by
      rw [List.any_eq_false]
      intro a ha hsame
      have hmem := (List.mem_filter.1 (List.mem_rotate.1 ha)).1
      have hk : a.key = (info.sub, provider) := by
        rw [Bool.and_eq_true, decide_eq_true_iff, decide_eq_true_iff] at hsame
        exact Prod.ext hsame.2 hsame.1
      rw [← hk, Table.find?_of_mem hmem] at hfree
      cases hfree
    refine ⟨{ db with socialAuths := db.socialAuths.save auth }, ?_⟩
    unfold linkSocial
    refine bind_eq_ok.2 ⟨user, by rw [loadUser, hfind], bind_eq_ok.2 ⟨auth, ?_, ?_⟩⟩
    · unfold User.addSocialAuth
      rw [hnew]
      exact hauth
    · unfold Db.insertSocialAuth
      rw [Table.insert?_eq_some.2 ⟨by rw [hkey]; exact hfree, rfl⟩]

theorem redeems_iff {s : AuthRun} {req : SocialPostRequest} {pid : Nat} :
    Redeems s req pid ↔
      req.provider ∈ SocialProvider ∧ req.pid = some pid ∧ s.redis.oauthCodes pid ≠ none := by
  unfold Redeems
  simp [getCodeByPid_ok, Option.ne_none_iff_exists']

/-- A link is made from the callback's ip, with a code that the platform knows. -/
theorem handleSocialLink_iff {s : AuthRun} {userId : Nat} {req : SocialPostRequest} :
    (s.handleSocialLink userId req).2 = .ok () ↔
      ∃ pid codeWithIp info, req.provider ∈ SocialProvider ∧ req.pid = some pid ∧
        s.redis.oauthCodes pid = some codeWithIp ∧ req.ip = codeWithIp.ip ∧
        req.answer = some info ∧ CanLink s.world.db userId req.provider info := by
  unfold AuthRun.handleSocialLink
  rcases socialPostGuard_cases s req with
    ⟨e, hs, hdead⟩ | ⟨pid, codeWithIp, hprovider, hpid, hcode, hs, hok⟩
  · rw [hs]
    refine ⟨nofun, ?_⟩
    rintro ⟨pid, codeWithIp, info, hprovider, hpid, hcode, -⟩
    rw [hdead pid hprovider hpid] at hcode
    cases hcode
  · generalize s.socialPostGuard req = guarded at hs hok
    obtain ⟨s', e | info⟩ := guarded
    · refine ⟨nofun, ?_⟩
      rintro ⟨pid', codeWithIp', info, -, hpid', hcode', hip, hanswer, -⟩
      obtain rfl := Option.some.inj (hpid.symm.trans hpid')
      obtain rfl := Option.some.inj (hcode.symm.trans hcode')
      exact nomatch (hok info).2 ⟨hip, hanswer⟩
    · obtain rfl : s' = { s with redis := s.redis.deleteOAuthCode pid } := hs
      obtain ⟨hip, hanswer⟩ := (hok info).1 rfl
      dsimp only
      have hlink : (∃ db', linkSocial s.world.db ⟨info.sub, req.provider, userId, info.email, false⟩ =
          .ok db') ↔ CanLink s.world.db userId req.provider info := linkSocial_iff hprovider
      constructor
      · intro h
        refine ⟨pid, codeWithIp, info, hprovider, hpid, hcode, hip, hanswer, hlink.1 ?_⟩
        cases hdb : linkSocial s.world.db ⟨info.sub, req.provider, userId, info.email, false⟩ with
        | error e =>
          rw [hdb] at h
          cases h
        | ok db' => exact ⟨db', rfl⟩
      · rintro ⟨_, _, info', -, -, -, -, hanswer', hcan⟩
        obtain rfl := Option.some.inj (hanswer.symm.trans hanswer')
        obtain ⟨db', hdb⟩ := hlink.2 hcan
        rw [hdb]

/-! ## Flows -/

theorem guard_pid {s : AuthRun} {req : SocialAuthRequest} {pid : Nat}
    (h : (s.socialAuthGuard req).2 = .ok (some pid)) :
    pid = s.nextUuid ∧ (s.socialAuthGuard req).1.nextUuid = s.nextUuid + 1 ∧
      ∃ state data, req.state = some state ∧ s.redis.oauthStates state = some data := by
  rcases socialAuthGuard_cases s req with ⟨answer, hs, hno⟩ | ⟨-, hs⟩ | ⟨state, data, hst, hdata, hs⟩
  · rw [hs] at h
    exact absurd h (hno pid)
  · rw [hs] at h
    cases h
  · rw [hs] at h ⊢
    cases h
    exact ⟨rfl, rfl, state, data, hst, hdata⟩

/-- A cached state was saved for an entry request. -/
theorem wasSaved_of_state {events : List AuthEvent} {state : Nat} {data : OAuthState}
    (h : (AuthRun.after extractKeyFromUrl w events).redis.oauthStates state = some data) :
    data.state = state ∧ WasSaved extractKeyFromUrl w data events := by
  have hsaved := occurs_of_run (P := fun s : AuthRun => s.redis.oauthStates state = some data)
    (fun h => nomatch (h : none = some data)) h
  have hnew : ∀ before a,
      ¬ (AuthRun.after extractKeyFromUrl w before).redis.oauthStates state = some data ∧
        ((AuthRun.after extractKeyFromUrl w before).next extractKeyFromUrl a).redis.oauthStates
          state = some data →
      ∃ req, a = .socialAuth req ∧ StartsFlow req ∧
        state = (AuthRun.after extractKeyFromUrl w before).nextUuid ∧ data = req.stateData state := by
    rintro before a ⟨hbefore, hafter⟩
    exact (next_oauthState _ a hafter).resolve_left hbefore
  constructor
  · obtain ⟨before, a, -, -, hchange⟩ := hsaved
    obtain ⟨req, -, -, -, rfl⟩ := hnew before a hchange
    rfl
  · refine hsaved.imp fun before a hchange => ?_
    obtain ⟨req, rfl, hstart, rfl, rfl⟩ := hnew before a hchange
    exact ⟨req, rfl, hstart, rfl⟩

/-- A pid that was created ends a flow. -/
theorem CreatedFrom.flow {events : List AuthEvent} {pid : Nat} {data : OAuthState}
    (h : CreatedFrom extractKeyFromUrl w pid data events) :
    ∃ start back, FlowOf extractKeyFromUrl w start back pid events ∧
      data.provider = start.provider ∧ data.userId = start.path.userId := by
  obtain ⟨before, a, later, hevents, back, state, redis, rfl, hstate, hdata, hpid, hsaved⟩ := h
  have hcached := (getOAuthStateData_ok.1 hdata).1
  obtain ⟨first, b, between, hbefore, start, rfl, hstart, rfl⟩ := hsaved
  have hown := (wasSaved_of_state hcached).1
  refine ⟨start, back, ⟨before, _, later, hevents, rfl, hpid, first, _, between, hbefore, rfl,
    hstart, ?_⟩, rfl, rfl⟩
  rw [hstate, ← hown]
  rfl

/-- A callback that was given a pid consumed a state that was saved. -/
theorem createdFrom_of_guard {before later : List AuthEvent} {back : SocialAuthRequest} {pid : Nat}
    (hpid : ((AuthRun.after extractKeyFromUrl w before).socialAuthGuard back).2 = .ok (some pid)) :
    ∃ data, CreatedFrom extractKeyFromUrl w pid data (before ++ .socialAuth back :: later) := by
  obtain ⟨-, -, state, data, hstate, hdata⟩ := guard_pid hpid
  exact ⟨data, before, _, later, rfl, back, state, _, rfl, hstate,
    getOAuthStateData_ok.2 ⟨hdata, rfl⟩, hpid, (wasSaved_of_state hdata).2⟩

/-- A pid ends one flow. -/
theorem FlowOf.unique {events : List AuthEvent} {start back start' back' : SocialAuthRequest}
    {pid : Nat} (h : FlowOf extractKeyFromUrl w start back pid events)
    (h' : FlowOf extractKeyFromUrl w start' back' pid events) : start = start' ∧ back = back' := by
  obtain ⟨before, a, later, hevents, rfl, hpid, first, b, between, hfirst, rfl, hstart, hst⟩ := h
  obtain ⟨before', a', later', hevents', rfl, hpid', first', b', between', hfirst', rfl, hstart',
    hst'⟩ := h'
  obtain ⟨hn, hnext, -⟩ := guard_pid hpid
  obtain ⟨hn', hnext', -⟩ := guard_pid hpid'
  obtain ⟨rfl, hback⟩ := draw_unique next_nextUuid hevents hevents'
    (Nat.lt_of_lt_of_eq (Nat.lt_succ_self _) hnext.symm)
    (Nat.lt_of_lt_of_eq (Nat.lt_succ_self _) hnext'.symm) (hn.symm.trans hn')
  cases hback
  have hdraw : ∀ {req : SocialAuthRequest} (s : AuthRun), StartsFlow req →
      s.nextUuid < (s.next extractKeyFromUrl (.socialAuth req)).nextUuid := by
    intro req s hreq
    rw [AuthRun.next, hreq.guard s]
    exact Nat.lt_succ_self _
  obtain ⟨-, hsame⟩ := draw_unique next_nextUuid hfirst hfirst' (hdraw _ hstart) (hdraw _ hstart')
    (Option.some.inj (hst.symm.trans hst'))
  cases hsame
  exact ⟨rfl, rfl⟩

theorem FlowOf.created {events : List AuthEvent} {start back : SocialAuthRequest} {pid : Nat}
    (h : FlowOf extractKeyFromUrl w start back pid events) :
    ∃ data, CreatedFrom extractKeyFromUrl w pid data events := by
  obtain ⟨before, a, later, rfl, rfl, hpid, -⟩ := h
  exact createdFrom_of_guard hpid

/-- The pid was created from what its entry request saved. -/
theorem FlowOf.data {events : List AuthEvent} {start back : SocialAuthRequest} {pid : Nat}
    {data : OAuthState} (h : FlowOf extractKeyFromUrl w start back pid events)
    (hdata : CreatedFrom extractKeyFromUrl w pid data events) :
    data.provider = start.provider ∧ data.userId = start.path.userId := by
  obtain ⟨start', back', hflow, hfields⟩ := hdata.flow
  rw [(h.unique hflow).1]
  exact hfields

/-- A live pid ends a flow, whose callback came from the ip kept with the code. -/
theorem exists_flow {events : List AuthEvent} {pid : Nat} {codeWithIp : CodeWithIp}
    (h : (AuthRun.after extractKeyFromUrl w events).redis.oauthCodes pid = some codeWithIp) :
    ∃ start back, FlowOf extractKeyFromUrl w start back pid events ∧ codeWithIp.ip = back.ip := by
  obtain ⟨before, a, later, rfl, hbefore, hafter⟩ :=
    occurs_of_run (P := fun s : AuthRun => s.redis.oauthCodes pid = some codeWithIp)
      (fun h => nomatch (h : none = some codeWithIp)) h
  obtain ⟨req, rfl, hpid, hip⟩ := (next_oauthCode _ a hafter).resolve_left hbefore
  obtain ⟨data, hcreated⟩ : ∃ data, CreatedFrom extractKeyFromUrl w pid data
      (before ++ .socialAuth req :: later) := createdFrom_of_guard hpid
  obtain ⟨start, back, hflow, -⟩ := hcreated.flow
  -- the callback of the flow is this one
  obtain ⟨bs, b, cs, hevents, rfl, hpid', -⟩ := id hflow
  obtain ⟨hn, hnext, -⟩ := guard_pid hpid
  obtain ⟨hn', hnext', -⟩ := guard_pid hpid'
  obtain ⟨-, hback⟩ := draw_unique next_nextUuid rfl hevents
    (Nat.lt_of_lt_of_eq (Nat.lt_succ_self _) hnext.symm)
    (Nat.lt_of_lt_of_eq (Nat.lt_succ_self _) hnext'.symm) (hn.symm.trans hn')
  cases hback
  exact ⟨start, req, hflow, hip⟩

/-! ## Links -/

/-- **Links and flows.**  Every link is bound to the user and the provider that started its
flow exactly when the users redeem the pids of their own flows. -/
theorem linksBound_iff (extractKeyFromUrl : String → Option String) (w : World)
    (events : List AuthEvent) :
    LinksBound extractKeyFromUrl w events ↔ LinksOwnFlow extractKeyFromUrl w events := by
  constructor
  · intro h before userId req later hevents pid hprovider hpid hlive start back hflow
    obtain ⟨hlink, hlogin⟩ := h before userId req later hevents
    obtain ⟨data, hcreated⟩ := hflow.created
    refine ⟨?_, fun info hip hanswer hcan => ?_⟩
    · rw [← (hflow.data hcreated).2]
      exact hlogin pid data (redeems_iff.2 ⟨hprovider, hpid, hlive⟩) hcreated
    · obtain ⟨codeWithIp, hcode⟩ := Option.ne_none_iff_exists'.1 hlive
      obtain ⟨start', back', hflow', hback⟩ := exists_flow hcode
      have hsame : req.ip = codeWithIp.ip := by rw [hip, hback, (hflow.unique hflow').2]
      obtain ⟨pid', data', ⟨-, hpid', -⟩, hcreated', hp, hu⟩ := hlink (handleSocialLink_iff.2
        ⟨pid, codeWithIp, info, hprovider, hpid, hcode, hsame, hanswer, hcan⟩)
      obtain rfl := Option.some.inj (hpid.symm.trans hpid')
      obtain ⟨hp', hu'⟩ := hflow.data hcreated'
      exact ⟨hp'.symm.trans hp, hu'.symm.trans hu⟩
  · intro h before userId req later hevents
    refine ⟨fun hok => ?_, fun pid data hredeems hcreated => ?_⟩
    · obtain ⟨pid, codeWithIp, info, hprovider, hpid, hcode, hip, hanswer, hcan⟩ :=
        handleSocialLink_iff.1 hok
      have hlive : (AuthRun.after extractKeyFromUrl w before).redis.oauthCodes pid ≠ none := by
        rw [hcode]
        exact nofun
      obtain ⟨start, back, hflow, hback⟩ := exists_flow hcode
      obtain ⟨-, hown⟩ :=
        h before userId req later hevents pid hprovider hpid hlive start back hflow
      obtain ⟨hp, hu⟩ := hown info (hip.trans hback) hanswer hcan
      obtain ⟨data, hcreated⟩ := hflow.created
      obtain ⟨hp', hu'⟩ := hflow.data hcreated
      exact ⟨pid, data, redeems_iff.2 ⟨hprovider, hpid, hlive⟩, hcreated, hp'.trans hp, hu'.trans hu⟩
    · obtain ⟨hprovider, hpid, hlive⟩ := redeems_iff.1 hredeems
      obtain ⟨start, back, hflow, -, hu⟩ := hcreated.flow
      rw [hu]
      exact (h before userId req later hevents pid hprovider hpid hlive start back hflow).1

/-- Two fans sign up, and the first one starts to link a Google account. -/
def linkStarted : List AuthEvent :=
  [.event (.request (.registerLocalUser ⟨"fan@test", "pw", "", "fan", 1⟩ ⟨1, "h1", fun _ => 0⟩ 2025)),
   .event (.request (.registerLocalUser ⟨"fairy@test", "pw", "", "fairy", 1⟩ ⟨2, "h2", fun _ => 0⟩ 2025)),
   .socialAuth ⟨.link 1, "google", false, none, none, "ip"⟩,
   .socialAuth ⟨.callback .link, "google", false, some "code", some 0, "ip"⟩]

/-- The second fan redeems the pid. -/
def linkStolen : SocialPostRequest := ⟨"google", some 1, "ip", some ⟨"sub", "fan@gmail.test"⟩⟩

/-- The account of the first fan is linked to the second. -/
theorem linkStolen_unbound :
    ¬ LinksBound (fun _ => none) (World.start twoTeams .empty .empty .empty)
      (linkStarted ++ [.handleSocialLink 2 linkStolen]) := by
  intro h
  have hflow : FlowOf (fun _ => none) (World.start twoTeams .empty .empty .empty)
      ⟨.link 1, "google", false, none, none, "ip"⟩
      ⟨.callback .link, "google", false, some "code", some 0, "ip"⟩ 1 linkStarted :=
    ⟨linkStarted.take 3, _, [], rfl, rfl, by decide, linkStarted.take 2, _, [], rfl, rfl,
      ⟨by decide, by decide⟩, by decide⟩
  obtain ⟨pid, data, ⟨-, hpid, -⟩, hcreated, -, hu⟩ := (h linkStarted 2 linkStolen [] rfl).1 (by decide)
  obtain rfl := Option.some.inj hpid
  rw [(hflow.data hcreated).2] at hu
  exact absurd hu (by decide)

end VictoryFairy
