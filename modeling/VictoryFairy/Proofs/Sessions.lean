import Mathlib.Data.List.TakeWhile
import Mathlib.Logic.Equiv.List
import VictoryFairy.Lib.Past
import VictoryFairy.Model.Sessions
import VictoryFairy.Proofs.Accounts
import VictoryFairy.Proofs.SocialLogin
import VictoryFairy.Proofs.UserLookup
import VictoryFairy.Proofs.Users

/-!
# Who holds a session

A token tells its kind itself, so a token of one kind opens no door of the other, even
where the two secrets are the same.  What a guard lets in was therefore sent by a login
or, with a refresh token, by `token/issue`, and not too long ago.

    issued_step               : who is sent a token
    verified_origin           : what a token that is verified goes back to
    access_token_origin       : a request that is let in goes back to a login of its user
    deleted_user_loses_access : nobody is let in for a user who is gone
    session_lasts             : until it expires a refresh token gives access tokens
-/

namespace VictoryFairy

open Runs

/-- A signed token is verified with its own secret until it expires, and with no other; its
letters are those of base64url and the dot. -/
structure JwtService.Sound (jwt : JwtService) : Prop where
  verify_sign : ∀ payload secret iat expiresIn secret' now,
    jwt.verify (jwt.sign payload secret iat expiresIn) secret' now =
      if secret' = secret ∧ now < iat + expiresIn then some payload else none
  sign_ne_empty : ∀ payload secret iat expiresIn, jwt.sign payload secret iat expiresIn ≠ ""
  sign_no_blank : ∀ payload secret iat expiresIn,
    ' ' ∉ (jwt.sign payload secret iat expiresIn).toList

theorem TokenKind.type_inj {kind kind' : TokenKind} (h : kind.type = kind'.type) : kind = kind' := by
  cases kind <;> cases kind' <;> first | rfl | cases h

namespace Sessions

section

variable (deps : AuthDeps)

/-- The event is a login of the user. -/
def LogsIn (s : Sessions) (user : User) : SessionEvent → Prop
  | .localLogin email password => loginLocalUser deps.compare s.world.db email password = .ok user
  | .handleSocialLogin sub providerEmail provider pick env year => ∃ db isNewUser,
      loginSocialUser s.world.db sub providerEmail provider pick env year = .ok (db, user, isNewUser)
  | _ => False

/-- The event sends the user a token of the kind. -/
def Sends (s : Sessions) (kind : TokenKind) (user : User) : SessionEvent → Prop
  | .reissueAcToken cookie => kind = .access ∧ s.world.db.users.find? user.id = some user ∧
      ∃ email, s.refreshTokenGuard deps cookie = .ok (user.id, email)
  | e => LogsIn deps s user e

/-- Nobody else signs with the secret: a token that is verified was sent before. -/
def Unforged (s : Sessions) (kind : TokenKind) (token : String) : Prop :=
  ∀ payload, s.verifyAsync deps kind token = some payload → token ∈ s.issued

/-- The cookies of requests are not forged. -/
def NoForgery (s : Sessions) : SessionEvent → Prop
  | .reissueAcToken (some token) => Unforged deps s .refresh token
  | _ => True

variable {deps} {s : Sessions}

/-! ## What the guards let in -/

theorem accessTokenGuard_ok {header : Option String} {id : Nat} {email : String}
    (h : s.accessTokenGuard deps header = .ok (id, email)) :
    ∃ token, (splitHeader (header.getD "")).2 = some token ∧
      s.verifyAsync deps .access token = some ⟨id, email, .ac⟩ := by
  unfold accessTokenGuard at h
  dsimp only at h
  split at h
  · cases h
  split at h
  · cases h
  cases htoken : (splitHeader (header.getD "")).2 with
  | none =>
    rw [htoken] at h
    cases h
  | some token =>
    rw [htoken] at h
    obtain ⟨payload, hpayload, h⟩ := bind_eq_ok.1 h
    refine ⟨token, rfl, ?_⟩
    unfold validateToken at hpayload
    cases hverify : s.verifyAsync deps .access token with
    | none =>
      rw [hverify] at hpayload
      cases hpayload
    | some payload' =>
      rw [hverify] at hpayload
      cases hpayload
      split at h
      · next htype =>
        cases h
        rw [← htype]
      · cases h

theorem refreshTokenGuard_ok {cookie : Option String} {id : Nat} {email : String}
    (h : s.refreshTokenGuard deps cookie = .ok (id, email)) :
    ∃ token, cookie = some token ∧
      s.verifyAsync deps .refresh token = some ⟨id, email, .rf⟩ := by
  unfold refreshTokenGuard canActivate at h
  dsimp only at h
  split at h
  · cases h
  next hne =>
  cases cookie with
  | none => exact absurd rfl hne
  | some token =>
    obtain ⟨payload, hpayload, h⟩ := bind_eq_ok.1 h
    obtain ⟨profile, -, h⟩ := bind_eq_ok.1 h
    refine ⟨token, rfl, ?_⟩
    unfold validateToken at hpayload
    rw [Option.getD_some] at hpayload
    cases hverify : s.verifyAsync deps .refresh token with
    | none =>
      rw [hverify] at hpayload
      cases hpayload
    | some payload' =>
      rw [hverify] at hpayload
      cases hpayload
      split at h
      · next htype =>
        cases h
        rw [← htype]
      · cases h

/-! ## Who is sent a token -/

theorem reissueAcToken_ok {cookie : Option String} {acToken : String}
    (h : s.reissueAcToken deps cookie = .ok acToken) :
    ∃ user email, s.refreshTokenGuard deps cookie = .ok (user.id, email) ∧
      s.world.db.users.find? user.id = some user ∧
      acToken = issueToken deps s.time user .access := by
  unfold reissueAcToken at h
  obtain ⟨⟨userId, email⟩, hguard, h⟩ := bind_eq_ok.1 h
  obtain ⟨user, huser, h⟩ := bind_eq_ok.1 h
  cases h
  unfold getUserWithSupportTeam at huser
  split at huser
  · cases huser
  · next user' hfind =>
    cases huser
    have hid : user.id = userId := Table.find?_key hfind
    subst hid
    exact ⟨user, email, hguard, hfind, rfl⟩

/-- A token is sent by an event that sends one to some user. -/
theorem issued_step {e : SessionEvent} {token : String}
    (h : token ∈ (s.step deps e).issued) :
    token ∈ s.issued ∨ ∃ kind user, Sends deps s kind user e ∧
      token = issueToken deps s.time user kind := by
  have hlogin : ∀ {s' : Sessions} {user : User}, s'.issued = s.issued → s'.time = s.time →
      LogsIn deps s user e → (∀ kind, LogsIn deps s user e →
        Sends deps s kind user e) → token ∈ (s'.sendTokens deps user).issued →
      token ∈ s.issued ∨ ∃ kind user, Sends deps s kind user e ∧
        token = issueToken deps s.time user kind := by
    intro s' user hissued htime hlog hsends hmem
    unfold sendTokens at hmem
    rw [hissued, htime] at hmem
    rcases List.mem_append.1 hmem with hmem | hmem
    · exact Or.inl hmem
    · rcases List.mem_cons.1 hmem with rfl | hmem
      · exact Or.inr ⟨.refresh, user, hsends _ hlog, rfl⟩
      · exact Or.inr ⟨.access, user, hsends _ hlog, List.mem_singleton.1 hmem⟩
  cases e with
  | elapse ms | event e => exact Or.inl h
  | localLogin email password =>
    unfold step at h
    dsimp only at h
    split at h
    · exact Or.inl h
    · next user huser => exact hlogin rfl rfl huser (fun _ hlog => hlog) h
  | handleSocialLogin sub providerEmail provider pick env year =>
    unfold step at h
    dsimp only at h
    split at h
    · exact Or.inl h
    · next db user isNewUser huser =>
      exact hlogin rfl rfl ⟨db, isNewUser, huser⟩ (fun _ hlog => hlog) h
  | reissueAcToken cookie =>
    unfold step at h
    dsimp only at h
    split at h
    · exact Or.inl h
    · next acToken hreissue =>
      rcases List.mem_append.1 h with h | h
      · exact Or.inl h
      · obtain ⟨user, email, hguard, hfind, rfl⟩ := reissueAcToken_ok hreissue
        exact Or.inr ⟨.access, user, ⟨rfl, hfind, email, hguard⟩, List.mem_singleton.1 h⟩

theorem mem_of_loginLocalUser {db : Db} {email password : String} {user : User}
    (h : loginLocalUser deps.compare db email password = .ok user) : user ∈ db.users.rows := by
  unfold loginLocalUser at h
  split at h
  · cases h
  · next user' hfind =>
    split at h
    · cases h
      exact List.mem_of_find?_eq_some hfind
    · cases h

theorem mem_of_loginSocialUser {db db' : Db} {sub email provider : String} {pick : Nat}
    {env : SignUpEnv} {year : Nat} {user : User} {isNewUser : Bool}
    (h : loginSocialUser db sub email provider pick env year = .ok (db', user, isNewUser)) :
    user ∈ db'.users.rows := by
  rcases loginSocialUser_ok h with ⟨rfl, rfl⟩ | ⟨-, db1, k, hsigned, hrank, -, -⟩
  · unfold loginSocialUser at h
    obtain ⟨found, hfound, h⟩ := bind_eq_ok.1 h
    cases found with
    | none =>
      obtain ⟨⟨db1, user1⟩, -, h⟩ := bind_eq_ok.1 h
      obtain ⟨db2, -, h⟩ := bind_eq_ok.1 h
      cases h
    | some u =>
      cases h
      rcases findSocialUserOrValidate_cases db' sub provider email pick with
        ⟨hnone, -⟩ | ⟨found, hmem, ⟨hok, -⟩ | ⟨herror, -⟩⟩
      · rw [hnone] at hfound
        cases hfound
      · rw [hok] at hfound
        cases hfound
        exact hmem
      · rw [herror] at hfound
        cases hfound
  · obtain ⟨rows, hw, -⟩ := insertRankIfAbsent_ok hrank
    rw [hw.users, hsigned.users]
    exact Table.mem_save.2 (Or.inl rfl)

/-- A user who is sent a token is stored afterwards. -/
theorem Sends.stored {kind : TokenKind} {user : User} {e : SessionEvent}
    (h : Sends deps s kind user e) :
    user ∈ (s.step deps e).world.db.users.rows := by
  cases e with
  | elapse ms | event e => exact absurd h id
  | localLogin email password =>
    have hlogin : loginLocalUser deps.compare s.world.db email password = .ok user := h
    unfold step
    dsimp only
    rw [hlogin]
    exact mem_of_loginLocalUser hlogin
  | handleSocialLogin sub providerEmail provider pick env year =>
    obtain ⟨db, isNewUser, hlogin⟩ : ∃ db isNewUser,
      loginSocialUser s.world.db sub providerEmail provider pick env year = .ok (db, user, isNewUser) := h
    unfold step
    dsimp only
    rw [hlogin]
    show user ∈ (s.world.step deps.extractKeyFromUrl
      (.loginSocialUser sub providerEmail provider pick env year)).db.users.rows
    rw [World.step_db]
    show user ∈ (committed _ _).users.rows
    rw [committed_ok hlogin]
    exact mem_of_loginSocialUser hlogin
  | reissueAcToken cookie =>
    obtain ⟨-, hfind, -⟩ := h
    have hmem := (Table.find?_eq_some.1 hfind).1
    unfold step
    dsimp only
    split <;> exact hmem

/-- A token is sent by a login, or it is an access token that a cookie was let in for. -/
theorem Sends.cases {kind : TokenKind} {user : User} {e : SessionEvent}
    (h : Sends deps s kind user e) : LogsIn deps s user e ∨
      ∃ cookie email, e = .reissueAcToken cookie ∧
        s.refreshTokenGuard deps cookie = .ok (user.id, email) := by
  cases e with
  | reissueAcToken cookie => exact Or.inr ⟨cookie, h.2.2.choose, rfl, h.2.2.choose_spec⟩
  | elapse ms | event e => exact absurd h id
  | localLogin email password => exact Or.inl h
  | handleSocialLogin sub providerEmail provider pick env year => exact Or.inl h

/-- A refresh token is sent by a login. -/
theorem Sends.login {user : User} {e : SessionEvent}
    (h : Sends deps s .refresh user e) : LogsIn deps s user e := by
  rcases h.cases with hlogin | ⟨cookie, email, rfl, -⟩
  · exact hlogin
  · cases h.1

theorem time_step (s : Sessions) (e : SessionEvent) :
    s.time ≤ (s.step deps e).time := by
  cases e with
  | elapse ms => exact Nat.le_add_right s.time ms
  | event e => exact Nat.le_refl _
  | localLogin email password | handleSocialLogin sub providerEmail provider pick env year
  | reissueAcToken cookie =>
    unfold step
    dsimp only
    split <;> exact Nat.le_refl _

theorem time_run (deps : AuthDeps) (s : Sessions) (events : List SessionEvent) :
    s.time ≤ (run (step deps) s events).time := by
  induction events generalizing s with
  | nil => exact Nat.le_refl _
  | cons e events ih => exact Nat.le_trans (time_step s e) (ih _)

/-! ## What a token goes back to -/

/-- A token that is verified as one of the kind is one that was issued as one of the kind, to the
user it names and while it lasts. -/
theorem verified_origin (kind : TokenKind) (hsound : deps.jwtService.Sound) {w : World}
    {time : Nat} {events : List SessionEvent} {token : String} {id : Nat} {email : String}
    (hissued : token ∈ (run (step deps) (start w time) events).issued)
    (hverify : (run (step deps) (start w time) events).verifyAsync deps kind token =
      some ⟨id, email, kind.type⟩) :
    Occurs (fun before e => ∃ user,
      Sends deps (run (step deps) (start w time) before) kind user e ∧
      token = issueToken deps (run (step deps) (start w time) before).time user kind ∧ user.id = id ∧
      user.email = email ∧ seconds (run (step deps) (start w time) events).time <
        seconds (run (step deps) (start w time) before).time + deps.config.exTime kind) events := by
  have hsent := occurs_of_run (P := fun s : Sessions => token ∈ s.issued)
    List.not_mem_nil hissued
  refine hsent.imp fun before e h => ?_
  obtain ⟨hbefore, hafter⟩ := h
  obtain ⟨kind', user, hsends, rfl⟩ := (issued_step hafter).resolve_left hbefore
  unfold verifyAsync issueToken at hverify
  rw [hsound.verify_sign] at hverify
  split at hverify
  · next hvalid =>
    simp only [Option.some.injEq, IJwtPayload.mk.injEq] at hverify
    obtain ⟨hid, hemail, htype⟩ := hverify
    obtain rfl := TokenKind.type_inj htype
    exact ⟨user, hsends, rfl, hid, hemail, hvalid.2⟩
  · cases hverify

/-- Cookies that are not forged were sent before, also at an earlier point of the run. -/
theorem NoForgery.issued {s : Sessions} {cookie : Option String} {id : Nat} {email : String}
    (hf : NoForgery deps s (.reissueAcToken cookie))
    (h : s.refreshTokenGuard deps cookie = .ok (id, email)) :
    ∃ token ∈ s.issued, s.verifyAsync deps .refresh token = some ⟨id, email, .rf⟩ := by
  obtain ⟨token, rfl, hverify⟩ := refreshTokenGuard_ok h
  exact ⟨token, hf _ hverify, hverify⟩

/-- **What an access token goes back to.**  Where nobody forges tokens, the token of a request that
is let in was issued and sent to its user less than the access time ago, when the user was stored,
and the user has logged in less than both times ago. -/
theorem access_token_origin (deps : AuthDeps) (hsound : deps.jwtService.Sound) (w : World)
    (time : Nat) (events : List SessionEvent)
    (hforged : Guarded (step deps) (NoForgery deps) (start w time) events)
    (authorization : Option String) (id : Nat) (email : String)
    (hunforged : ∀ token, (splitHeader (authorization.getD "")).2 = some token →
      Unforged deps (run (step deps) (start w time) events) .access token)
    (h : (run (step deps) (start w time) events).accessTokenGuard deps authorization =
      .ok (id, email)) :
    Occurs (fun before e => ∃ user,
      user ∈ (run (step deps) (start w time) (before ++ [e])).world.db.users.rows ∧
      user.id = id ∧ user.email = email ∧
      Sends deps (run (step deps) (start w time) before) .access user e ∧
      (splitHeader (authorization.getD "")).2 =
        some (issueToken deps (run (step deps) (start w time) before).time user .access) ∧
      seconds (run (step deps) (start w time) events).time <
        seconds (run (step deps) (start w time) before).time + deps.config.accessExpireTime) events ∧
    Occurs (fun before e => ∃ user, user.id = id ∧
      LogsIn deps (run (step deps) (start w time) before) user e ∧
      seconds (run (step deps) (start w time) events).time <
        seconds (run (step deps) (start w time) before).time + deps.config.refreshExpireTime +
          deps.config.accessExpireTime) events := by
  obtain ⟨token, htoken, hverify⟩ := accessTokenGuard_ok h
  have hsent := verified_origin .access hsound (hunforged token htoken _ hverify) hverify
  refine ⟨hsent.imp fun before e hsend => ?_, ?_⟩
  · obtain ⟨user, hsends, hissued, hid, hemail, hlt⟩ := hsend
    refine ⟨user, ?_, hid, hemail, hsends, hissued ▸ htoken, hlt⟩
    rw [run_concat]
    exact hsends.stored
  · obtain ⟨before, e, after, rfl, user, hsends, -, hid, hemail, hlt⟩ := hsent
    have hwhole : ∀ {E : List SessionEvent → SessionEvent → Prop}, Occurs E before →
        Occurs E (before ++ e :: after) := by
      rintro E ⟨bs, b, cs, rfl, hE⟩
      exact ⟨bs, b, cs ++ e :: after, by simp, hE⟩
    have hac : deps.config.exTime .access = deps.config.accessExpireTime := rfl
    have hre : deps.config.exTime .refresh = deps.config.refreshExpireTime := rfl
    rcases hsends.cases with hlogin | ⟨cookie, email', rfl, hguard⟩
    · exact ⟨before, e, after, rfl, user, hid, hlogin, by omega⟩
    · -- the refresh token goes back further, to a login
      obtain ⟨-, hcookie, -⟩ := (guarded_append _ _ _).1 hforged
      obtain ⟨rfToken, hissued, hrf⟩ := NoForgery.issued hcookie hguard
      have horigin := verified_origin .refresh hsound hissued hrf
      refine hwhole (horigin.imp fun before' e' h' => ?_)
      obtain ⟨user', hsends', -, hid', -, hlt'⟩ := h'
      exact ⟨user', hid'.trans hid, hsends'.login, by omega⟩

/-- **Deleted users.**  While a user is not stored, nobody is let in for the user once the access
time has passed. -/
theorem deleted_user_loses_access (deps : AuthDeps) (hsound : deps.jwtService.Sound) (w : World)
    (time : Nat) (before after : List SessionEvent) (id : Nat)
    (hgone : Always (step deps) (fun s => s.world.db.users.find? id = none)
      (run (step deps) (start w time) before) after)
    (hlate : seconds (run (step deps) (start w time) before).time + deps.config.accessExpireTime ≤
      seconds (run (step deps) (start w time) (before ++ after)).time)
    (authorization : Option String)
    (hunforged : ∀ token, (splitHeader (authorization.getD "")).2 = some token →
      Unforged deps (run (step deps) (start w time) (before ++ after)) .access token)
    (email : String) :
    (run (step deps) (start w time) (before ++ after)).accessTokenGuard deps authorization ≠
      .ok (id, email) := by
  intro h
  obtain ⟨token, htoken, hverify⟩ := accessTokenGuard_ok h
  obtain ⟨bs, e, cs, hsplit, user, hsends, -, hid, -, hlt⟩ :=
    verified_origin .access hsound (hunforged token htoken _ hverify) hverify
  have hac : deps.config.exTime .access = deps.config.accessExpireTime := rfl
  rcases List.append_eq_append_iff.1 hsplit with ⟨ds, rfl, rfl⟩ | ⟨ds, rfl, hds⟩
  · -- the token was sent while the user was gone
    rw [show ds ++ e :: cs = (ds ++ [e]) ++ cs by simp] at hgone
    have hnone := hgone.before.last
    rw [← run_append, ← List.append_assoc, run_concat] at hnone
    exact Table.find?_eq_none.1 hnone user hsends.stored hid
  · -- or before that, too long ago
    have hle := time_run deps (run (step deps) (start w time) bs) ds
    rw [← run_append] at hle
    have hdiv : seconds (run (step deps) (start w time) bs).time ≤
        seconds (run (step deps) (start w time) (bs ++ ds)).time := Nat.div_le_div_right hle
    omega

/-! ## How long a session lasts -/

theorem refreshTokenGuard_issued (hsound : deps.jwtService.Sound) {time : Nat} {user : User}
    (hvalid : seconds s.time < seconds time + deps.config.refreshExpireTime)
    (hcached : (s.world.redis.userInfo user.id).id = some user.id) :
    s.refreshTokenGuard deps (some (issueToken deps time user .refresh)) =
      .ok (user.id, user.email) := by
  have hverify : s.verifyAsync deps .refresh (issueToken deps time user .refresh) =
      some ⟨user.id, user.email, .rf⟩ := by
    unfold verifyAsync issueToken
    rw [hsound.verify_sign, if_pos ⟨rfl, hvalid⟩]
    rfl
  have huser : ∃ profile, checkUser s.world.redis s.world.db user.id = .ok profile := by
    unfold checkUser
    rw [getUserInfoByIds_eq fun v hv => by rw [List.mem_singleton.1 hv]; exact hcached]
    dsimp only [bind, Except.bind]
    rw [find?_profile List.mem_cons_self]
    exact ⟨_, rfl⟩
  obtain ⟨profile, hprofile⟩ := huser
  have hne : issueToken deps time user .refresh ≠ "" := hsound.sign_ne_empty _ _ _ _
  unfold refreshTokenGuard canActivate validateToken
  dsimp only
  rw [Option.getD_some, if_neg hne, hverify]
  dsimp only [bind, Except.bind]
  rw [hprofile]
  rfl

theorem splitHeader_bearer {token : String} (h : ' ' ∉ token.toList) :
    splitHeader ("Bearer " ++ token) = ("Bearer", some token) := by
  have hlist : ("Bearer " ++ token).toList = "Bearer".toList ++ ' ' :: token.toList := by
    rw [String.toList_append]
    rfl
  have hall : token.toList.takeWhile (fun c => !decide (c = ' ')) = token.toList := by
    refine List.takeWhile_eq_self_iff.2 fun c hc => ?_
    simpa using fun he : c = ' ' => h (he ▸ hc)
  unfold splitHeader
  rw [hlist]
  simp [hall]

theorem accessTokenGuard_issued (hsound : deps.jwtService.Sound) {time : Nat} {user : User}
    (hvalid : seconds s.time < seconds time + deps.config.accessExpireTime) :
    s.accessTokenGuard deps (some ("Bearer " ++ issueToken deps time user .access)) =
      .ok (user.id, user.email) := by
  have hverify : s.verifyAsync deps .access (issueToken deps time user .access) =
      some ⟨user.id, user.email, .ac⟩ := by
    unfold verifyAsync issueToken
    rw [hsound.verify_sign, if_pos ⟨rfl, hvalid⟩]
    rfl
  have hblank : ' ' ∉ (issueToken deps time user .access).toList := hsound.sign_no_blank _ _ _ _
  have hsplit := splitHeader_bearer hblank
  generalize issueToken deps time user .access = token at hverify hsplit ⊢
  have hbearer : ¬ "Bearer".toList.map Char.toLower ≠ "bearer".toList := by decide
  unfold accessTokenGuard validateToken
  dsimp only
  rw [Option.getD_some, hsplit, if_neg (by simp)]
  dsimp only
  rw [if_neg hbearer, hverify]
  rfl

end

/-- **Sessions last.**  Until the refresh time of a login has passed, whatever happens in between,
`token/issue` sends the user a new access token for the cookie of the login, and the token is let
in for the access time.  Both times are seconds; a browser keeps the cookie for as many
milliseconds. -/
theorem session_lasts (deps : AuthDeps) (hsound : deps.jwtService.Sound) (s : Sessions) (user : User)
    (e : SessionEvent) (hlogin : LogsIn deps s user e) (events : List SessionEvent)
    (hkept : seconds (run (step deps) s (e :: events)).time <
      seconds s.time + deps.config.refreshExpireTime)
    (current : User)
    (hstored : (run (step deps) s (e :: events)).world.db.users.find? user.id = some current)
    (hcached : ((run (step deps) s (e :: events)).world.redis.userInfo user.id).id = some user.id) :
    issueToken deps s.time user .refresh ∈ (s.step deps e).issued ∧
    ∃ acToken, (run (step deps) s (e :: events)).reissueAcToken deps
        (some (issueToken deps s.time user .refresh)) = .ok acToken ∧
      ∀ t : Sessions, seconds t.time <
          seconds (run (step deps) s (e :: events)).time + deps.config.accessExpireTime →
        t.accessTokenGuard deps (some ("Bearer " ++ acToken)) = .ok (user.id, current.email) := by
  refine ⟨?_, issueToken deps (run (step deps) s (e :: events)).time current .access, ?_, ?_⟩
  · cases e with
    | elapse ms | event e | reissueAcToken cookie => exact absurd hlogin id
    | localLogin email password =>
      unfold step
      dsimp only
      rw [show loginLocalUser deps.compare s.world.db email password = .ok user from hlogin]
      exact List.mem_append_right _ List.mem_cons_self
    | handleSocialLogin sub providerEmail provider pick env year =>
      obtain ⟨db, isNewUser, h⟩ : ∃ db isNewUser, loginSocialUser s.world.db sub providerEmail
        provider pick env year = .ok (db, user, isNewUser) := hlogin
      unfold step
      dsimp only
      rw [h]
      exact List.mem_append_right _ List.mem_cons_self
  · generalize run (step deps) s (e :: events) = s' at *
    unfold reissueAcToken
    rw [refreshTokenGuard_issued hsound hkept hcached]
    dsimp only [bind, Except.bind]
    unfold getUserWithSupportTeam
    rw [hstored]
    rfl
  · intro t ht
    have hid : current.id = user.id := Table.find?_key hstored
    rw [accessTokenGuard_issued hsound ht, hid]

end Sessions

/-! ## A day of one fan -/

/-- What a token says, in numbers. -/
def tokenCode (payload : IJwtPayload) (secret : String) (iat expiresIn : Nat) :
    (Nat × List Nat × Bool) × List Nat × Nat × Nat :=
  ((payload.id, payload.email.toList.map Char.toNat, payload.type = .ac),
    secret.toList.map Char.toNat, iat, expiresIn)

def textOf (codes : List Nat) : String := String.ofList (codes.map Char.ofNat)

/-- A service that writes a token out in strokes. -/
def strokeJwt : JwtService where
  sign payload secret iat expiresIn :=
    String.ofList (List.replicate (Encodable.encode (tokenCode payload secret iat expiresIn) + 1) 'l')
  verify token secret now :=
    match Encodable.decode (α := (Nat × List Nat × Bool) × List Nat × Nat × Nat)
        (token.toList.length - 1) with
    | none => none
    | some ((id, email, isAccess), secretCode, iat, expiresIn) =>
      if secretCode = secret.toList.map Char.toNat ∧ now < iat + expiresIn then
        some ⟨id, textOf email, if isAccess then .ac else .rf⟩
      else none

theorem textOf_toNat (text : String) : textOf (text.toList.map Char.toNat) = text := by
  unfold textOf
  rw [List.map_map, show Char.ofNat ∘ Char.toNat = id from funext Char.ofNat_toNat, List.map_id,
    String.ofList_toList]

theorem toNat_injective : Function.Injective fun text : String => text.toList.map Char.toNat :=
  fun text text' h => by rw [← textOf_toNat text, ← textOf_toNat text']; exact congrArg textOf h

theorem strokeJwt_sound : strokeJwt.Sound where
  verify_sign payload secret iat expiresIn secret' now := by
    obtain ⟨id, email, type⟩ := payload
    unfold strokeJwt
    dsimp only
    rw [String.toList_ofList, List.length_replicate, Nat.add_sub_cancel, Encodable.encodek]
    dsimp only [tokenCode]
    have hsecret : secret.toList.map Char.toNat = secret'.toList.map Char.toNat ↔ secret' = secret :=
      ⟨fun h => (toNat_injective h).symm, fun h => by rw [h]⟩
    simp only [hsecret, textOf_toNat]
    cases type <;> rfl
  sign_ne_empty payload secret iat expiresIn h := by
    have hlength := congrArg (fun text => text.toList.length) h
    simp [strokeJwt] at hlength
  sign_no_blank payload secret iat expiresIn h := by
    unfold strokeJwt at h
    rw [String.toList_ofList] at h
    exact absurd (List.eq_of_mem_replicate h) (by decide)

namespace Sessions

/-- Both secrets are the same. -/
def strokeDeps : AuthDeps := ⟨strokeJwt, ⟨"key", "key", 3600, 86400⟩, fun a b => a = b, fun _ => none⟩

def fan : User := ⟨7, DEFAULT_PROFILE_IMAGE, "fan", "fan@test", 1⟩

/-- The fan of the league, with a password and a cached profile. -/
def fanWorld : World :=
  ⟨{ leagueDb with localAuths := ⟨[⟨7, "pw"⟩], by decide⟩ }, Redis.empty.saveUsers [fan], []⟩

def fanLogin : SessionEvent := .localLogin "fan@test" "pw"

theorem fan_logsIn : LogsIn strokeDeps (start fanWorld 0) fan fanLogin := by
  show loginLocalUser _ _ _ _ = _
  decide

theorem fan_issued : ((start fanWorld 0).step strokeDeps fanLogin).issued =
    [issueToken strokeDeps 0 fan .refresh, issueToken strokeDeps 0 fan .access] := by
  unfold step fanLogin
  dsimp only
  rw [show loginLocalUser strokeDeps.compare (start fanWorld 0).world.db "fan@test" "pw" = .ok fan
    from fan_logsIn]
  rfl

/-- The tokens of the login are not forged, as long as the server has sent them. -/
theorem fan_unforged {s : Sessions} (h : issueToken strokeDeps 0 fan .access ∈ s.issued) :
    ∀ token, (splitHeader ((some ("Bearer " ++ issueToken strokeDeps 0 fan .access)).getD "")).2 =
      some token → Unforged strokeDeps s .access token := by
  intro token htoken payload _
  have hblank : ' ' ∉ (issueToken strokeDeps 0 fan .access).toList :=
    strokeJwt_sound.sign_no_blank _ _ _ _
  rw [Option.getD_some, splitHeader_bearer hblank] at htoken
  rw [← Option.some.inj htoken]
  exact h

/-- Within the hour the fan is let in, with the token of the login. -/
theorem access_token_origin_fan :
    Occurs (fun before e => ∃ user,
      user ∈ (run (step strokeDeps) (start fanWorld 0) (before ++ [e])).world.db.users.rows ∧
      user.id = 7 ∧ user.email = "fan@test" ∧
      Sends strokeDeps (run (step strokeDeps) (start fanWorld 0) before) .access user e ∧
      (splitHeader ((some ("Bearer " ++ issueToken strokeDeps 0 fan .access)).getD "")).2 = some
        (issueToken strokeDeps (run (step strokeDeps) (start fanWorld 0) before).time user .access) ∧
      seconds (run (step strokeDeps) (start fanWorld 0) [fanLogin, .elapse 1000]).time <
        seconds (run (step strokeDeps) (start fanWorld 0) before).time +
          strokeDeps.config.accessExpireTime) [fanLogin, .elapse 1000] := by
  have hissued : issueToken strokeDeps 0 fan .access ∈
      (run (step strokeDeps) (start fanWorld 0) [fanLogin, .elapse 1000]).issued := by
    show _ ∈ ((start fanWorld 0).step strokeDeps fanLogin).issued
    rw [fan_issued]
    exact List.mem_cons_of_mem _ List.mem_cons_self
  have htime : (run (step strokeDeps) (start fanWorld 0) [fanLogin, .elapse 1000]).time = 1000 := by
    decide
  exact (access_token_origin strokeDeps strokeJwt_sound fanWorld 0 [fanLogin, .elapse 1000]
    ⟨trivial, trivial, trivial⟩ _ 7 "fan@test" (fan_unforged hissued)
    (accessTokenGuard_issued strokeJwt_sound (by rw [htime]; decide))).1

/-- The fan is deleted, and an hour passes. -/
theorem deleted_user_loses_access_fan :
    (run (step strokeDeps) (start fanWorld 0)
      [fanLogin, .event (.event (.request (.deleteUser 7))), .elapse 3600000]).accessTokenGuard
        strokeDeps (some ("Bearer " ++ issueToken strokeDeps 0 fan .access)) ≠ .ok (7, "fan@test") := by
  have hissued : issueToken strokeDeps 0 fan .access ∈ (run (step strokeDeps) (start fanWorld 0)
      [fanLogin, .event (.event (.request (.deleteUser 7))), .elapse 3600000]).issued := by
    show _ ∈ ((start fanWorld 0).step strokeDeps fanLogin).issued
    rw [fan_issued]
    exact List.mem_cons_of_mem _ List.mem_cons_self
  have hgone : (run (step strokeDeps) (start fanWorld 0)
      [fanLogin, .event (.event (.request (.deleteUser 7)))]).world.db.users.find? 7 = none := by
    decide
  exact deleted_user_loses_access strokeDeps strokeJwt_sound fanWorld 0
    [fanLogin, .event (.event (.request (.deleteUser 7)))] [.elapse 3600000] 7 ⟨hgone, hgone⟩
    (by decide) _ (fan_unforged hissued) "fan@test"

/-- In the last second of the day the refresh token of the login gives a new access token. -/
theorem session_lasts_fan :
    ∃ acToken, (run (step strokeDeps) (start fanWorld 0) [fanLogin, .elapse 86399999]).reissueAcToken
      strokeDeps (some (issueToken strokeDeps 0 fan .refresh)) = .ok acToken := by
  obtain ⟨acToken, hok, -⟩ := (session_lasts strokeDeps strokeJwt_sound (start fanWorld 0) fan fanLogin
    fan_logsIn [.elapse 86399999] (by decide) fan (by decide) (by decide)).2
  exact ⟨acToken, hok⟩

end Sessions

end VictoryFairy
