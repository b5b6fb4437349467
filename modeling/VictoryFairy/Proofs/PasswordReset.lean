import VictoryFairy.Proofs.Auth
import VictoryFairy.Proofs.Credentials

/-!
# Changing a password

`PATCH /users/password` takes an e-mail and a password and asks for nothing else.  That the
e-mail was confirmed before is left to the client.

    next_emailCode      : what every event does to the code of an e-mail
    emailCode_iff       : a code is cached when it was mailed and has not ended since
    loginLocalUser_changed, loginLocalUser_other : what a reset does to the logins
    resetsVerified_iff  : resets are verified when the clients confirm their e-mail first
-/

namespace VictoryFairy

open Runs

/-- Somebody with this e-mail has a password. -/
def HasPassword (db : Db) (email : String) : Prop :=
  ∃ user, db.userByEmail email = some user ∧ db.localAuths.find? user.id ≠ none

section

variable (extractKeyFromUrl : String → Option String) (w : World)

/-- The e-mail was verified with a code that was mailed to it. -/
def WasVerified (email : String) (events : List AuthEvent) : Prop :=
  Occurs (fun before a => ∃ code redis, a = .verifyEmailCode email code ∧
    verifyEmailCode (AuthRun.after extractKeyFromUrl w before).redis email code = .ok redis ∧
    .makeCodeAndSendMail email code true ∈ before) events

/-- A password only changes after its e-mail was verified. -/
def ResetsVerified (events : List AuthEvent) : Prop :=
  ∀ before email hashed later, events = before ++ .resetPw email hashed :: later →
    ∀ db, changePassword (AuthRun.after extractKeyFromUrl w before).world.db email hashed = .ok db →
      WasVerified extractKeyFromUrl w email before

/-- The event takes the code away: another one is mailed, it is used, or it expires. -/
def EndsCode (email code : String) : AuthEvent → Prop
  | .makeCodeAndSendMail recipient other sent => recipient = email ∧ sent = true ∧ other ≠ code
  | .verifyEmailCode recipient given => recipient = email ∧ given = code
  | .expireCode recipient => recipient = email
  | _ => False

/-- A client sent back the code it was mailed, in time and before it was mailed another. -/
def Confirmed (email : String) (events : List AuthEvent) : Prop :=
  Occurs (fun before a => ∃ code, code ≠ "" ∧ a = .verifyEmailCode email code ∧
    Since (· = .makeCodeAndSendMail email code true) (EndsCode email code) before) events

/-- A reset for somebody who has a password comes after the e-mail was confirmed. -/
def ResetsConfirmed (events : List AuthEvent) : Prop :=
  ∀ before email hashed later, events = before ++ .resetPw email hashed :: later →
    HasPassword (AuthRun.after extractKeyFromUrl w before).world.db email →
      Confirmed email before

end

variable {extractKeyFromUrl : String → Option String} {w : World}

/-! ## The cached code -/

theorem socialAuthGuard_emailCodes (s : AuthRun) (req : SocialAuthRequest) :
    (s.socialAuthGuard req).1.redis.emailCodes = s.redis.emailCodes := by
  rcases socialAuthGuard_cases s req with ⟨answer, hs, -⟩ | ⟨-, hs⟩ | ⟨state, data, -, -, hs⟩ <;>
    rw [hs] <;> rfl

theorem socialPostGuard_emailCodes (s : AuthRun) (req : SocialPostRequest) :
    (s.socialPostGuard req).1.redis.emailCodes = s.redis.emailCodes := by
  obtain ⟨-, hr | ⟨pid, hr⟩⟩ := socialPostGuard_redis s req <;> rw [hr]
  rfl

theorem verifyEmailCode_ok {redis redis' : AuthRedis} {email code : String} :
    verifyEmailCode redis email code = .ok redis' ↔
      code ≠ "" ∧ redis.emailCodes email = some code ∧
        redis' = redis.deleteVerificationCode email := by
  unfold verifyEmailCode isWrongCode
  cases redis.emailCodes email with
  | none => simp
  | some cached =>
    by_cases hc : cached = code
    · subst hc
      by_cases he : cached = ""
      · simp [he]
      · simp [he, eq_comm]
    · simp [hc]

/-- Mailing a code caches it, and only `EndsCode` takes it away. -/
theorem next_emailCode (s : AuthRun) (a : AuthEvent) {email code : String} (hcode : code ≠ "") :
    (s.next extractKeyFromUrl a).redis.emailCodes email = some code ↔
      a = .makeCodeAndSendMail email code true ∨
        s.redis.emailCodes email = some code ∧ ¬ EndsCode email code a := by
  cases a with
  | socialAuth req => simp [AuthRun.next, EndsCode, socialAuthGuard_emailCodes]
  | handleSocialLink userId req =>
    simp [AuthRun.next, EndsCode, handleSocialLink_stores, socialPostGuard_emailCodes]
  | handleSocialLogin req pick env year =>
    simp [AuthRun.next, EndsCode, handleSocialLogin_stores, socialPostGuard_emailCodes]
  | makeCodeAndSendMail recipient other sent =>
    cases sent with
    | false => simp [AuthRun.next, makeCodeAndSendMail, AuthRun.keepOnError, EndsCode]
    | true =>
      by_cases hto : email = recipient
      · subst hto
        by_cases ho : other = code
        · simp [AuthRun.next, makeCodeAndSendMail, AuthRun.keepOnError,
            AuthRedis.cachingVerificationCode, ho]
        · simp [AuthRun.next, makeCodeAndSendMail, AuthRun.keepOnError, EndsCode,
            AuthRedis.cachingVerificationCode, ho]
      · simp [AuthRun.next, makeCodeAndSendMail, AuthRun.keepOnError, EndsCode,
          AuthRedis.cachingVerificationCode, hto, Ne.symm hto]
  | verifyEmailCode recipient given =>
    simp only [AuthRun.next, reduceCtorEq, false_or, EndsCode]
    cases hok : verifyEmailCode s.redis recipient given with
    | error e =>
      -- the code that was cached is another one
      refine ⟨fun h => ⟨h, ?_⟩, And.left⟩
      rintro ⟨rfl, rfl⟩
      have hcached : s.redis.emailCodes recipient = some given := h
      rw [verifyEmailCode_ok.2 ⟨hcode, hcached, rfl⟩] at hok
      cases hok
    | ok redis =>
      obtain ⟨-, hcached, rfl⟩ := verifyEmailCode_ok.1 hok
      by_cases hto : email = recipient
      · subst hto
        simp [AuthRun.keepOnError, AuthRedis.deleteVerificationCode, hcached]
      · simp [AuthRun.keepOnError, AuthRedis.deleteVerificationCode, hto, Ne.symm hto]
  | expireCode recipient =>
    by_cases hto : email = recipient
    · simp [AuthRun.next, EndsCode, AuthRedis.deleteVerificationCode, hto]
    · simp [AuthRun.next, EndsCode, AuthRedis.deleteVerificationCode, hto, Ne.symm hto]
  | localLogin | resetPw | expireState | expirePid | event =>
    simp [AuthRun.next, EndsCode, AuthRedis.deleteOAuthState, AuthRedis.deleteOAuthCode]

/-- The cached code is the one mailed last, unless it has ended since. -/
theorem emailCode_iff {email code : String} (hcode : code ≠ "") (events : List AuthEvent) :
    (AuthRun.after extractKeyFromUrl w events).redis.emailCodes email = some code ↔
      Since (· = .makeCodeAndSendMail email code true) (EndsCode email code) events :=
  run_iff_since (P := fun s => s.redis.emailCodes email = some code)
    (fun s a => next_emailCode s a hcode) (fun h => nomatch (h : none = some code)) events

/-! ## Resets -/

theorem changePassword_ok {db : Db} {email hashed : String} :
    (∃ db', changePassword db email hashed = .ok db') ↔ HasPassword db email := by
  unfold changePassword HasPassword
  cases db.userByEmail email with
  | none => simp
  | some user => cases hauth : db.localAuths.find? user.id <;> simp [hauth]

/-- After a reset the e-mail logs in with the new password. -/
theorem loginLocalUser_changed {compare : String → String → Bool} {db db' : Db}
    {email hashed password : String} (h : changePassword db email hashed = .ok db') :
    (∃ user, loginLocalUser compare db' email password = .ok user) ↔
      hashed ≠ "" ∧ compare password hashed = true := by
  obtain ⟨user, old, huser, -, hid, rfl⟩ := changePassword_writes h
  have huser' : Db.userByEmail
      { db with localAuths := db.localAuths.save { old with password := hashed } } email =
        some user := huser
  unfold loginLocalUser
  rw [huser']
  dsimp only
  rw [Table.find?_save, if_pos hid, Option.any_some]
  by_cases hlogin : hashed ≠ "" ∧ compare password hashed = true
  · simp [hlogin]
  · rw [if_neg (by simpa using hlogin)]
    exact iff_of_false (fun ⟨_, hok⟩ => nomatch hok) hlogin

/-- No other e-mail's login changes. -/
theorem loginLocalUser_other {compare : String → String → Bool} {db db' : Db}
    {email hashed other password : String} (h : changePassword db email hashed = .ok db')
    (hother : other ≠ email) :
    loginLocalUser compare db' other password = loginLocalUser compare db other password := by
  obtain ⟨user, old, huser, -, hid, rfl⟩ := changePassword_writes h
  have howner' : Db.userByEmail
      { db with localAuths := db.localAuths.save { old with password := hashed } } other =
        db.userByEmail other := rfl
  unfold loginLocalUser
  rw [howner']
  cases howner : db.userByEmail other with
  | none => rfl
  | some owner =>
    -- a row has one e-mail
    have hne : old.userId ≠ owner.id := by
      intro he
      unfold Db.userByEmail at huser howner
      have hsame := Table.eq_of_key (List.mem_of_find?_eq_some huser)
        (List.mem_of_find?_eq_some howner) (hid.symm.trans he)
      have hemail : user.email = email := by simpa using List.find?_some huser
      have hemail' : owner.email = other := by simpa using List.find?_some howner
      exact hother (by rw [← hemail, ← hemail', hsame])
    dsimp only
    rw [Table.find?_save, if_neg hne]

theorem wasVerified_iff {email : String} {events : List AuthEvent} :
    WasVerified extractKeyFromUrl w email events ↔ Confirmed email events := by
  constructor
  · rintro h
    refine h.imp ?_
    rintro before a ⟨code, redis, rfl, hok, -⟩
    obtain ⟨hcode, hcached, -⟩ := verifyEmailCode_ok.1 hok
    exact ⟨code, hcode, rfl, (emailCode_iff hcode before).1 hcached⟩
  · rintro h
    refine h.imp ?_
    rintro before a ⟨code, hcode, rfl, hsince⟩
    have hcached : (AuthRun.after extractKeyFromUrl w before).redis.emailCodes email = some code :=
      (emailCode_iff hcode before).2 hsince
    obtain ⟨bs, mail, cs, rfl, rfl, -⟩ := hsince
    exact ⟨code, _, rfl, verifyEmailCode_ok.2 ⟨hcode, hcached, rfl⟩,
      List.mem_append_right bs List.mem_cons_self⟩

/-- **Resets and verifications.**  Every password change follows a verification of its e-mail
exactly when the clients confirm the e-mail of an account before they send its reset. -/
theorem resetsVerified_iff (extractKeyFromUrl : String → Option String) (w : World)
    (events : List AuthEvent) :
    ResetsVerified extractKeyFromUrl w events ↔ ResetsConfirmed extractKeyFromUrl w events := by
  constructor
  · intro h before email hashed later hevents hhas
    obtain ⟨db, hok⟩ := changePassword_ok.2 hhas
    exact wasVerified_iff.1 (h before email hashed later hevents db hok)
  · intro h before email hashed later hevents db hok
    exact wasVerified_iff.2 (h before email hashed later hevents (changePassword_ok.1 ⟨db, hok⟩))

/-- A fan signs up, and somebody else sends a password for the fan's e-mail. -/
def takenOver : List AuthEvent :=
  [.event (.request (.registerLocalUser ⟨"fan@test", "pw", "", "fan", 1⟩ ⟨1, "h1", fun _ => 0⟩ 2025)),
   .resetPw "fan@test" "h2"]

/-- Nothing was verified, and the password changes. -/
theorem takenOver_unverified :
    ¬ ResetsVerified (fun _ => none) (World.start twoTeams .empty .empty .empty) takenOver := by
  intro h
  obtain ⟨db, hok⟩ := changePassword_ok.2 (show HasPassword (AuthRun.after (fun _ => none)
    (World.start twoTeams .empty .empty .empty) (takenOver.take 1)).world.db "fan@test" from
      ⟨⟨1, DEFAULT_PROFILE_IMAGE, "fan", "fan@test", 1⟩, by decide, by decide⟩)
  obtain ⟨before, a, later, hevents, code, redis, rfl, -⟩ :=
    h (takenOver.take 1) "fan@test" "h2" [] rfl db hok
  have hmem : AuthEvent.verifyEmailCode "fan@test" code ∈ takenOver.take 1 := by
    rw [hevents]
    exact List.mem_append_right before List.mem_cons_self
  rw [takenOver, List.take_succ_cons, List.take_zero] at hmem
  exact nomatch List.mem_singleton.1 hmem

end VictoryFairy
