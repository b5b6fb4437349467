import VictoryFairy.Proofs.Crashes
import VictoryFairy.Proofs.SocialLogin
import VictoryFairy.Proofs.TermRuns

/-!
# Sign-ups and credentials that crash

A local sign-up does not look for its e-mail and nickname before it inserts them, a link not for
the other users' links, and a reset not for its user.

    crashes_registerLocalUser, crashes_loginSocialUser,
    crashes_linkSocial, crashes_changePassword : the exact conditions
-/

namespace VictoryFairy

open Runs Failures

/-! ## Sign-up -/

/-- Some user has the nickname. -/
def NicknameTaken (db : Db) (nickname : String) : Prop :=
  ∃ user ∈ db.users.rows, user.nickname = nickname

def EmailTaken (db : Db) (email : String) : Prop := ∃ user ∈ db.users.rows, user.email = email

/-- Every nickname that is drawn is taken. -/
def NoFreeNickname (db : Db) (draw : Nat → Nat) : Prop :=
  ∀ i < MAX_RETRIES, NicknameTaken db (generateRandomNickname (draw i))

/-- There is no nickname for a sign-up with the one given, or with a blank. -/
def NoNickname (db : Db) (nickname : String) (draw : Nat → Nat) : Prop :=
  if isBlank nickname then NoFreeNickname db draw else NicknameTaken db nickname

/-- `SocialAuth.create` accepts them. -/
def SocialAuthValid (providerEmail sub provider : String) : Prop :=
  (providerEmail ≠ "" ∧ sub ≠ "" ∧ provider ≠ "") ∧ provider ∈ SocialProvider

section

variable {db : Db}

theorem pickRandomNickname_cases (db : Db) (draw : Nat → Nat) (fuel i : Nat) :
    (pickRandomNickname db draw fuel i = .error (.account .nicknameGenerationFailed) ∧
      ∀ j < fuel, NicknameTaken db (generateRandomNickname (draw (i + j)))) ∨
    ∃ nickname, pickRandomNickname db draw fuel i = .ok nickname ∧ ¬ NicknameTaken db nickname ∧
      ∃ j < fuel, nickname = generateRandomNickname (draw (i + j)) := by
  induction fuel generalizing i with
  | zero => exact Or.inl ⟨rfl, fun j hj => absurd hj (Nat.not_lt_zero j)⟩
  | succ fuel ih =>
    have htaken : (db.users.rows.any fun u => decide (u.nickname = generateRandomNickname (draw i))) =
        true ↔ NicknameTaken db (generateRandomNickname (draw i)) := by
      simp [NicknameTaken, List.any_eq_true]
    unfold pickRandomNickname
    by_cases hfirst : NicknameTaken db (generateRandomNickname (draw i))
    · rw [if_pos (htaken.2 hfirst)]
      refine (ih (i + 1)).imp ?_ ?_
      · rintro ⟨herror, hall⟩
        refine ⟨herror, fun j hj => ?_⟩
        cases j with
        | zero => exact hfirst
        | succ j =>
          rw [show i + (j + 1) = i + 1 + j by omega]
          exact hall j (by omega)
      · rintro ⟨nickname, hok, hfree, j, hj, rfl⟩
        refine ⟨_, hok, hfree, j + 1, by omega, ?_⟩
        rw [show i + (j + 1) = i + 1 + j by omega]
    · rw [if_neg (mt htaken.1 hfirst)]
      exact Or.inr ⟨_, rfl, hfirst, 0, by omega, rfl⟩

/-- The thirty draws of a sign-up. -/
theorem drawNickname_cases (db : Db) (draw : Nat → Nat) :
    (pickRandomNickname db draw MAX_RETRIES 0 = .error (.account .nicknameGenerationFailed) ∧
      NoFreeNickname db draw) ∨
    ∃ nickname, pickRandomNickname db draw MAX_RETRIES 0 = .ok nickname ∧
      ¬ NicknameTaken db nickname ∧ ¬ NoFreeNickname db draw := by
  have hcases := pickRandomNickname_cases db draw MAX_RETRIES 0
  simp only [Nat.zero_add] at hcases
  refine hcases.imp_right ?_
  rintro ⟨nickname, hok, hfree, j, hj, rfl⟩
  exact ⟨_, hok, hfree, fun hall => hfree (hall j hj)⟩

theorem chooseNickname_cases (db : Db) (nickname : String) (draw : Nat → Nat) :
    (chooseNickname db nickname draw = .error (.account .nicknameGenerationFailed) ∧
      NoNickname db nickname draw) ∨
    ∃ chosen, chooseNickname db nickname draw = .ok chosen ∧
      (NicknameTaken db chosen ↔ NoNickname db nickname draw) := by
  unfold chooseNickname NoNickname
  by_cases hblank : isBlank nickname = true
  · simp only [if_pos hblank]
    refine (drawNickname_cases db draw).imp_right ?_
    rintro ⟨chosen, hok, hfree, hdraws⟩
    exact ⟨chosen, hok, iff_of_false hfree hdraws⟩
  · simp only [if_neg hblank]
    exact Or.inr ⟨nickname, rfl, Iff.rfl⟩

/-- A new row clashes by its e-mail or nickname, or has no team. -/
theorem crashes_insertUser {user : User} (hfresh : db.users.find? user.id = none) :
    Crashes (db.insertUser user) ↔
      (EmailTaken db user.email ∨ NicknameTaken db user.nickname) ∨
        db.teams.find? user.supportTeam = none := by
  have hclash : (db.users.rows.any fun u => decide (u.id = user.id) || decide (u.email = user.email) ||
      decide (u.nickname = user.nickname)) = true ↔
        EmailTaken db user.email ∨ NicknameTaken db user.nickname := by
    simp only [List.any_eq_true, Bool.or_eq_true, decide_eq_true_eq]
    constructor
    · rintro ⟨u, hu, (hid | hemail) | hnickname⟩
      · exact absurd hid (Table.find?_eq_none.1 hfresh u hu)
      · exact Or.inl ⟨u, hu, hemail⟩
      · exact Or.inr ⟨u, hu, hnickname⟩
    · rintro (⟨u, hu, hemail⟩ | ⟨u, hu, hnickname⟩)
      · exact ⟨u, hu, Or.inl (Or.inr hemail)⟩
      · exact ⟨u, hu, Or.inr hnickname⟩
  unfold Db.insertUser
  by_cases h : EmailTaken db user.email ∨ NicknameTaken db user.nickname
  · rw [if_pos (hclash.2 h)]
    simp [fails_error, h]
  · rw [if_neg (mt hclash.1 h)]
    by_cases hteam : db.teams.find? user.supportTeam = none
    · rw [if_pos (by simp [hteam])]
      simp [fails_error, hteam]
    · rw [if_neg (by simpa [Option.isNone_iff_eq_none] using hteam)]
      exact iff_of_false (fails_ok _) (not_or.2 ⟨h, hteam⟩)

/-- The terms of a new user are new rows of terms that are stored. -/
theorem not_crashes_requiredTerms (hterms : ∀ t ∈ db.userTerms.rows, (db.users.find? t.userId).isSome)
    {userId : Nat} (hfresh : db.users.find? userId = none) {terms : List UserTerm}
    (hagreed : User.agreeTerms userId [] (requiredTermIds db) = .ok terms) {db1 : Db}
    (hstored : db1.terms = db.terms) (hrows : db1.userTerms = db.userTerms) :
    ¬ Crashes (insertUserTerms db1 terms) := by
  obtain rfl := agreeTerms_all hagreed
  have hstoredTerms : ∀ term ∈ (requiredTermIds db).map fun id => (⟨userId, id⟩ : UserTerm),
      (db1.terms.find? term.termId).isSome := by
    intro term hterm
    obtain ⟨id, hid, rfl⟩ := List.mem_map.1 hterm
    obtain ⟨stored, hmem, -, rfl⟩ := mem_requiredTermIds.1 hid
    rw [hstored, Table.find?_of_mem hmem]
    rfl
  have hnodup : (requiredTermIds db).Nodup :=
    db.terms.nodup.sublist (List.filter_sublist.map Term.id)
  have hkeys : ((db1.userTerms.rows ++ (requiredTermIds db).map fun id =>
      (⟨userId, id⟩ : UserTerm)).map UserTerm.key).Nodup := by
    rw [hrows, List.map_append, List.nodup_append, List.map_map]
    refine ⟨db.userTerms.nodup, hnodup.map fun a b h => (Prod.mk.inj h).2, ?_⟩
    intro k hk k' hk' he
    obtain ⟨row, hrow, rfl⟩ := List.mem_map.1 hk
    obtain ⟨id, -, rfl⟩ := List.mem_map.1 hk'
    have huser : row.userId = userId := (Prod.mk.inj he).1
    have hsome := hterms row hrow
    rw [huser, hfresh] at hsome
    cases hsome
  rw [insertUserTerms_ok hstoredTerms hkeys]
  exact fails_ok _

end

section

variable {w : World} (h : ServingInv w)
include h

/-- After the user, the rows of a sign-up are new. -/
theorem crashes_inserts {user : User} (hfresh : w.db.users.find? user.id = none)
    {terms : List UserTerm} (hagreed : User.agreeTerms user.id [] (requiredTermIds w.db) = .ok terms)
    (insertAuth : Db → Except AppError Db)
    (hauth : ¬ Crashes (insertAuth (w.db.withUsers (w.db.users.save user))))
    (hkeeps : ∀ db, insertAuth (w.db.withUsers (w.db.users.save user)) = .ok db →
      db.terms = w.db.terms ∧ db.userTerms = w.db.userTerms) :
    Crashes (do
      let db ← w.db.insertUser user
      let db ← insertAuth db
      let db ← insertUserTerms db terms
      return (db, user)) ↔
    (EmailTaken w.db user.email ∨ NicknameTaken w.db user.nickname) ∨
      w.db.teams.find? user.supportTeam = none := by
  rw [← crashes_insertUser hfresh]
  refine fails_bind.trans (or_iff_left ?_)
  rintro ⟨db1, hins, hc⟩
  obtain rfl := insertUser_eq hins
  refine not_fails_bind hauth (fun db2 hok => ?_) hc
  obtain ⟨hterms, huserTerms⟩ := hkeeps db2 hok
  exact not_fails_bind (not_crashes_requiredTerms h.terms hfresh hagreed hterms huserTerms)
    fun _ _ => fails_ok _

/-- A new user has no password. -/
theorem not_crashes_insertLocalAuth (users : Table User.id) {userId : Nat}
    (hfresh : w.db.users.find? userId = none) (hashed : String) :
    ¬ Crashes ((w.db.withUsers users).insertLocalAuth ⟨userId, hashed⟩) := by
  have hnone : w.db.localAuths.find? userId = none := by
    rw [Table.find?_eq_none]
    intro old hold hid
    have hsome := h.credentials.localUser old hold
    rw [hid, hfresh] at hsome
    cases hsome
  have hinsert : w.db.localAuths.insert? ⟨userId, hashed⟩ =
      some (w.db.localAuths.save ⟨userId, hashed⟩) := Table.insert?_eq_some.2 ⟨hnone, rfl⟩
  unfold Db.insertLocalAuth
  rw [Db.withUsers_localAuths, hinsert]
  exact fails_ok _

omit h in
/-- The first rank row of a user who has just signed up. -/
theorem not_crashes_firstRank {db db1 : Db} {user : User} (hs : SignedUp db db1 user) {k : RankKey}
    (hk : k.user = user.id) : ¬ Crashes (insertRankIfAbsent db1 k) := by
  refine not_crashes_insertRankIfAbsent ?_
  rw [hk, hs.users, Table.find?_save_self]
  rfl

theorem crashes_createLocalUser {dto : CreateLocalUserDto} {env : SignUpEnv}
    (hfresh : w.db.users.find? env.newId = none) :
    Crashes (createLocalUser w.db dto (requiredTermIds w.db) env) ↔
      NoNickname w.db dto.nickname env.draw ∨ "" ∈ requiredTermIds w.db ∨ EmailTaken w.db dto.email ∨
        w.db.teams.find? (if dto.teamId = 0 then 1 else dto.teamId) = none := by
  unfold createLocalUser
  rcases chooseNickname_cases w.db dto.nickname env.draw with ⟨herror, hno⟩ | ⟨chosen, hok, hno⟩
  · rw [herror]
    exact iff_of_true (fails_error_bind.2 (by simp)) (Or.inl hno)
  · rw [hok]
    refine fails_ok_bind.trans ?_
    dsimp only
    rcases agreeTerms_cases (User.build env.newId dto.email dto.image chosen dto.teamId).id
      (requiredTermIds w.db) with ⟨hempty, herror⟩ | ⟨hempty, hagreed⟩
    · rw [herror]
      exact iff_of_true (fails_error_bind.2 (by simp)) (Or.inr (Or.inl hempty))
    · rw [hagreed]
      refine fails_ok_bind.trans ((crashes_inserts h hfresh hagreed
        (fun db => db.insertLocalAuth ⟨env.newId, env.hashed⟩)
        (not_crashes_insertLocalAuth h _ hfresh _) fun db hok => ?_).trans ?_)
      · obtain rfl := insertLocalAuth_ok hok
        exact ⟨rfl, rfl⟩
      rw [← hno]
      simp only [hempty, false_or]
      show (EmailTaken w.db dto.email ∨ NicknameTaken w.db chosen) ∨ _ ↔ _
      rw [or_comm (a := EmailTaken w.db dto.email), or_assoc]
      rfl

theorem crashes_registerLocalUser {dto : CreateLocalUserDto} {env : SignUpEnv} {year : Nat}
    (hfresh : w.db.users.find? env.newId = none) :
    Crashes (registerLocalUser w.db dto env year) ↔
      NoNickname w.db dto.nickname env.draw ∨ "" ∈ requiredTermIds w.db ∨ EmailTaken w.db dto.email ∨
        w.db.teams.find? (if dto.teamId = 0 then 1 else dto.teamId) = none := by
  rw [← crashes_createLocalUser h hfresh]
  refine fails_bind.trans (or_iff_left ?_)
  rintro ⟨p, hcreate, hc⟩
  obtain ⟨db1, user⟩ := p
  have hs := (createLocalUser_ok hcreate).1
  exact not_fails_bind (not_crashes_firstRank hs rfl) (fun _ _ => fails_ok _) hc

end

/-! ## Social accounts -/

section

variable {db : Db}

theorem SocialAuth.create_cases (userId : Nat) (providerEmail sub provider : String)
    (isPrimary : Bool) :
    (SocialAuthValid providerEmail sub provider ∧
      SocialAuth.create userId provider sub providerEmail isPrimary =
        .ok { provider, sub, userId, providerEmail, isPrimary }) ∨
    (¬ SocialAuthValid providerEmail sub provider ∧
      ¬ Crashes (SocialAuth.create userId provider sub providerEmail isPrimary) ∧
      ∀ auth, SocialAuth.create userId provider sub providerEmail isPrimary ≠ .ok auth) := by
  unfold SocialAuth.create SocialAuthValid
  by_cases hempty : providerEmail = "" ∨ sub = "" ∨ provider = ""
  · rw [if_pos hempty]
    refine Or.inr ⟨fun hvalid => ?_, by simp [fails_error], nofun⟩
    rcases hempty with he | he | he
    · exact hvalid.1.1 he
    · exact hvalid.1.2.1 he
    · exact hvalid.1.2.2 he
  · rw [if_neg hempty]
    by_cases hprovider : provider ∈ SocialProvider
    · rw [if_neg (not_not.2 hprovider)]
      simp only [not_or] at hempty
      exact Or.inl ⟨⟨hempty, hprovider⟩, rfl⟩
    · rw [if_pos hprovider]
      exact Or.inr ⟨fun hvalid => hprovider hvalid.2, by simp [fails_error], nofun⟩

/-- The account is linked to some user already. -/
theorem crashes_insertSocialAuth (db : Db) (auth : SocialAuth) :
    Crashes (db.insertSocialAuth auth) ↔ db.socialAuths.find? auth.key ≠ none := by
  unfold Db.insertSocialAuth
  cases hins : db.socialAuths.insert? auth with
  | none =>
    refine iff_of_true (fails_error.2 (by simp)) fun hnone => ?_
    rw [Table.insert?_eq_some.2 ⟨hnone, rfl⟩] at hins
    cases hins
  | some socialAuths =>
    exact iff_of_false (fails_ok _) (not_not.2 (Table.insert?_eq_some.1 hins).1)

theorem nobody_owns_iff (h : CredentialInv db) {sub provider : String} :
    (∀ user ∈ db.users.rows, ¬ Owns db sub provider user) ↔
      db.socialAuths.find? (sub, provider) = none := by
  rw [Table.find?_eq_none]
  constructor
  · intro hnobody auth hauth hkey
    obtain ⟨user, hfind⟩ := Option.isSome_iff_exists.1 (h.socialUser auth hauth)
    refine hnobody user (Table.mem_of_find? hfind) ⟨auth, hauth, (Table.find?_key hfind).symm, ?_⟩
    exact Prod.mk.inj hkey
  · rintro hnone user - ⟨auth, hauth, -, hsub, hprovider⟩
    exact hnone auth hauth (Prod.ext hsub hprovider)

/-- Neither the e-mail nor the social account is known. -/
def NewSocialUser (db : Db) (sub email provider : String) : Prop :=
  ¬ EmailTaken db email ∧ db.socialAuths.find? (sub, provider) = none

/-- A social login signs a new user up, or has an error of its own. -/
theorem socialLogin_cases (h : CredentialInv db) (sub email provider : String) (pick : Nat) :
    (NewSocialUser db sub email provider ∧
      findSocialUserOrValidate db sub provider email pick = .ok none) ∨
    (¬ NewSocialUser db sub email provider ∧
      ¬ Crashes (findSocialUserOrValidate db sub provider email pick) ∧
      findSocialUserOrValidate db sub provider email pick ≠ .ok none) := by
  rcases findSocialUserOrValidate_cases db sub provider email pick with
    ⟨hnew, hnone⟩ | ⟨user, huser, ⟨hok, hown⟩ | ⟨hrejected, -, hemail⟩⟩
  · refine Or.inl ⟨⟨?_, (nobody_owns_iff h).1 fun user hu => (hnone user hu).1⟩, hnew⟩
    rintro ⟨user, hu, hemail⟩
    exact (hnone user hu).2 hemail
  · rw [hok]
    exact Or.inr ⟨fun hnew => (nobody_owns_iff h).2 hnew.2 user huser hown, fails_ok _, nofun⟩
  · rw [hrejected]
    exact Or.inr ⟨fun hnew => hnew.1 ⟨user, huser, hemail⟩, by simp [fails_error], nofun⟩

end

section

variable {w : World} (h : ServingInv w)
include h

theorem crashes_createSocialUser {sub email provider : String} {env : SignUpEnv}
    (hfresh : w.db.users.find? env.newId = none) (hnew : NewSocialUser w.db sub email provider) :
    Crashes (createSocialUser w.db email sub provider email true (requiredTermIds w.db) env) ↔
      NoFreeNickname w.db env.draw ∨
        SocialAuthValid email sub provider ∧
          ("" ∈ requiredTermIds w.db ∨ w.db.teams.find? 1 = none) := by
  unfold createSocialUser
  rcases drawNickname_cases w.db env.draw with ⟨herror, hno⟩ | ⟨chosen, hok, hfree, hno⟩
  · rw [herror]
    exact iff_of_true (fails_error_bind.2 (by simp)) (Or.inl hno)
  · rw [hok]
    refine fails_ok_bind.trans (Iff.trans ?_ (or_iff_right hno).symm)
    dsimp only
    rcases SocialAuth.create_cases (User.build env.newId email "" chosen 1).id email sub provider true
      with ⟨hvalid, hauth⟩ | ⟨hvalid, hnot, hnone⟩
    · rw [hauth]
      refine fails_ok_bind.trans (Iff.trans ?_ (and_iff_right hvalid).symm)
      rcases agreeTerms_cases (User.build env.newId email "" chosen 1).id (requiredTermIds w.db)
        with ⟨hempty, herror⟩ | ⟨hempty, hagreed⟩
      · rw [herror]
        exact iff_of_true (fails_error_bind.2 (by simp)) (Or.inl hempty)
      · rw [hagreed]
        refine fails_ok_bind.trans ((crashes_inserts h hfresh hagreed
          (fun db => db.insertSocialAuth ⟨provider, sub, env.newId, email, true⟩)
          (mt (crashes_insertSocialAuth _ _).1 (not_not.2 hnew.2)) fun db hok => ?_).trans ?_)
        · obtain ⟨-, rfl⟩ := insertSocialAuth_ok hok
          exact ⟨rfl, rfl⟩
        · refine Iff.trans (or_iff_right ?_) (or_iff_right hempty).symm
          exact not_or.2 ⟨hnew.1, hfree⟩
    · refine iff_of_false (not_fails_bind hnot fun auth hok => absurd hok (hnone auth)) ?_
      exact fun hc => hvalid hc.1

theorem crashes_loginSocialUser {sub email provider : String} {pick : Nat} {env : SignUpEnv}
    {year : Nat} (hfresh : w.db.users.find? env.newId = none) :
    Crashes (loginSocialUser w.db sub email provider pick env year) ↔
      NewSocialUser w.db sub email provider ∧ (NoFreeNickname w.db env.draw ∨
        SocialAuthValid email sub provider ∧
          ("" ∈ requiredTermIds w.db ∨ w.db.teams.find? 1 = none)) := by
  unfold loginSocialUser
  rcases socialLogin_cases h.credentials sub email provider pick with ⟨hnew, hok⟩ | ⟨hnew, hnot, hnone⟩
  · rw [hok, and_iff_right hnew, ← crashes_createSocialUser h hfresh hnew]
    refine fails_ok_bind.trans (fails_bind.trans (or_iff_left ?_))
    rintro ⟨p, hcreate, hc⟩
    obtain ⟨db1, user⟩ := p
    have hs := createSocialUser_ok hcreate
    exact not_fails_bind (not_crashes_firstRank hs rfl) (fun _ _ => fails_ok _) hc
  · refine iff_of_false (not_fails_bind hnot fun found hok => ?_) fun hc => hnew hc.1
    cases found with
    | none => exact absurd hok hnone
    | some user => exact fails_ok _

end

/-! ## Credentials -/

section

variable {db : Db}

/-- The check of `addSocialAuth` among the user's own links. -/
theorem any_socialAuthsOf (db : Db) (userId pick : Nat) (sub provider : String) :
    ((db.socialAuthsOf userId pick).any fun a =>
      decide (a.provider = provider) && decide (a.sub = sub)) = true ↔
      ∃ auth, db.socialAuths.find? (sub, provider) = some auth ∧ auth.userId = userId := by
  unfold Db.socialAuthsOf
  simp only [List.any_eq_true, List.mem_rotate, List.mem_filter, Bool.and_eq_true,
    decide_eq_true_eq]
  constructor
  · rintro ⟨auth, ⟨hmem, huser⟩, hprovider, hsub⟩
    have hkey : auth.key = (sub, provider) := Prod.ext hsub hprovider
    exact ⟨auth, hkey ▸ Table.find?_of_mem hmem, huser⟩
  · rintro ⟨auth, hauth, huser⟩
    have hkey : auth.key = (sub, provider) := Table.find?_key hauth
    obtain ⟨hsub, hprovider⟩ := Prod.mk.inj hkey
    exact ⟨auth, ⟨Table.mem_of_find? hauth, huser⟩, hprovider, hsub⟩

/-- The account is linked to somebody else: the user's own links have an error of their own. -/
theorem crashes_linkSocial {userId : Nat} (hu : (db.users.find? userId).isSome)
    (sub provider providerEmail : String) :
    Crashes (linkSocial db { sub, provider, userId, providerEmail, isPrimary := false }) ↔
      SocialAuthValid providerEmail sub provider ∧
        ∃ auth, db.socialAuths.find? (sub, provider) = some auth ∧ auth.userId ≠ userId := by
  obtain ⟨user, hfind⟩ := Option.isSome_iff_exists.1 hu
  obtain rfl : user.id = userId := Table.find?_key hfind
  have hload : loadUser db user.id = .ok user := by
    unfold loadUser
    rw [hfind]
  have hown := any_socialAuthsOf db user.id 0 sub provider
  unfold linkSocial
  rw [hload]
  refine fails_ok_bind.trans ?_
  dsimp only
  unfold User.addSocialAuth
  by_cases hlinked : ∃ auth, db.socialAuths.find? (sub, provider) = some auth ∧ auth.userId = user.id
  · rw [if_pos (hown.2 hlinked)]
    refine iff_of_false (by simp [fails_error_bind]) ?_
    rintro ⟨-, auth, hauth, hne⟩
    obtain ⟨auth', hauth', huser⟩ := hlinked
    obtain rfl := Option.some.inj (hauth.symm.trans hauth')
    exact hne huser
  · rw [if_neg (mt hown.1 hlinked)]
    rcases SocialAuth.create_cases user.id providerEmail sub provider false
      with ⟨hvalid, hauth⟩ | ⟨hvalid, hnot, hnone⟩
    · rw [hauth]
      refine fails_ok_bind.trans ((crashes_insertSocialAuth db _).trans ?_)
      rw [and_iff_right hvalid]
      constructor
      · intro hsome
        obtain ⟨auth, hfound⟩ := Option.ne_none_iff_exists'.1 hsome
        exact ⟨auth, hfound, fun huser => hlinked ⟨auth, hfound, huser⟩⟩
      · rintro ⟨auth, hfound, -⟩ hnone
        cases hnone.symm.trans hfound
    · exact iff_of_false (not_fails_bind hnot fun auth hok => absurd hok (hnone auth))
        fun hc => hvalid hc.1

theorem not_crashes_unlinkSocial {userId : Nat} (hu : (db.users.find? userId).isSome)
    (provider : String) (pick : Nat) : ¬ Crashes (unlinkSocial db userId provider pick) := by
  refine not_fails_bind (not_crashes_loadUser hu) fun user _ =>
    not_fails_bind ?_ fun _ _ => fails_ok _
  unfold User.removeSocialAuth
  refine not_fails_guard (by simp) fun _ => ?_
  split
  · simp [fails_error]
  · exact not_fails_guard (by simp) fun _ => fails_ok _

/-- A reset reads the user it has not found. -/
theorem crashes_changePassword (email hashed : String) :
    Crashes (changePassword db email hashed) ↔ ¬ EmailTaken db email := by
  have hnone : db.userByEmail email = none ↔ ¬ EmailTaken db email := by
    simp [Db.userByEmail, EmailTaken]
  unfold changePassword
  cases huser : db.userByEmail email with
  | none => exact iff_of_true (fails_error.2 (by simp)) (hnone.1 huser)
  | some user =>
    refine iff_of_false ?_ fun htaken => ?_
    · dsimp only
      split
      · simp [fails_error]
      · exact fails_ok _
    · rw [hnone.2 htaken] at huser
      cases huser

end

end VictoryFairy
