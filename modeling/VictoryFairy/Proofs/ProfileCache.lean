import VictoryFairy.Model.RankingQuery
import VictoryFairy.Proofs.Rankings
import VictoryFairy.Proofs.Users

/-!
# The cached profiles

`getUserInfoByIds` reads the fields `saveUsers` has written.  `updateFieldsOfUser` writes
the two fields `field` and `value` instead, which nobody reads, so the cache follows the
user rows until a nickname or an image changes.

    getUserInfoByIds_iff   : what the reader returns for one user
    next_profiles_iff      : one event keeps the cache current exactly under KeepsProfile
    profile_cache_iff      : so does a history
-/

namespace VictoryFairy

open Runs

/-- The hash holds the profile of the row. -/
structure HasProfile (info : UserInfoHash) (user : User) : Prop where
  id : info.id = some user.id
  nickname : info.nickname = some user.nickname
  profileImage : info.profileImage = some user.profileImage

/-- Every user's profile is cached. -/
def ProfilesCached (users : Table User.id) (redis : Redis) : Prop :=
  ∀ user ∈ users.rows, HasProfile (redis.userInfo user.id) user

/-- What the row says of the user. -/
def User.profile (user : User) : UserProfile :=
  { id := user.id, nickname := some user.nickname, profileImage := some user.profileImage }

/-- The reader returns each user's stored id, nickname and image. -/
def ReadsProfiles (w : World) : Prop :=
  ∀ user ∈ w.db.users.rows, w.redis.getUserInfoByIds [user.id] = .ok [user.profile]

theorem getUserInfoByIds_iff (redis : Redis) (user : User) :
    redis.getUserInfoByIds [user.id] = .ok [user.profile] ↔
      HasProfile (redis.userInfo user.id) user := by
  have hone : redis.getUserInfoByIds [user.id] = redis.parseUserInfo [] user.id := by
    unfold Redis.getUserInfoByIds
    rw [List.foldlM_cons]
    exact bind_pure _
  rw [hone]
  unfold Redis.parseUserInfo
  cases hid : (redis.userInfo user.id).id with
  | none =>
    refine ⟨fun h => (by cases h), fun h => ?_⟩
    rw [h.id] at hid
    cases hid
  | some id =>
    simp only [User.profile, Except.ok.injEq, List.cons.injEq, UserProfile.mk.injEq, and_true]
    constructor
    · rintro ⟨rfl, hnickname, himage⟩
      exact ⟨hid, hnickname, himage⟩
    · intro h
      rw [h.id] at hid
      exact ⟨(Option.some.inj hid).symm, h.nickname, h.profileImage⟩

theorem readsProfiles_iff (w : World) : ReadsProfiles w ↔ ProfilesCached w.db.users w.redis :=
  forall₂_congr fun user _ => getUserInfoByIds_iff w.redis user

/-! ## What keeps a profile -/

/-- The fields that are read are the same. -/
def SameProfiles (redis redis' : Redis) : Prop :=
  ∀ v, (redis'.userInfo v).id = (redis.userInfo v).id ∧
    (redis'.userInfo v).nickname = (redis.userInfo v).nickname ∧
    (redis'.userInfo v).profileImage = (redis.userInfo v).profileImage

theorem SameProfiles.of_eq {redis redis' : Redis} (h : redis'.userInfo = redis.userInfo) :
    SameProfiles redis redis' := by
  intro v
  rw [h]
  exact ⟨rfl, rfl, rfl⟩

theorem SameProfiles.hasProfile {redis redis' : Redis} (h : SameProfiles redis redis') {v : Nat}
    {user : User} : HasProfile (redis'.userInfo v) user ↔ HasProfile (redis.userInfo v) user := by
  obtain ⟨hid, hnickname, himage⟩ := h v
  constructor
  · intro hp
    exact ⟨hid.symm.trans hp.id, hnickname.symm.trans hp.nickname, himage.symm.trans hp.profileImage⟩
  · intro hp
    exact ⟨hid.trans hp.id, hnickname.trans hp.nickname, himage.trans hp.profileImage⟩

section

variable {users : Table User.id} {redis redis' : Redis}

theorem ProfilesCached.congr (h : ProfilesCached users redis) (hs : SameProfiles redis redis') :
    ProfilesCached users redis' :=
  fun user hu => hs.hasProfile.2 (h user hu)

/-- A saved row is cached as before: that is its profile when it has not changed. -/
theorem saved_cached_iff (h : ProfilesCached users redis) (hs : SameProfiles redis redis')
    {old : User} (user : User) (hold : users.find? user.id = some old) :
    ProfilesCached (users.save user) redis' ↔
      user.nickname = old.nickname ∧ user.profileImage = old.profileImage := by
  have hid : old.id = user.id := Table.find?_key hold
  have hprofile := h old (Table.mem_of_find? hold)
  rw [hid] at hprofile
  constructor
  · intro hc
    have hnew := hs.hasProfile.1 (hc user (Table.mem_save.2 (Or.inl rfl)))
    exact ⟨Option.some.inj (hnew.nickname.symm.trans hprofile.nickname),
      Option.some.inj (hnew.profileImage.symm.trans hprofile.profileImage)⟩
  · rintro ⟨hnickname, himage⟩ v hv
    refine hs.hasProfile.2 ?_
    rcases Table.mem_save.1 hv with rfl | ⟨hv, -⟩
    · exact ⟨hid ▸ hprofile.id, hnickname ▸ hprofile.nickname, himage ▸ hprofile.profileImage⟩
    · exact h v hv

theorem removed_cached (h : ProfilesCached users redis) (userId : Nat)
    (hs : ∀ v, v ≠ userId → redis'.userInfo v = redis.userInfo v) :
    ProfilesCached (users.remove userId) redis' := by
  intro user hu
  obtain ⟨hu, hne⟩ := Table.mem_remove.1 hu
  rw [hs user.id hne]
  exact h user hu

theorem saveUsers_hasProfile (redis : Redis) (user : User) :
    HasProfile ((redis.saveUsers [user]).userInfo user.id) user := by
  have hinfo : (redis.saveUsers [user]).userInfo user.id =
      { redis.userInfo user.id with
        id := some user.id, nickname := some user.nickname,
        profileImage := some user.profileImage } := Function.update_self _ _ _
  rw [hinfo]
  exact ⟨rfl, rfl, rfl⟩

theorem signedUp_cached (h : ProfilesCached users redis) (user : User)
    (hs : SameProfiles (redis.saveUsers [user]) redis') :
    ProfilesCached (users.save user) redis' := by
  intro v hv
  refine hs.hasProfile.2 ?_
  by_cases he : v.id = user.id
  · rcases Table.mem_save.1 hv with rfl | ⟨-, hne⟩
    · exact saveUsers_hasProfile redis v
    · exact absurd he hne
  · have hinfo : (redis.saveUsers [user]).userInfo v.id = redis.userInfo v.id :=
      Function.update_of_ne he _ _
    rw [hinfo]
    rcases Table.mem_save.1 hv with rfl | ⟨hv, -⟩
    · exact absurd rfl he
    · exact h v hv

end

@[simp] theorem userInfo_rankingHook (db : Db) (redis : Redis) (u : Nat) :
    (rankingHook db redis u).userInfo = redis.userInfo := by
  unfold rankingHook
  split
  · rfl
  · simp

/-- The two fields that `updateFieldsOfUser` writes are not read. -/
theorem updateFieldsOfUser_same {redis redis' : Redis} {userId : Nat} {field value : String}
    (h : redis.updateFieldsOfUser userId field value = .ok redis') : SameProfiles redis redis' := by
  unfold Redis.updateFieldsOfUser at h
  split at h
  · cases h
  · cases h
    intro v
    by_cases hv : v = userId
    · subst hv
      simp [Redis.setUserInfo]
    · simp [Redis.setUserInfo, Function.update_of_ne hv]

/-! ## The branches of `updateUserProfile` -/

/-- An update is rejected, or it changes nothing of the profile: the nickname never stays
the same, since a user's own nickname is taken too. -/
def KeepsProfile (w : World) : Event → Prop
  | .request (.updateUserProfile userId (.image value) _ _) =>
    ∀ user, w.db.users.find? userId = some user → isBlank value ∨ value = user.profileImage
  | .request (.updateUserProfile userId (.nickname value) _ _) =>
    ∀ user, w.db.users.find? userId = some user →
      isBlank value ∨ ∃ v ∈ w.db.users.rows, v.nickname = value
  | _ => True

theorem saveUser_of_storable {db : Db} {user : User} (h : Storable db user) :
    db.saveUser user = .ok (db.withUsers (db.users.save user)) := by
  unfold Db.saveUser
  rw [if_neg, if_neg]
  · rw [Option.isNone_iff_eq_none]
    exact Option.isSome_iff_ne_none.1 h.team
  · intro hany
    obtain ⟨u, hu, hc⟩ := List.any_eq_true.1 hany
    simp only [Bool.and_eq_true, Bool.or_eq_true, decide_eq_true_eq] at hc
    obtain ⟨hemail, hnickname⟩ := h.unique u hu hc.1
    exact hc.2.elim hemail hnickname

theorem updateImage_same (extractKeyFromUrl : String → Option String) (w : World) (userId : Nat)
    (value : String) :
    SameProfiles w.redis (w.updateImage extractKeyFromUrl userId value).1.redis := by
  unfold World.updateImage
  cases updateUserProfileImage w.db userId value with
  | error e => exact .of_eq rfl
  | ok p =>
    obtain ⟨db, prevImage⟩ := p
    dsimp only
    generalize hw : (if (prevImage.getD "") ≠ "" then
      ({ w with db } : World).deleteImage extractKeyFromUrl prevImage else { w with db }) = w'
    have hredis : w'.redis = w.redis := by
      rw [← hw]
      split <;> simp
    cases hup : w'.redis.updateFieldsOfUser userId "profileImage" value with
    | error e => exact .of_eq (congrArg Redis.userInfo hredis)
    | ok redis => exact updateFieldsOfUser_same (hredis ▸ hup)

theorem updateNickname_same (w : World) (userId : Nat) (value : String) :
    SameProfiles w.redis (w.updateNickname userId value).1.redis := by
  unfold World.updateNickname
  cases updateUserProfileNickname w.db userId value with
  | error e => exact .of_eq rfl
  | ok db =>
    dsimp only
    cases hup : w.redis.updateFieldsOfUser userId "nickname" value with
    | error e => exact .of_eq rfl
    | ok redis => exact updateFieldsOfUser_same hup

section

variable {w : World} (extractKeyFromUrl : String → Option String)

/-- A new image is never cached; the one there was still is. -/
theorem updateImage_profiles_iff (hinv : UsersInv w.db) (h : ProfilesCached w.db.users w.redis)
    (userId : Nat) (value : String) :
    ProfilesCached (w.updateImage extractKeyFromUrl userId value).1.db.users
        (w.updateImage extractKeyFromUrl userId value).1.redis ↔
      ∀ user, w.db.users.find? userId = some user → isBlank value ∨ value = user.profileImage := by
  have hsame := updateImage_same extractKeyFromUrl w userId value
  rw [World.updateImage_db]
  cases hfind : w.db.users.find? userId with
  | none =>
    have hrejected : updateUserProfileImage w.db userId value = .error .typeError := by
      unfold updateUserProfileImage loadUser
      rw [hfind]
      rfl
    rw [hrejected]
    exact iff_of_true (h.congr hsame) nofun
  | some old =>
    by_cases hblank : isBlank value = true
    · have hrejected : updateUserProfileImage w.db userId value =
          .error (.account .emptyProfileImage) := by
        unfold updateUserProfileImage loadUser User.updateProfileImage
        rw [hfind]
        simp [bind, Except.bind, hblank]
      rw [hrejected]
      exact iff_of_true (h.congr hsame) fun _ _ => Or.inl hblank
    · have hid : old.id = userId := Table.find?_key hfind
      have hst : Storable w.db { old with profileImage := value } :=
        ⟨(hinv old (Table.mem_of_find? hfind)).unique, (hinv old (Table.mem_of_find? hfind)).team⟩
      have hsaved : committed w.db (updateUserProfileImage w.db userId value) =
          w.db.withUsers (w.db.users.save { old with profileImage := value }) := by
        unfold updateUserProfileImage loadUser User.updateProfileImage
        rw [hfind]
        simp [bind, Except.bind, hblank, saveUser_of_storable hst, committed, pure, Except.pure]
      rw [hsaved]
      refine (saved_cached_iff h hsame { old with profileImage := value }
        (hid ▸ hfind)).trans ?_
      simp [hblank]

/-- A nickname that is saved was nobody's, so it is a new one. -/
theorem updateNickname_profiles_iff (hinv : UsersInv w.db) (h : ProfilesCached w.db.users w.redis)
    (userId : Nat) (value : String) :
    ProfilesCached (w.updateNickname userId value).1.db.users
        (w.updateNickname userId value).1.redis ↔
      ∀ user, w.db.users.find? userId = some user →
        isBlank value ∨ ∃ v ∈ w.db.users.rows, v.nickname = value := by
  have hsame := updateNickname_same w userId value
  have hdb : (w.updateNickname userId value).1.db = nicknameCommit w.db userId value :=
    World.step_db (fun _ => none) w (.updateUserProfile userId (.nickname value) 0 0)
  rw [hdb]
  unfold nicknameCommit updateUserProfileNickname
  by_cases htaken : ∃ v ∈ w.db.users.rows, v.nickname = value
  · rw [if_pos (by simpa using htaken)]
    exact iff_of_true (h.congr hsame) fun _ _ => Or.inr htaken
  · rw [if_neg (by simpa using htaken)]
    cases hfind : w.db.users.find? userId with
    | none =>
      have hrejected : loadUser w.db userId = .error .typeError := by
        unfold loadUser
        rw [hfind]
      rw [hrejected]
      exact iff_of_true (h.congr hsame) nofun
    | some old =>
      have hload : loadUser w.db userId = .ok old := by
        unfold loadUser
        rw [hfind]
      rw [hload]
      by_cases hblank : isBlank value = true
      · simp only [bind, Except.bind, User.updateNickname, if_pos hblank]
        exact iff_of_true (h.congr hsame) fun _ _ => Or.inl hblank
      · have hid : old.id = userId := Table.find?_key hfind
        have hold := Table.mem_of_find? hfind
        have hst : Storable w.db { old with nickname := value } :=
          ⟨fun u hu hne => ⟨((hinv old hold).unique u hu hne).1, fun he => htaken ⟨u, hu, he⟩⟩,
            (hinv old hold).team⟩
        simp only [bind, Except.bind, User.updateNickname, if_neg hblank, saveUser_of_storable hst]
        refine (saved_cached_iff h hsame { old with nickname := value }
          (hid ▸ hfind)).trans (iff_of_false ?_ ?_)
        · exact fun he => htaken ⟨old, hold, he.1.symm⟩
        · exact fun hk => (hk old rfl).elim hblank htaken

/-- A change of team writes rankings only. -/
theorem updateTeamId_userInfo (w : World) (userId value year pick : Nat) :
    (w.updateTeamId userId value year pick).1.redis.userInfo = w.redis.userInfo := by
  unfold World.updateTeamId
  split
  · rfl
  · split
    · rfl
    · split
      · rfl
      · split <;> simp

theorem updateTeamId_profiles (h : ProfilesCached w.db.users w.redis) (userId value year pick : Nat) :
    ProfilesCached (teamIdCommit w.db userId value year pick).users
      (w.updateTeamId userId value year pick).1.redis := by
  have hsame := SameProfiles.of_eq (updateTeamId_userInfo w userId value year pick)
  cases hup : updateUserProfileTeamId w.db userId value with
  | error e =>
    have hdb : teamIdCommit w.db userId value year pick = w.db := by
      unfold teamIdCommit
      rw [hup]
    rw [hdb]
    exact h.congr hsame
  | ok p =>
    rw [(teamIdCommit_users year pick hup).1]
    obtain ⟨old, user, hfind, rfl, -, hdb, -⟩ := updateUserProfileTeamId_ok hup
    rw [← Table.find?_key hfind] at hfind
    rw [hdb, Db.withUsers_users]
    exact (saved_cached_iff h hsame { old with supportTeam := value } hfind).2 ⟨rfl, rfl⟩

theorem cacheUser_profiles (h : ProfilesCached w.db.users w.redis) {db1 db' : Db} {user : User}
    {k : RankKey} (hs : SignedUp w.db db1 user) (hins : insertRankIfAbsent db1 k = .ok db') :
    ProfilesCached (World.cacheUser { w with db := db' } user).db.users
      (World.cacheUser { w with db := db' } user).redis := by
  obtain ⟨rows, hw, -⟩ := insertRankIfAbsent_ok hins
  show ProfilesCached db'.users (rankingHook db' (w.redis.saveUsers [user]) user.id)
  rw [hw.users, hs.users]
  exact signedUp_cached h user (.of_eq (userInfo_rankingHook db' _ user.id))

/-- A request on registrations leaves the user rows, and its hook the hashes. -/
theorem registrations_profiles (h : ProfilesCached w.db.users w.redis) {w' : World} {db1 : Db}
    {rows : List Rank} (hu : db1.users = w.db.users) (hw : RankWrites db1 w'.db rows)
    (hredis : w'.redis.userInfo = w.redis.userInfo) : ProfilesCached w'.db.users w'.redis := by
  rw [hw.users, hu]
  exact h.congr (.of_eq hredis)

theorem deleteUser_profiles (h : ProfilesCached w.db.users w.redis) (userId : Nat) :
    ProfilesCached (w.step extractKeyFromUrl (.deleteUser userId)).db.users
      (w.step extractKeyFromUrl (.deleteUser userId)).redis := by
  cases hrow : deleteUserRow w.db userId with
  | error e =>
    rw [World.step_deleteUser_error extractKeyFromUrl hrow]
    exact h
  | ok p =>
    rw [World.step_deleteUser_ok extractKeyFromUrl hrow]
    refine removed_cached h userId fun v hv => ?_
    rw [Redis.userInfo_deleteRankByUserId]
    exact Function.update_of_ne hv ..

/-- What one event keeps of the cache. -/
theorem next_profiles_iff (e : Event) (hinv : UsersInv w.db)
    (h : ProfilesCached w.db.users w.redis) :
    ProfilesCached (w.next extractKeyFromUrl e).db.users (w.next extractKeyFromUrl e).redis ↔
      KeepsProfile w e := by
  cases e with
  | outcomes f => exact iff_of_true h trivial
  | newGame game =>
    refine iff_of_true ?_ trivial
    show ProfilesCached (w.db.insertGame game).users w.redis
    rw [(insertGame_keeps w.db game).2.1]
    exact h
  | request op =>
    cases op with
    | registerLocalUser dto env year =>
      refine iff_of_true ?_ trivial
      refine World.transactional_of (P := fun w => ProfilesCached w.db.users w.redis) h
        fun db user hok => ?_
      obtain ⟨db1, k, hs, hins, -⟩ := registerLocalUser_ok hok
      exact cacheUser_profiles h hs hins
    | loginSocialUser sub email provider pick env year =>
      refine iff_of_true ?_ trivial
      refine World.transactional_of (P := fun w => ProfilesCached w.db.users w.redis) h
        fun db p hok => ?_
      obtain ⟨user, isNewUser⟩ := p
      rcases loginSocialUser_ok hok with ⟨rfl, rfl⟩ | ⟨rfl, db1, k, hs, hins, -⟩
      · exact h
      · exact cacheUser_profiles h hs hins
    | register dto userId newId =>
      refine iff_of_true ?_ trivial
      refine World.transactional_of (P := fun w => ProfilesCached w.db.users w.redis) h
        fun db a hok => ?_
      obtain ⟨db1, rows, -, hu, -, hw, -⟩ := register_writes hok
      exact registrations_profiles h hu hw (userInfo_rankingHook _ _ _)
    | update id dto userId =>
      refine iff_of_true ?_ trivial
      refine World.transactional_of (P := fun w => ProfilesCached w.db.users w.redis) h
        fun db result hok => ?_
      obtain ⟨db1, rows, -, hu, -, hw, -⟩ := update_writes hok
      refine registrations_profiles h hu (by rw [World.updateHook_db]; exact hw) ?_
      rw [World.updateHook_redis]
      split <;> simp
    | delete id userId =>
      refine iff_of_true ?_ trivial
      refine World.transactional_of (P := fun w => ProfilesCached w.db.users w.redis) h
        fun db result hok => ?_
      obtain ⟨db1, rows, -, hu, -, hw, -⟩ := delete_writes hok
      refine registrations_profiles h hu (by rw [World.deleteHook_db]; exact hw) ?_
      rw [World.deleteHook_redis]
      split <;> simp
    | updateUserProfile userId input year pick =>
      cases input with
      | image value => exact updateImage_profiles_iff extractKeyFromUrl hinv h userId value
      | nickname value => exact updateNickname_profiles_iff hinv h userId value
      | teamId value =>
        refine iff_of_true ?_ trivial
        have hdb := World.step_db extractKeyFromUrl w
          (.updateUserProfile userId (.teamId value) year pick)
        have hteam := updateTeamId_profiles h userId value year pick
        rw [show teamIdCommit w.db userId value year pick = _ from hdb.symm] at hteam
        exact hteam
    | deleteUser userId => exact iff_of_true (deleteUser_profiles extractKeyFromUrl h userId) trivial

/-- **The profile cache.**  After every request of a history the reader returns each user's
stored profile exactly when every update of an image or a nickname is rejected, or sets the
image that is there. -/
theorem profile_cache_iff (teams : Table Team.id) (stadiums : Table Stadium.id)
    (games : Table GameRow.id) (terms : Table Term.id) (history : List Event) :
    Always (World.next extractKeyFromUrl) ReadsProfiles (World.start teams stadiums games terms)
        history ↔
      Guarded (World.next extractKeyFromUrl) KeepsProfile (World.start teams stadiums games terms)
        history := by
  have hstart : UsersInv (World.start teams stadiums games terms).db := nofun
  have hcached : ReadsProfiles (World.start teams stadiums games terms) := nofun
  refine always_iff_guarded (I := fun w => UsersInv w.db)
    (fun w e h => next_usersInv extractKeyFromUrl w e h) (fun w e h hp => ?_) hstart hcached history
  rw [readsProfiles_iff] at hp ⊢
  exact next_profiles_iff extractKeyFromUrl e h hp

end

/-- A fan signs up and takes another nickname. -/
def renamedFan : List Event :=
  [.request (.registerLocalUser ⟨"fan@test", "pw", "", "fan", 1⟩ ⟨1, "hash", fun _ => 0⟩ 2025),
   .request (.updateUserProfile 1 (.nickname "fairy") 2025 0)]

/-- The cache still has the nickname of the sign-up. -/
theorem nickname_stays_cached :
    ¬ Always (World.next fun _ => none) ReadsProfiles
      (World.start twoTeams .empty .empty .empty) renamedFan := by
  intro h
  have hread := h.last ⟨1, DEFAULT_PROFILE_IMAGE, "fairy", "fan@test", 1⟩ (by decide)
  revert hread
  decide

end VictoryFairy
