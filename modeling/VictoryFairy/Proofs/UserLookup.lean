import VictoryFairy.Model.JwtStrategy
import VictoryFairy.Proofs.RankingEndpoint

/-!
# Looking up cached users

`HGETALL` of a missing key answers with an empty object, whose `id` is then used.  So a user
without a cached profile is an error, and the database behind the cache is never asked.

    getUserInfoByIds_error : one missing profile ends the lookup
    checkUser_uncached, checkUser_cached
    checkUser_iff          : when the lookups do what they are for
    canActivate_iff        : a refresh token is of no use without a cached profile
-/

namespace VictoryFairy

/-- The hash of the user is there. -/
def IsCached (redis : Redis) (userId : Nat) : Prop := redis.userInfo userId ≠ .empty

/-- Every hash is that of a user of the database, or missing. -/
def ConsistentCache (redis : Redis) (db : Db) : Prop :=
  ∀ u, IsCached redis u → ∃ user, db.users.find? u = some user ∧ (redis.userInfo u).id = some u ∧
    (redis.userInfo u).nickname = some user.nickname ∧
    (redis.userInfo u).profileImage = some user.profileImage

/-- The map has exactly the cached ones among the users asked for. -/
def ReturnsCached (redis : Redis) (userIds : List Nat) : Prop :=
  ∃ parsedInfo, redis.getUserInfoByIds userIds = .ok parsedInfo ∧
    ∀ u p, parsedInfo.find? (fun p => p.id == u) = some p ↔
      u ∈ userIds ∧ IsCached redis u ∧ p = redis.profile u

/-- The check answers for a user of the database, and refuses any other. -/
def ChecksUser (redis : Redis) (db : Db) (userId : Nat) : Prop :=
  checkUser redis db userId = match db.users.find? userId with
    | some user => .ok ⟨user.id, some user.nickname, some user.profileImage⟩
    | none => .error (.http 401 "유저 정보 없음")

section

variable {redis : Redis} {db : Db} {userIds : List Nat}

/-- One missing profile ends the lookup. -/
theorem getUserInfoByIds_error {u : Nat} (hu : u ∈ userIds) (h : (redis.userInfo u).id = none) :
    redis.getUserInfoByIds userIds = .error .typeError := by
  have hloop : ∀ (userIds : List Nat) (acc : List UserProfile), u ∈ userIds →
      userIds.foldlM redis.parseUserInfo acc = .error .typeError := by
    intro userIds
    induction userIds with
    | nil => exact fun _ hmem => absurd hmem List.not_mem_nil
    | cons v userIds ih =>
      intro acc hmem
      rw [List.foldlM_cons]
      unfold Redis.parseUserInfo
      cases hv : (redis.userInfo v).id with
      | none => rfl
      | some id =>
        have hne : u ≠ v := by
          rintro rfl
          rw [h] at hv
          cases hv
        exact ih _ ((List.mem_cons.1 hmem).resolve_left hne)
  exact hloop userIds [] hu

theorem returnsCached_of_all (h : ∀ u ∈ userIds, (redis.userInfo u).id = some u) :
    ReturnsCached redis userIds := by
  refine ⟨_, getUserInfoByIds_eq h, fun u p => ⟨fun hfind => ?_, ?_⟩⟩
  · obtain ⟨v, hv, rfl⟩ := List.mem_map.1 (List.mem_reverse.1 (List.mem_of_find?_eq_some hfind))
    have huv : v = u := by simpa [Redis.profile] using List.find?_some hfind
    subst huv
    refine ⟨hv, fun hempty => ?_, rfl⟩
    have hid := h v hv
    rw [hempty] at hid
    cases hid
  · rintro ⟨hu, -, rfl⟩
    exact find?_profile hu

theorem ConsistentCache.id (h : ConsistentCache redis db) {u : Nat} (hu : IsCached redis u) :
    (redis.userInfo u).id = some u := by
  obtain ⟨-, -, hid, -⟩ := h u hu
  exact hid

theorem checkUser_uncached {u : Nat} (h : ¬ IsCached redis u) :
    checkUser redis db u = .error .typeError := by
  have hid : (redis.userInfo u).id = none := by
    rw [not_not.1 h]
    rfl
  unfold checkUser
  rw [getUserInfoByIds_error List.mem_cons_self hid]
  rfl

theorem checkUser_cached (hcache : ConsistentCache redis db) {u : Nat} (h : IsCached redis u) :
    ∃ user, db.users.find? u = some user ∧
      checkUser redis db u = .ok ⟨user.id, some user.nickname, some user.profileImage⟩ := by
  obtain ⟨user, huser, hid, hnickname, himage⟩ := hcache u h
  have hkey : user.id = u := Table.find?_key huser
  refine ⟨user, huser, ?_⟩
  unfold checkUser
  rw [getUserInfoByIds_eq (fun v hv => by rw [List.mem_singleton.1 hv]; exact hid)]
  dsimp only [bind, Except.bind]
  rw [find?_profile List.mem_cons_self, hkey]
  unfold Redis.profile
  rw [hnickname, himage]
  rfl

/-- **Missing cache entries.**  With a cache that agrees with the database, both lookups do what
they are for exactly when nothing they look for is missing. -/
theorem checkUser_iff (redis : Redis) (db : Db) (userIds : List Nat) (userId : Nat)
    (hcache : ConsistentCache redis db) :
    (ReturnsCached redis userIds ↔ ∀ u ∈ userIds, IsCached redis u) ∧
      (ChecksUser redis db userId ↔ IsCached redis userId) := by
  refine ⟨⟨fun ⟨parsedInfo, hok, _⟩ u hu => ?_, fun hall => returnsCached_of_all fun u hu =>
    hcache.id (hall u hu)⟩, fun hchecks => ?_, fun hcached => ?_⟩
  · by_contra hno
    have hid : (redis.userInfo u).id = none := by
      rw [not_not.1 hno]
      rfl
    rw [getUserInfoByIds_error hu hid] at hok
    cases hok
  · by_contra hno
    unfold ChecksUser at hchecks
    rw [checkUser_uncached hno] at hchecks
    split at hchecks
    · cases hchecks
    · cases hchecks
  · obtain ⟨user, huser, hok⟩ := checkUser_cached hcache hcached
    unfold ChecksUser
    rw [hok, huser]

/-- A valid refresh token lets its user in exactly when the profile is cached. -/
theorem canActivate_iff (hcache : ConsistentCache redis db) {verify : String → Option IJwtPayload}
    {token : String} {payload : IJwtPayload} (htoken : token ≠ "")
    (hverify : verify token = some payload) (htype : payload.type = .rf) :
    canActivate verify redis db (some token) = .ok (payload.id, payload.email) ↔
      IsCached redis payload.id := by
  unfold canActivate validateToken
  rw [Option.getD_some]
  dsimp only
  rw [if_neg htoken, hverify]
  dsimp only [bind, Except.bind]
  constructor
  · intro hok
    by_contra hno
    rw [checkUser_uncached hno] at hok
    cases hok
  · intro hcached
    obtain ⟨user, -, hok⟩ := checkUser_cached hcache hcached
    rw [hok]
    dsimp only
    rw [if_pos htype]
    rfl

end

/-- The fan is cached. -/
def fanCached : Redis := Redis.empty.saveUsers leagueDb.users.rows

theorem fanCached_consistent : ConsistentCache fanCached leagueDb := by
  intro u hu
  by_cases h : u = 7
  · subst h
    exact ⟨⟨7, DEFAULT_PROFILE_IMAGE, "fan", "fan@test", 1⟩, by decide, rfl, rfl, rfl⟩
  · exact absurd (Function.update_of_ne h _ _) hu

theorem checkUser_iff_fan :
    (ReturnsCached fanCached [7, 8] ↔ ∀ u ∈ [7, 8], IsCached fanCached u) ∧
      (ChecksUser fanCached leagueDb 7 ↔ IsCached fanCached 7) :=
  checkUser_iff fanCached leagueDb [7, 8] 7 fanCached_consistent

/-- With nothing cached, neither the fan nor a user who does not exist gets the answer that is
meant for them. -/
theorem checkUser_uncached_fan : ConsistentCache Redis.empty leagueDb ∧
    ¬ ReturnsCached Redis.empty [7] ∧ ¬ ChecksUser Redis.empty leagueDb 7 ∧
    ¬ ChecksUser Redis.empty leagueDb 8 := by
  refine ⟨fun u hu => absurd rfl hu, ?_, ?_, ?_⟩
  · rintro ⟨parsedInfo, hok, -⟩
    cases hok
  · intro hchecks
    cases hchecks
  · intro hchecks
    cases hchecks

end VictoryFairy
