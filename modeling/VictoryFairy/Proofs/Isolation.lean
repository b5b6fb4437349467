import VictoryFairy.Proofs.Commits
import VictoryFairy.Proofs.ProfileCache
import VictoryFairy.Proofs.SocialUnlink

/-!
# Other users' requests

A request works under the id of its caller, and the statements it issues select by that id.
What the stores hold of a user (the row, the credentials, the agreed terms, the registrations,
the records, the ranking entries and the cached profile) is therefore changed by the user's
own requests alone.

    SameRows, SameCache : the database and Redis hold the same of a user
    ActsOn              : whose data a request is about
    commit_sameRows     : the database's part of another user's request
    step_sameCache      : the part of its hook
    others_leave_user_alone : any history of other users' requests
-/

namespace VictoryFairy

open Runs

/-- The database holds the same of the user. -/
structure SameRows (u : Nat) (db db' : Db) : Prop where
  user : db'.users.find? u = db.users.find? u
  localAuth : db'.localAuths.find? u = db.localAuths.find? u
  socialAuths : db'.socialAuths.rows.filter (fun a => decide (a.userId = u)) =
    db.socialAuths.rows.filter fun a => decide (a.userId = u)
  userTerms : db'.userTerms.rows.filter (fun t => decide (t.userId = u)) =
    db.userTerms.rows.filter fun t => decide (t.userId = u)
  registeredGames : db'.registeredGames.rows.filter (fun r => decide (r.user = u)) =
    db.registeredGames.rows.filter fun r => decide (r.user = u)
  ranks : rowsOf db' u = rowsOf db u

/-- Redis holds the same of the user. -/
structure SameCache (u : Nat) (redis redis' : Redis) : Prop where
  zscore : ∀ k, redis'.zscore k u = redis.zscore k u
  userInfo : redis'.userInfo u = redis.userInfo u

structure SameFor (u : Nat) (w w' : World) : Prop where
  rows : SameRows u w.db w'.db
  cache : SameCache u w.redis w'.redis

/-- The request is about the data of the user. -/
def AccountEvent.ActsOn (w : World) (u : Nat) : AccountEvent → Prop
  | .event (.request (.register _ userId _)) => userId = u
  | .event (.request (.update _ _ userId)) => userId = u
  | .event (.request (.delete _ userId)) => userId = u
  | .event (.request (.updateUserProfile userId _ _ _)) => userId = u
  | .event (.request (.deleteUser userId)) => userId = u
  | .event _ => False
  | .linkSocial userId _ _ _ => userId = u
  | .unlinkSocial userId _ _ => userId = u
  | .changePassword email _ => ∃ user, w.db.userByEmail email = some user ∧ user.id = u

variable {u : Nat}

/-! ## Rows of other users -/

namespace SameRows

variable {db db1 db' : Db}

theorem refl (db : Db) : SameRows u db db := ⟨rfl, rfl, rfl, rfl, rfl, rfl⟩

theorem trans (h : SameRows u db db1) (h' : SameRows u db1 db') : SameRows u db db' :=
  ⟨h'.user.trans h.user, h'.localAuth.trans h.localAuth, h'.socialAuths.trans h.socialAuths,
    h'.userTerms.trans h.userTerms, h'.registeredGames.trans h.registeredGames,
    h'.ranks.trans h.ranks⟩

theorem saveUser {user : User} (h : user.id ≠ u) :
    SameRows u db (db.withUsers (db.users.save user)) :=
  ⟨Table.find?_save_of_ne _ h, rfl, rfl, rfl, rfl, rfl⟩

theorem saveLocalAuth {auth : LocalAuth} (h : auth.userId ≠ u) :
    SameRows u db { db with localAuths := db.localAuths.save auth } :=
  ⟨rfl, Table.find?_save_of_ne _ h, rfl, rfl, rfl, rfl⟩

theorem insertSocialAuth {auth : SocialAuth} (hfresh : db.socialAuths.find? auth.key = none)
    (h : auth.userId ≠ u) : SameRows u db { db with socialAuths := db.socialAuths.save auth } := by
  refine ⟨rfl, rfl, Table.filter_save_of_mem _ _ _ (decide_eq_false h) fun b hb he => ?_, rfl, rfl,
    rfl⟩
  exact absurd he (Table.find?_eq_none.1 hfresh b hb)

theorem removeSocialAuth {auth : SocialAuth} (hmem : auth ∈ db.socialAuths.rows)
    (h : auth.userId ≠ u) :
    SameRows u db { db with socialAuths := db.socialAuths.remove auth.key } := by
  refine ⟨rfl, rfl, Table.filter_reject _ _ _ fun b hb hu => ?_, rfl, rfl, rfl⟩
  rw [decide_eq_false_iff_not]
  intro he
  obtain rfl := Table.eq_of_key hb hmem he
  exact h (of_decide_eq_true hu)

theorem insertUserTerms {terms : List UserTerm} (hterms : ∀ t ∈ terms, t.userId ≠ u)
    (h : insertUserTerms db terms = .ok db') : SameRows u db db' := by
  induction terms generalizing db with
  | nil => cases h; exact .refl _
  | cons t terms ih =>
    unfold VictoryFairy.insertUserTerms at h
    rw [List.foldlM_cons] at h
    obtain ⟨db1, h1, h⟩ := bind_eq_ok.1 h
    refine .trans ?_ (ih (fun s hs => hterms s (List.mem_cons_of_mem t hs)) h)
    unfold Db.insertUserTerm at h1
    split at h1
    · cases h1
    · split at h1
      · cases h1
      · next hins =>
        cases h1
        obtain ⟨-, rfl⟩ := Table.insert?_eq_some.1 hins
        refine ⟨rfl, rfl, rfl, Table.filter_save _ _ _ fun b hb => ?_, rfl, rfl⟩
        have hid : b.userId = t.userId := congrArg Prod.fst hb
        rw [hid]
        exact decide_eq_false (hterms t List.mem_cons_self)

/-- A registration that is new, or replaces one of its own user. -/
theorem saveRegisteredGame {r : RegisteredGame} (h : r.user ≠ u)
    (hold : ∀ b ∈ db.registeredGames.rows, b.id = r.id → b.user = r.user) :
    SameRows u db (db.withRegisteredGames (db.registeredGames.save r)) := by
  refine ⟨rfl, rfl, rfl, rfl, Table.filter_save_of_mem _ _ _ (decide_eq_false h) fun b hb he => ?_,
    rfl⟩
  rw [hold b hb he]
  exact decide_eq_false h

theorem removeRegisteredGame {id : Nat} {r : RegisteredGame}
    (hr : db.registeredGames.find? id = some r) (h : r.user ≠ u) :
    SameRows u db (db.withRegisteredGames (db.registeredGames.remove id)) := by
  refine ⟨rfl, rfl, rfl, rfl, Table.filter_reject _ _ _ fun b hb hu => ?_, rfl⟩
  rw [decide_eq_false_iff_not]
  rintro rfl
  rw [Table.find?_of_mem hb] at hr
  cases hr
  exact h (of_decide_eq_true hu)

theorem rankWrites {rows : List Rank} (hw : RankWrites db db' rows)
    (hrows : ∀ row ∈ rows, row.user ≠ u) : SameRows u db db' := by
  obtain ⟨rfl, -, -⟩ := hw
  refine ⟨rfl, rfl, rfl, rfl, rfl, ?_⟩
  induction rows generalizing db with
  | nil => rfl
  | cons row rows ih =>
    have ih := @ih (db.withRanks (db.ranks.save row))
      fun r hr => hrows r (List.mem_cons_of_mem row hr)
    exact ih.trans (rowsOf_saveRank db row u (hrows row List.mem_cons_self))

theorem applyRankUpdates {us : List RankUpdate} (h : applyRankUpdates db us = .ok db')
    (hus : ∀ x ∈ us, x.1.key.user ≠ u) : SameRows u db db' := by
  obtain ⟨rows, hw, hkeys, -⟩ := applyRankUpdates_ok h
  refine .rankWrites hw fun row hrow => ?_
  obtain ⟨x, hx, he, -⟩ := hkeys row hrow
  exact fun hu => hus x hx ((congrArg RankKey.user he).symm.trans hu)

theorem insertRankIfAbsent {k : RankKey} (h : insertRankIfAbsent db k = .ok db') (hk : k.user ≠ u) :
    SameRows u db db' := by
  obtain ⟨rows, hw, hkeys, -⟩ := insertRankIfAbsent_ok h
  exact .rankWrites hw fun row hrow hu => hk ((congrArg RankKey.user (hkeys row hrow)).symm.trans hu)

theorem deleteRank {userId : Nat} (h : userId ≠ u) (teamId pick : Nat) :
    SameRows u db (deleteRank db teamId userId none pick) := by
  rcases deleteRank_eq db teamId userId pick with ⟨he, -⟩ | ⟨row, -, hrow, -, he⟩ <;> rw [he]
  · exact .refl db
  · refine ⟨rfl, rfl, rfl, rfl, rfl, Table.filter_reject _ _ _ fun b _ hu => ?_⟩
    rw [decide_eq_false_iff_not]
    intro hk
    refine h ?_
    rw [← hrow, ← of_decide_eq_true hu]
    exact (congrArg RankKey.user hk).symm

theorem removeUser {userId : Nat} (h : userId ≠ u) : SameRows u db (db.removeUser userId) := by
  have hother : ∀ v : Nat, decide (v = u) = true → decide (v = userId) = false :=
    fun v hv => decide_eq_false fun he => h (he.symm.trans (of_decide_eq_true hv))
  refine ⟨?_, ?_, Table.filter_reject _ _ _ fun a _ => hother a.userId,
    Table.filter_reject _ _ _ fun t _ => hother t.userId,
    Table.filter_reject _ _ _ fun r _ => hother r.user,
    Table.filter_reject _ _ _ fun r _ => hother r.user⟩
  · exact (Table.find?_remove _ _ _).trans (if_neg h)
  · exact (Table.find?_remove _ _ _).trans (if_neg h)

end SameRows

/-! ## The database's part of a request -/

/-- A request updates records of its caller. -/
theorem registerUpdates_user {row : RegisteredGame} {year : Nat} :
    ∀ x ∈ registerUpdates row year, x.1.key.user = row.user := by
  intro x hx
  unfold registerUpdates at hx
  split at hx
  · rw [List.mem_singleton.1 hx]
  · cases hx

theorem TeamCtx.rankUpdates_user {ctx : TeamCtx} {userId : Nat} :
    ∀ x ∈ ctx.rankUpdates userId, x.1.key.user = userId := by
  intro x hx
  unfold TeamCtx.rankUpdates at hx
  split at hx
  · rcases List.mem_cons.1 hx with rfl | hx
    · rfl
    · rw [List.mem_singleton.1 hx]
  · cases hx

theorem GameCtx.rankUpdates_user {ctx : GameCtx} {userId : Nat} :
    ∀ x ∈ ctx.rankUpdates userId, x.1.key.user = userId := by
  intro x hx
  unfold GameCtx.rankUpdates at hx
  split at hx
  · rw [List.mem_singleton.1 hx]
  · cases hx

theorem agreeTerms_userId {userId : Nat} {agreed termIds : List String} {terms : List UserTerm}
    (h : User.agreeTerms userId agreed termIds = .ok terms) : ∀ t ∈ terms, t.userId = userId := by
  unfold User.agreeTerms at h
  generalize termIds.filter (fun id => !agreed.contains id) = ids at h
  induction ids generalizing terms with
  | nil => cases h; exact nofun
  | cons id ids ih =>
    rw [List.mapM_cons] at h
    obtain ⟨term, hterm, h⟩ := bind_eq_ok.1 h
    obtain ⟨rest, hrest, h⟩ := bind_eq_ok.1 h
    cases h
    intro t ht
    rcases List.mem_cons.1 ht with rfl | ht
    · split at hterm
      · cases hterm
      · cases hterm; rfl
    · exact ih hrest t ht

section

variable {db db' : Db}

theorem SignedUp.ne_of_isSome {user : User} (h : SignedUp db db' user)
    (hu : (db.users.find? u).isSome) : user.id ≠ u := by
  rintro rfl
  rw [h.fresh] at hu
  cases hu

/-- A sign-up works under a new id. -/
theorem createLocalUser_sameRows (hu : (db.users.find? u).isSome) {dto : CreateLocalUserDto}
    {termIds : List String} {env : SignUpEnv} {user : User}
    (h : createLocalUser db dto termIds env = .ok (db', user)) :
    user.id ≠ u ∧ SameRows u db db' := by
  unfold createLocalUser at h
  obtain ⟨nickname, -, h⟩ := bind_eq_ok.1 h
  obtain ⟨terms, hterms, h⟩ := bind_eq_ok.1 h
  obtain ⟨db1, h1, h⟩ := bind_eq_ok.1 h
  obtain ⟨db2, h2, h⟩ := bind_eq_ok.1 h
  obtain ⟨db3, h3, h⟩ := bind_eq_ok.1 h
  cases h
  have hne := (insertUser_ok h1).ne_of_isSome hu
  obtain rfl := insertUser_eq h1
  obtain rfl := insertLocalAuth_ok h2
  refine ⟨hne, ((SameRows.saveUser hne).trans (.saveLocalAuth hne)).trans (.insertUserTerms ?_ h3)⟩
  exact fun t ht => (agreeTerms_userId hterms t ht).trans_ne hne

theorem createSocialUser_sameRows (hu : (db.users.find? u).isSome)
    {email sub provider providerEmail : String} {isPrimary : Bool} {termIds : List String}
    {env : SignUpEnv} {user : User}
    (h : createSocialUser db email sub provider providerEmail isPrimary termIds env =
      .ok (db', user)) : user.id ≠ u ∧ SameRows u db db' := by
  unfold createSocialUser at h
  obtain ⟨nickname, -, h⟩ := bind_eq_ok.1 h
  obtain ⟨auth, hauth, h⟩ := bind_eq_ok.1 h
  obtain ⟨terms, hterms, h⟩ := bind_eq_ok.1 h
  obtain ⟨db1, h1, h⟩ := bind_eq_ok.1 h
  obtain ⟨db2, h2, h⟩ := bind_eq_ok.1 h
  obtain ⟨db3, h3, h⟩ := bind_eq_ok.1 h
  cases h
  have hne := (insertUser_ok h1).ne_of_isSome hu
  obtain rfl := insertUser_eq h1
  obtain ⟨hfresh, rfl⟩ := insertSocialAuth_ok h2
  have howner : auth.userId ≠ u := by
    rw [SocialAuth.create_ok hauth]
    exact hne
  refine ⟨hne, ((SameRows.saveUser hne).trans (.insertSocialAuth hfresh howner)).trans
    (.insertUserTerms ?_ h3)⟩
  exact fun t ht => (agreeTerms_userId hterms t ht).trans_ne hne

theorem registerLocalUser_sameRows (hu : (db.users.find? u).isSome) {dto : CreateLocalUserDto}
    {env : SignUpEnv} {year : Nat} {user : User}
    (h : registerLocalUser db dto env year = .ok (db', user)) :
    user.id ≠ u ∧ SameRows u db db' := by
  unfold registerLocalUser at h
  obtain ⟨⟨db1, created⟩, h1, h⟩ := bind_eq_ok.1 h
  obtain ⟨db2, h2, h⟩ := bind_eq_ok.1 h
  cases h
  obtain ⟨hne, hsame⟩ := createLocalUser_sameRows hu h1
  exact ⟨hne, hsame.trans (.insertRankIfAbsent h2 hne)⟩

theorem loginSocialUser_sameRows (hu : (db.users.find? u).isSome) {sub email provider : String}
    {pick : Nat} {env : SignUpEnv} {year : Nat} {user : User} {isNewUser : Bool}
    (h : loginSocialUser db sub email provider pick env year = .ok (db', user, isNewUser)) :
    (isNewUser = true → user.id ≠ u) ∧ SameRows u db db' := by
  unfold loginSocialUser at h
  obtain ⟨found, -, h⟩ := bind_eq_ok.1 h
  cases found with
  | some user => cases h; exact ⟨nofun, .refl _⟩
  | none =>
    obtain ⟨⟨db1, created⟩, h1, h⟩ := bind_eq_ok.1 h
    obtain ⟨db2, h2, h⟩ := bind_eq_ok.1 h
    cases h
    obtain ⟨hne, hsame⟩ := createSocialUser_sameRows hu h1
    exact ⟨fun _ => hne, hsame.trans (.insertRankIfAbsent h2 hne)⟩

variable {userId : Nat} (hne : userId ≠ u)
include hne

theorem register_sameRows {dto : CreateRegisteredGameDto} {newId : Nat}
    {response : RegisteredGameWithGameResponseDto}
    (h : register db dto userId newId = .ok (db', response)) : SameRows u db db' := by
  obtain ⟨row, game, hnew, rfl, -, -, -, hus⟩ := register_ok h
  refine (SameRows.saveRegisteredGame hne fun b hb he => ?_).trans (.applyRankUpdates hus ?_)
  · exact absurd (he.trans hnew.id) (hnew.fresh b hb).1
  · exact fun x hx => (registerUpdates_user x hx).trans_ne hne

theorem update_sameRows {id : Nat} {dto : UpdateRegisteredGameInput}
    {result : UpdateRegisteredGameResult} (h : update db id dto userId = .ok (db', result)) :
    SameRows u db db' := by
  obtain ⟨r, game, changed, hr, rfl, -, hedit, -, -, -, -, hus⟩ := update_ok h
  refine (SameRows.saveRegisteredGame (hedit.user.trans_ne hne) fun b hb he => ?_).trans
    (.applyRankUpdates hus ?_)
  · have hid : b.id = id := (he.trans hedit.id).trans (Table.find?_key hr)
    obtain rfl := Option.some.inj ((Table.find?_eq_some.2 ⟨hb, hid⟩).symm.trans hr)
    exact hedit.user.symm
  · exact fun x hx => (TeamCtx.rankUpdates_user x hx).trans_ne hne

theorem delete_sameRows {id : Nat} {result : DeleteRegisteredGameResult}
    (h : delete db id userId = .ok (db', result)) : SameRows u db db' := by
  obtain ⟨r, game, hr, rfl, -, -, -, hus⟩ := delete_ok h
  refine (SameRows.removeRegisteredGame hr hne).trans (.applyRankUpdates hus fun x hx => ?_)
  exact (GameCtx.rankUpdates_user x hx).trans_ne hne

theorem updateImage_sameRows {value : String} {prev : Option String}
    (h : updateUserProfileImage db userId value = .ok (db', prev)) : SameRows u db db' := by
  obtain ⟨old, user, hfind, rfl, rfl, -⟩ := updateUserProfileImage_ok h
  exact .saveUser ((Table.find?_key hfind : old.id = userId).trans_ne hne)

theorem updateNickname_sameRows {value : String}
    (h : updateUserProfileNickname db userId value = .ok db') : SameRows u db db' := by
  obtain ⟨old, user, hfind, rfl, rfl, -⟩ := updateUserProfileNickname_ok h
  exact .saveUser ((Table.find?_key hfind : old.id = userId).trans_ne hne)

theorem updateTeamId_sameRows {value prevTeamId : Nat}
    (h : updateUserProfileTeamId db userId value = .ok (db', prevTeamId)) : SameRows u db db' := by
  obtain ⟨old, user, hfind, rfl, -, rfl, -⟩ := updateUserProfileTeamId_ok h
  exact .saveUser ((Table.find?_key hfind : old.id = userId).trans_ne hne)

theorem teamIdCommit_sameRows (value year pick : Nat) :
    SameRows u db (teamIdCommit db userId value year pick) := by
  unfold teamIdCommit
  split
  · exact .refl db
  · next db1 prevTeamId h1 =>
    have hsaved := updateTeamId_sameRows hne h1
    split
    · exact hsaved
    · next db2 h2 =>
      have hinserted := hsaved.trans (.insertRankIfAbsent h2 hne)
      split
      · exact hinserted.trans (.deleteRank hne prevTeamId pick)
      · exact hinserted

end

/-- The database's part of another user's request. -/
theorem commit_sameRows {w : World} {op : Op} (hu : (w.db.users.find? u).isSome)
    (h : ¬ AccountEvent.ActsOn w u (.event (.request op))) : SameRows u w.db (w.db.commit op) := by
  cases op with
  | registerLocalUser dto env year =>
    exact committed_of (.refl _) fun db' user hok => (registerLocalUser_sameRows hu hok).2
  | loginSocialUser sub email provider pick env year =>
    exact committed_of (.refl _) fun db' p hok => (loginSocialUser_sameRows hu hok).2
  | register dto userId newId =>
    exact committed_of (.refl _) fun db' response hok => register_sameRows h hok
  | update id dto userId =>
    exact committed_of (.refl _) fun db' result hok => update_sameRows h hok
  | delete id userId =>
    exact committed_of (.refl _) fun db' result hok => delete_sameRows h hok
  | updateUserProfile userId input year pick =>
    cases input with
    | image value => exact committed_of (.refl _) fun db' prev hok => updateImage_sameRows h hok
    | nickname value =>
      show SameRows u w.db (nicknameCommit w.db userId value)
      unfold nicknameCommit
      cases hok : updateUserProfileNickname w.db userId value with
      | error e => exact .refl _
      | ok db' => exact updateNickname_sameRows h hok
    | teamId value => exact teamIdCommit_sameRows h value year pick
  | deleteUser userId =>
    refine committed_of (.refl _) fun db' prev hok => ?_
    rw [deleteUserRow_ok hok]
    exact .removeUser h

/-! ## The hook's part -/

namespace SameCache

variable {redis redis1 redis' : Redis}

theorem refl (redis : Redis) : SameCache u redis redis := ⟨fun _ => rfl, rfl⟩

theorem trans (h : SameCache u redis redis1) (h' : SameCache u redis1 redis') :
    SameCache u redis redis' :=
  ⟨fun k => (h'.zscore k).trans (h.zscore k), h'.userInfo.trans h.userInfo⟩

variable {userId : Nat} (hne : userId ≠ u)
include hne

theorem rankingHook (db : Db) : SameCache u redis (rankingHook db redis userId) :=
  ⟨fun k => (zscore_rankingHook db redis userId k u).trans (if_neg hne),
    congrFun (userInfo_rankingHook db redis userId) u⟩

theorem setUserInfo (info : UserInfoHash) : SameCache u redis (redis.setUserInfo userId info) :=
  ⟨fun _ => rfl, Function.update_of_ne (Ne.symm hne) _ _⟩

theorem updateFieldsOfUser {field value : String}
    (h : redis.updateFieldsOfUser userId field value = .ok redis') : SameCache u redis redis' := by
  unfold Redis.updateFieldsOfUser at h
  split at h
  · cases h
  · cases h
    exact setUserInfo hne _

theorem deleteRankByUserId (teamIds : List Nat) :
    SameCache u redis (redis.deleteRankByUserId userId teamIds) :=
  ⟨fun k => (Redis.zscore_deleteRankByUserId redis userId teamIds k u).trans
      (if_neg fun h => hne h.1),
    congrFun (Redis.userInfo_deleteRankByUserId redis userId teamIds) u⟩

theorem updateRankings {data : AggregatedRankStats} (hn : (data.map Prod.fst).Nodup) :
    SameCache u redis (redis.updateRankings userId data) :=
  ⟨fun k => (Redis.zscore_updateRankings redis userId data hn k u).trans (if_neg hne),
    congrFun (Redis.userInfo_updateRankings redis userId data) u⟩

end SameCache

theorem cacheUser_sameCache {w : World} {user : User} (hne : user.id ≠ u) :
    SameCache u w.redis (w.cacheUser user).redis :=
  (SameCache.setUserInfo hne _).trans (.rankingHook hne w.db)

theorem updateImage_sameCache (extractKeyFromUrl : String → Option String) {w : World} {userId : Nat}
    (hne : userId ≠ u) (value : String) :
    SameCache u w.redis (w.updateImage extractKeyFromUrl userId value).1.redis := by
  unfold World.updateImage
  cases updateUserProfileImage w.db userId value with
  | error e => exact .refl _
  | ok p =>
    obtain ⟨db, prevImage⟩ := p
    dsimp only
    generalize hw : (if (prevImage.getD "") ≠ "" then
      ({ w with db } : World).deleteImage extractKeyFromUrl prevImage else { w with db }) = w'
    have hredis : w'.redis = w.redis := by
      rw [← hw]
      split <;> simp
    cases hup : w'.redis.updateFieldsOfUser userId "profileImage" value with
    | error e => rw [hredis]; exact .refl _
    | ok redis => exact .updateFieldsOfUser hne (hredis ▸ hup)

theorem updateNickname_sameCache {w : World} {userId : Nat} (hne : userId ≠ u) (value : String) :
    SameCache u w.redis (w.updateNickname userId value).1.redis := by
  unfold World.updateNickname
  cases updateUserProfileNickname w.db userId value with
  | error e => exact .refl _
  | ok db =>
    dsimp only
    cases hup : w.redis.updateFieldsOfUser userId "nickname" value with
    | error e => exact .refl _
    | ok redis => exact .updateFieldsOfUser hne hup

theorem updateTeamId_sameCache {w : World} {userId : Nat} (hne : userId ≠ u) (value year pick : Nat) :
    SameCache u w.redis (w.updateTeamId userId value year pick).1.redis := by
  unfold World.updateTeamId
  split
  · exact .refl _
  · next db1 prevTeamId _ =>
    split
    · exact .refl _
    · split
      · exact .refl _
      · next data hdata =>
        have hn := aggregate_keys_nodup hdata
        split
        · refine .trans (.deleteRankByUserId hne [prevTeamId]) (.updateRankings hne ?_)
          exact hn.sublist (List.filter_sublist.map Prod.fst)
        · exact .updateRankings hne hn

/-- The hook of another user's request. -/
theorem step_sameCache (extractKeyFromUrl : String → Option String) {w : World} {op : Op}
    (hu : (w.db.users.find? u).isSome) (h : ¬ AccountEvent.ActsOn w u (.event (.request op))) :
    SameCache u w.redis (w.step extractKeyFromUrl op).redis := by
  cases op with
  | registerLocalUser dto env year =>
    refine World.transactional_of (P := fun w' => SameCache u w.redis w'.redis) (.refl _)
      fun db user hok => ?_
    exact cacheUser_sameCache (w := { w with db }) (registerLocalUser_sameRows hu hok).1
  | loginSocialUser sub email provider pick env year =>
    refine World.transactional_of (P := fun w' => SameCache u w.redis w'.redis) (.refl _)
      fun db p hok => ?_
    obtain ⟨user, isNewUser⟩ := p
    cases isNewUser with
    | false => exact .refl _
    | true => exact cacheUser_sameCache (w := { w with db }) ((loginSocialUser_sameRows hu hok).1 rfl)
  | register dto userId newId =>
    refine World.transactional_of (P := fun w' => SameCache u w.redis w'.redis) (.refl _)
      fun db response _ => ?_
    exact .rankingHook h db
  | update id dto userId =>
    refine World.transactional_of (P := fun w' => SameCache u w.redis w'.redis) (.refl _)
      fun db result _ => ?_
    rw [World.updateHook_redis]
    split
    · exact .rankingHook h db
    · exact .refl _
  | delete id userId =>
    refine World.transactional_of (P := fun w' => SameCache u w.redis w'.redis) (.refl _)
      fun db result _ => ?_
    rw [World.deleteHook_redis]
    split
    · exact .rankingHook h db
    · exact .refl _
  | updateUserProfile userId input year pick =>
    cases input with
    | image value => exact updateImage_sameCache extractKeyFromUrl h value
    | nickname value => exact updateNickname_sameCache h value
    | teamId value => exact updateTeamId_sameCache h value year pick
  | deleteUser userId =>
    cases hok : deleteUserRow w.db userId with
    | error e =>
      rw [World.step_deleteUser_error extractKeyFromUrl hok]
      exact .refl _
    | ok p =>
      rw [World.step_deleteUser_ok extractKeyFromUrl hok]
      exact (SameCache.setUserInfo h .empty).trans (.deleteRankByUserId h _)

/-! ## Histories -/

theorem linkSocial_sameRows {db db' : Db} {data : CreateSocialAuthInput} (hne : data.userId ≠ u)
    (h : linkSocial db data = .ok db') : SameRows u db db' := by
  obtain ⟨-, -, hfresh, rfl⟩ := linkSocial_ok h
  exact .insertSocialAuth hfresh hne

/-- The row an unlink removes is one of the user's. -/
theorem unlinkSocial_removes {db db' : Db} {userId pick : Nat} {provider : String}
    (h : unlinkSocial db userId provider pick = .ok db') :
    ∃ target ∈ db.socialAuths.rows, target.userId = userId ∧
      db' = { db with socialAuths := db.socialAuths.remove target.key } := by
  rw [unlinkSocial_eq] at h
  obtain ⟨user, -, h⟩ := bind_eq_ok.1 h
  obtain ⟨target, htarget, h⟩ := bind_eq_ok.1 h
  cases h
  unfold User.removeSocialAuth at htarget
  split at htarget
  · cases htarget
  · split at htarget
    · cases htarget
    · next found hfound =>
      split at htarget
      · cases htarget
      · cases htarget
        obtain ⟨hmem, huser⟩ := mem_socialAuthsOf.1 (List.mem_of_find?_eq_some hfound)
        exact ⟨target, hmem, huser, rfl⟩

theorem unlinkSocial_sameRows {db db' : Db} {userId pick : Nat} {provider : String}
    (hne : userId ≠ u) (h : unlinkSocial db userId provider pick = .ok db') : SameRows u db db' := by
  obtain ⟨target, hmem, huser, rfl⟩ := unlinkSocial_removes h
  exact .removeSocialAuth hmem (huser.trans_ne hne)

theorem changePassword_sameRows {w : World} {db' : Db} {email hashed : String}
    (hne : ¬ AccountEvent.ActsOn w u (.changePassword email hashed))
    (h : changePassword w.db email hashed = .ok db') : SameRows u w.db db' := by
  obtain ⟨user, old, hemail, -, hid, rfl⟩ := changePassword_writes h
  have hother : ({ old with password := hashed } : LocalAuth).userId ≠ u :=
    hid.trans_ne fun he => hne ⟨user, hemail, he⟩
  exact .saveLocalAuth hother

theorem nextAccount_sameFor (extractKeyFromUrl : String → Option String) {w : World}
    {e : AccountEvent} (hu : (w.db.users.find? u).isSome) (h : ¬ e.ActsOn w u) :
    SameFor u w (w.nextAccount extractKeyFromUrl e) := by
  cases e with
  | event e =>
    cases e with
    | request op =>
      refine ⟨?_, step_sameCache extractKeyFromUrl hu h⟩
      show SameRows u w.db (w.step extractKeyFromUrl op).db
      rw [World.step_db]
      exact commit_sameRows hu h
    | outcomes f => exact ⟨⟨rfl, rfl, rfl, rfl, rfl, rfl⟩, .refl _⟩
    | newGame game =>
      refine ⟨?_, .refl _⟩
      show SameRows u w.db (w.db.insertGame game)
      rcases insertGame_cases w.db game with he | ⟨-, he⟩ <;> rw [he]
      · exact .refl _
      · exact ⟨rfl, rfl, rfl, rfl, rfl, rfl⟩
  | linkSocial userId sub provider providerEmail =>
    let data : CreateSocialAuthInput := ⟨sub, provider, userId, providerEmail, false⟩
    have hne : data.userId ≠ u := h
    exact ⟨orKeep_of (.refl w.db) fun db' hok => linkSocial_sameRows hne hok, .refl _⟩
  | unlinkSocial userId provider pick =>
    exact ⟨orKeep_of (.refl w.db) fun db' hok => unlinkSocial_sameRows h hok, .refl _⟩
  | changePassword email hashed =>
    exact ⟨orKeep_of (.refl w.db) fun db' hok => changePassword_sameRows h hok, .refl _⟩

/-- **Other users' requests.**  Through any history in which no request is about the data of
a user who has signed up, whatever the others do and whichever of their requests fail, the
stores hold of that user exactly what they held at the start. -/
theorem others_leave_user_alone (extractKeyFromUrl : String → Option String) (u : Nat) (w : World)
    (hu : (w.db.users.find? u).isSome) (history : List AccountEvent)
    (hg : Guarded (World.nextAccount extractKeyFromUrl) (fun w e => ¬ AccountEvent.ActsOn w u e) w
      history) :
    Always (World.nextAccount extractKeyFromUrl) (SameFor u w) w history := by
  refine always_of_guarded (fun w1 e hsame hact => ?_) ⟨.refl _, .refl _⟩ hg
  have hstep := nextAccount_sameFor extractKeyFromUrl (hsame.rows.user ▸ hu) hact
  exact ⟨hsame.rows.trans hstep.rows, hsame.cache.trans hstep.cache⟩

/-- A fan with a password, a cached profile, a registration and a rank row that Redis knows of. -/
def settledFan : World :=
  run (World.nextAccount some)
    ⟨{ leagueDb with localAuths := ⟨[⟨7, "hash"⟩], by decide⟩ },
      Redis.empty.saveUsers [⟨7, DEFAULT_PROFILE_IMAGE, "fan", "fan@test", 1⟩], []⟩
    [.event (.newGame { wonGame with id := "20250602HHLG0", date := ⟨2025, 6, 2⟩ }),
      .event (.request (.register ⟨none, "B2", "fine", "20250602HHLG0", 1⟩ 7 5))]

/-- Another fan signs up, registers a game, links an account and leaves. -/
def visit : List AccountEvent :=
  [.event (.newGame wonGame),
    .event (.request (.registerLocalUser ⟨"guest@test", "pw", "", "guest", 2⟩ ⟨8, "hash", id⟩ 2025)),
    .event (.request (.register ⟨none, "A1", "good", wonGame.id, 2⟩ 8 1)),
    .linkSocial 8 "sub" "kakao" "guest@kakao",
    .event (.request (.deleteUser 8))]

theorem others_leave_user_alone_visit :
    settledFan.redis.zscore .total 7 ≠ none ∧
      Always (World.nextAccount some) (SameFor 7 settledFan) settledFan visit :=
  ⟨by decide, others_leave_user_alone some 7 settledFan (by decide) visit
    ⟨id, id, (by decide : ¬ 8 = 7), (by decide : ¬ 8 = 7), (by decide : ¬ 8 = 7), trivial⟩⟩

end VictoryFairy
