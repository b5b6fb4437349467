import VictoryFairy.Proofs.Rankings
import VictoryFairy.Proofs.Users

/-!
# Every user has a rank row

Each user has a rank row for the current team (`EntryInv`), so the aggregate a hook reads
after its request has committed is never `undefined`.  A change of team is not transactional:
it needs the insert of the new team's row to succeed, which it does in every year but `0`.

    insertRankIfAbsent_isOk_iff : when a row can be inserted
    next_entryInv               : every event with a real year keeps the rows
    refreshed_row               : the user whose rankings a request refreshes has a row
-/

namespace VictoryFairy

open Runs

/-! ## Inserting a rank row -/

theorem Rank.create_isOk_iff (k : RankKey) :
    (∃ r, Rank.create k = .ok r) ↔
      (1 ≤ k.teamId ∧ k.teamId ≤ 10) ∧ k.user ≠ 0 ∧ k.activeYear ≠ 0 := by
  unfold Rank.create Rank.validateDomain
  by_cases hteam : k.teamId = 0 ∨ k.teamId > 10
  · have hout : ¬ (1 ≤ k.teamId ∧ k.teamId ≤ 10) := by omega
    simp [hteam, hout, bind, Except.bind]
  · have hin : 1 ≤ k.teamId ∧ k.teamId ≤ 10 := by omega
    by_cases hu : k.user = 0
    · simp [hteam, hu, bind, Except.bind]
    · by_cases hy : k.activeYear = 0
      · simp [hteam, hu, hy, bind, Except.bind]
      · simp [hteam, hin, hu, hy, bind, Except.bind, pure, Except.pure]

theorem insertRankIfAbsent_isOk_iff (db : Db) (k : RankKey) :
    (∃ db', insertRankIfAbsent db k = .ok db') ↔
      (db.ranks.find? k).isSome ∨
        ((1 ≤ k.teamId ∧ k.teamId ≤ 10) ∧ k.user ≠ 0 ∧ k.activeYear ≠ 0) ∧
          (db.users.find? k.user).isSome := by
  unfold insertRankIfAbsent
  cases hf : db.ranks.find? k with
  | some r => simp
  | none =>
    rw [← Rank.create_isOk_iff]
    cases hc : Rank.create k with
    | error e => simp [bind, Except.bind]
    | ok r =>
      have huser : r.user = k.user := congrArg RankKey.user (Rank.create_ok hc).1
      cases hu : db.users.find? k.user <;> simp [bind, Except.bind, Db.saveRank, huser, hu]

/-! ## The invariant -/

/-- A rank row of the user for the current team. -/
def HasEntry (db : Db) (user : User) : Prop :=
  ∃ row ∈ db.ranks.rows, row.user = user.id ∧ row.teamId = user.supportTeam

structure EntryInv (db : Db) : Prop where
  fk : RankFk db
  id : ∀ user ∈ db.users.rows, user.id ≠ 0
  entry : ∀ user ∈ db.users.rows, HasEntry db user

theorem HasEntry.writes {db db' : Db} {user : User} {rows : List Rank} (h : HasEntry db user)
    (hw : RankWrites db db' rows) : HasEntry db' user := by
  obtain ⟨row, hrow, huser, hteam⟩ := h
  obtain ⟨row', hrow', hkey⟩ := hw.keeps hrow
  refine ⟨row', hrow', ?_, ?_⟩
  · exact (congrArg RankKey.user hkey).trans huser
  · exact (congrArg RankKey.teamId hkey).trans hteam

theorem HasEntry.congr {db db' : Db} {user : User} (h : HasEntry db user)
    (hr : db'.ranks = db.ranks) : HasEntry db' user := by
  unfold HasEntry
  rw [hr]
  exact h

/-- Dropping a team the user has left. -/
theorem HasEntry.deleteRank {db : Db} {user : User} {userId teamId : Nat} (h : HasEntry db user)
    (hleft : user.id = userId → user.supportTeam ≠ teamId) (pick : Nat) :
    HasEntry (deleteRank db teamId userId none pick) user := by
  rcases deleteRank_eq db teamId userId pick with ⟨he, -⟩ | ⟨gone, hgone, hu, ht, he⟩
  · rw [he]
    exact h
  · obtain ⟨row, hrow, huser, hteam⟩ := h
    rw [he]
    refine ⟨row, Table.mem_remove.2 ⟨hrow, fun hkey => ?_⟩, huser, hteam⟩
    have huserEq : row.user = gone.user := congrArg RankKey.user hkey
    have hteamEq : row.teamId = gone.teamId := congrArg RankKey.teamId hkey
    exact hleft (huser.symm.trans (huserEq.trans hu)) (hteam.symm.trans (hteamEq.trans ht))

/-- Rows are saved while the users stay. -/
theorem EntryInv.writes {db db1 db' : Db} {rows : List Rank} (h : EntryInv db) (hfk : RankFk db')
    (hr : db1.ranks = db.ranks) (hu : db1.users = db.users) (hw : RankWrites db1 db' rows) :
    EntryInv db' := by
  have husers : db'.users = db.users := by
    rw [hw.eq]
    exact hu
  refine ⟨hfk, fun user hm => ?_, fun user hm => ?_⟩ <;> rw [husers] at hm
  · exact h.id user hm
  · exact ((h.entry user hm).congr hr).writes hw

/-- A user row is saved with the old team. -/
theorem EntryInv.saveUser {db : Db} {old user : User} {userId : Nat} (h : EntryInv db)
    (hold : db.users.find? userId = some old) (hsame : user.id = old.id)
    (hteam : user.supportTeam = old.supportTeam) : EntryInv (db.withUsers (db.users.save user)) := by
  have hmem := Table.mem_of_find? hold
  refine ⟨h.fk.congr rfl rfl fun u hu => isSome_find?_saveUser hu, fun u hu => ?_, fun u hu => ?_⟩ <;>
    rcases Table.mem_save.1 hu with rfl | ⟨hu, -⟩
  · rw [hsame]
    exact h.id old hmem
  · exact h.id u hu
  · obtain ⟨row, hrow, huser, ht⟩ := h.entry old hmem
    exact ⟨row, hrow, huser.trans hsame.symm, ht.trans hteam.symm⟩
  · exact h.entry u hu

/-! ## One request -/

/-- The new user's row is one for the new user's team. -/
theorem signUp_entryInv {db db1 db' : Db} {user : User} {k : RankKey} (h : EntryInv db)
    (hs : SignedUp db db1 user) (hok : insertRankIfAbsent db1 k = .ok db') (hk : k.user = user.id)
    (hteam : 1 ≤ k.teamId → k.teamId = user.supportTeam) : EntryInv db' := by
  have hfk := signUp_rankFk h.fk hs hok hteam
  obtain ⟨rows, hw, -, hsome, -⟩ := insertRankIfAbsent_ok hok
  have husers : db'.users = db.users.save user := by
    rw [hw.eq]
    exact hs.users
  -- no row of the new user was there, so it has been created
  have hid : user.id ≠ 0 := by
    rcases (insertRankIfAbsent_isOk_iff db1 k).1 ⟨db', hok⟩ with hfound | ⟨⟨-, hu, -⟩, -⟩
    · rw [hs.ranks] at hfound
      obtain ⟨row, hfound⟩ := Option.isSome_iff_exists.1 hfound
      have huser : row.user = user.id :=
        (congrArg RankKey.user (Table.find?_key hfound)).trans hk
      have hexists := h.fk.user row (Table.mem_of_find? hfound)
      rw [huser, hs.fresh] at hexists
      cases hexists
    · rw [← hk]
      exact hu
  refine ⟨hfk, fun u hu => ?_, fun u hu => ?_⟩ <;> rw [husers] at hu <;>
    rcases Table.mem_save.1 hu with rfl | ⟨hu, -⟩
  · exact hid
  · exact h.id u hu
  · obtain ⟨row, hrow⟩ := Option.isSome_iff_exists.1 hsome
    have hkey : row.key = k := Table.find?_key hrow
    have hrowTeam : row.teamId = k.teamId := congrArg RankKey.teamId hkey
    have hge := (hfk.range row (Table.mem_of_find? hrow)).1
    refine ⟨row, Table.mem_of_find? hrow, (congrArg RankKey.user hkey).trans hk, ?_⟩
    rw [hrowTeam] at hge ⊢
    exact hteam hge
  · exact ((h.entry u hu).congr hs.ranks).writes hw

/-- In a real year the new team's row can be inserted. -/
theorem updateUserProfileTeamId_inserts {db db1 : Db} {userId value year prevTeamId : Nat}
    (h : EntryInv db) (hup : updateUserProfileTeamId db userId value = .ok (db1, prevTeamId))
    (hyear : year ≠ 0) : ∃ db2, insertRankIfAbsent db1 ⟨userId, value, year⟩ = .ok db2 := by
  rw [insertRankIfAbsent_isOk_iff]
  refine Or.inr ⟨⟨?_, ?_, hyear⟩, ?_⟩
  · unfold updateUserProfileTeamId at hup
    obtain ⟨old, -, hup⟩ := bind_eq_ok.1 hup
    obtain ⟨changed, hchanged, -⟩ := bind_eq_ok.1 hup
    exact (User.updateTeam_ok hchanged).2
  · obtain ⟨old, -, hfind, -⟩ := updateUserProfileTeamId_ok hup
    rw [← Table.find?_key hfind]
    exact h.id old (Table.mem_of_find? hfind)
  · obtain ⟨old, user, hfind, rfl, -, rfl, -⟩ := updateUserProfileTeamId_ok hup
    exact isSome_find?_saveUser (by rw [hfind]; rfl)

theorem teamIdCommit_entryInv {db : Db} (h : EntryInv db) (userId value year pick : Nat)
    (hyear : year ≠ 0) : EntryInv (teamIdCommit db userId value year pick) := by
  have hfk := teamIdCommit_rankFk h.fk userId value year pick
  cases hup : updateUserProfileTeamId db userId value with
  | error e =>
    unfold teamIdCommit
    rw [hup]
    exact h
  | ok p =>
    obtain ⟨db1, prevTeamId⟩ := p
    obtain ⟨db2, hins⟩ := updateUserProfileTeamId_inserts h hup hyear
    obtain ⟨old, user, hfind, huser, -, rfl, -⟩ := updateUserProfileTeamId_ok hup
    obtain ⟨rows, hw, -, hsome, -⟩ := insertRankIfAbsent_ok hins
    obtain ⟨row, hrow⟩ := Option.isSome_iff_exists.1 hsome
    have hkey : row.key = ⟨userId, value, year⟩ := Table.find?_key hrow
    have hold : old.id = userId := Table.find?_key hfind
    have hid : user.id = userId := by
      rw [huser]
      exact hold
    have hteam : user.supportTeam = value := by rw [huser]
    -- before the old team is dropped
    have hentries : ∀ u ∈ db2.users.rows, u.id ≠ 0 ∧ HasEntry db2 u ∧
        (u.id = userId → u.supportTeam = value) := by
      intro u hu
      rw [hw.eq] at hu
      rcases Table.mem_save.1 hu with rfl | ⟨hu, hne⟩
      · refine ⟨?_, ⟨row, Table.mem_of_find? hrow, ?_, ?_⟩, fun _ => hteam⟩
        · rw [hid, ← hold]
          exact h.id old (Table.mem_of_find? hfind)
        · exact (congrArg RankKey.user hkey).trans hid.symm
        · exact (congrArg RankKey.teamId hkey).trans hteam.symm
      · have hkept : HasEntry (db.withUsers (db.users.save user)) u := h.entry u hu
        exact ⟨h.id u hu, hkept.writes hw, fun he => absurd (he.trans hid.symm) hne⟩
    unfold teamIdCommit at hfk ⊢
    rw [hup] at hfk ⊢
    dsimp only at hfk ⊢
    rw [hins] at hfk ⊢
    dsimp only at hfk ⊢
    split at hfk
    · next hprune =>
      rw [if_pos hprune]
      obtain ⟨data, -, he⟩ := (Option.any_eq_true _ _).1 hprune
      have hne : prevTeamId ≠ value := by
        unfold World.isEmptied at he
        exact of_decide_eq_true (Bool.and_eq_true_iff.1 he).1
      have husers := (deleteRank_users db2 prevTeamId userId pick).1
      refine ⟨hfk, fun u hu => ?_, fun u hu => ?_⟩ <;> rw [husers] at hu <;>
        obtain ⟨hidu, hentry, hown⟩ := hentries u hu
      · exact hidu
      · exact hentry.deleteRank (fun hu he => hne (he.symm.trans (hown hu))) pick
    · next hprune =>
      rw [if_neg hprune]
      exact ⟨hfk, fun u hu => (hentries u hu).1, fun u hu => (hentries u hu).2.1⟩

/-- The clock gives a real year to a change of team. -/
def Dated : Op → Prop
  | .updateUserProfile _ (.teamId _) year _ => year ≠ 0
  | _ => True

theorem commit_entryInv {db : Db} (h : EntryInv db) (op : Op) (hdated : Dated op) :
    EntryInv (db.commit op) := by
  cases op with
  | registerLocalUser dto env year =>
    refine committed_of h fun db' user hok => ?_
    obtain ⟨db1, k, hs, hins, hk, hteam⟩ := registerLocalUser_ok hok
    exact signUp_entryInv h hs hins hk hteam
  | loginSocialUser sub email provider pick env year =>
    refine committed_of h fun db' p hok => ?_
    rcases loginSocialUser_ok hok with ⟨-, rfl⟩ | ⟨-, db1, k, hs, hins, hk, hteam⟩
    · exact h
    · exact signUp_entryInv h hs hins hk fun _ => hteam
  | register dto userId newId =>
    refine committed_of h fun db' a hok => ?_
    obtain ⟨db1, rows, hr, hu, ht, hw, hrows⟩ := register_writes hok
    exact h.writes (h.fk.request hr hu ht hw hrows) hr hu hw
  | update id dto userId =>
    refine committed_of h fun db' a hok => ?_
    obtain ⟨db1, rows, hr, hu, ht, hw, -, hrows⟩ := update_writes hok
    exact h.writes (h.fk.request hr hu ht hw hrows) hr hu hw
  | delete id userId =>
    refine committed_of h fun db' a hok => ?_
    obtain ⟨db1, rows, hr, hu, ht, hw, -, hrows⟩ := delete_writes hok
    exact h.writes (h.fk.request hr hu ht hw hrows) hr hu hw
  | updateUserProfile userId input year pick =>
    cases input with
    | image value =>
      refine committed_of h fun db' prev hok => ?_
      obtain ⟨old, user, hfind, rfl, rfl, -⟩ := updateUserProfileImage_ok hok
      exact h.saveUser hfind rfl rfl
    | nickname value =>
      show EntryInv (nicknameCommit db userId value)
      unfold nicknameCommit
      cases hok : updateUserProfileNickname db userId value with
      | error e => exact h
      | ok db' =>
        obtain ⟨old, user, hfind, rfl, rfl, -⟩ := updateUserProfileNickname_ok hok
        exact h.saveUser hfind rfl rfl
    | teamId value => exact teamIdCommit_entryInv h userId value year pick hdated
  | deleteUser userId =>
    refine committed_of h fun db' prev hok => ?_
    rw [deleteUserRow_ok hok]
    refine ⟨removeUser_rankFk h.fk userId, fun u hu => ?_, fun u hu => ?_⟩ <;>
      obtain ⟨hu, hne⟩ := Table.mem_remove.1 hu
    · exact h.id u hu
    · obtain ⟨row, hrow, huser, hteam⟩ := h.entry u hu
      refine ⟨row, Table.mem_reject.2 ⟨hrow, ?_⟩, huser, hteam⟩
      rw [huser]
      exact decide_eq_false hne

/-! ## The hooks -/

/-- The database and the user whose rank rows a request aggregates: in its hook, or within
a change of team. -/
def Db.refreshed (db : Db) : Op → Option (Db × Nat)
  | .registerLocalUser dto env year =>
    match registerLocalUser db dto env year with
    | .ok (db, createdUser) => some (db, createdUser.id)
    | .error _ => none
  | .loginSocialUser sub providerEmail provider pick env year =>
    match loginSocialUser db sub providerEmail provider pick env year with
    | .ok (db, user, true) => some (db, user.id)
    | _ => none
  | .register dto userId newId =>
    match register db dto userId newId with
    | .ok (db, _) => some (db, userId)
    | .error _ => none
  | .update id dto userId =>
    match update db id dto userId with
    | .ok (db, result) => if result.teamCtx.isChanged then some (db, userId) else none
    | .error _ => none
  | .delete id userId =>
    match delete db id userId with
    | .ok (db, result) => if result.gameCtx.status ≠ none then some (db, userId) else none
    | .error _ => none
  | .updateUserProfile userId (.teamId value) year _ =>
    match updateUserProfileTeamId db userId value with
    | .error _ => none
    | .ok (db, _) =>
      match insertRankIfAbsent db ⟨userId, value, year⟩ with
      | .ok db => some (db, userId)
      | .error _ => none
  | .updateUserProfile _ _ _ _ => none
  | .deleteUser _ => none

/-- The requests that write rankings in a hook only. -/
def WritesInHook : Op → Prop
  | .updateUserProfile _ (.teamId _) _ _ => False
  | .deleteUser _ => False
  | _ => True

/-- A hook reads what its request has committed. -/
theorem refreshed_commit {db db' : Db} {op : Op} {userId : Nat} (hw : WritesInHook op)
    (hop : db.refreshed op = some (db', userId)) : db.commit op = db' := by
  unfold Db.refreshed at hop
  split at hop
  · split at hop
    · next hok => cases hop; exact committed_ok hok
    · cases hop
  · split at hop
    · next hok => cases hop; exact committed_ok hok
    · cases hop
  · split at hop
    · next hok => cases hop; exact committed_ok hok
    · cases hop
  · split at hop
    · next hok =>
      split at hop
      · cases hop; exact committed_ok hok
      · cases hop
    · cases hop
  · split at hop
    · next hok =>
      split at hop
      · cases hop; exact committed_ok hok
      · cases hop
    · cases hop
  · exact hw.elim
  · cases hop
  · cases hop

theorem rankings_rankingHook_congr {redis redis' : Redis} (h : redis'.rankings = redis.rankings)
    (db : Db) (u : Nat) : (rankingHook db redis' u).rankings = (rankingHook db redis u).rankings := by
  unfold rankingHook
  cases aggregateRankStatsByUserId db u with
  | none => exact h
  | some data =>
    show (redis'.updateRankings u data).rankings = (redis.updateRankings u data).rankings
    unfold Redis.updateRankings
    induction data generalizing redis redis' with
    | nil => exact h
    | cons e data ih =>
      refine ih ?_
      simp only [Redis.zadd, h]

/-- The rankings after a request are those its hook leaves. -/
theorem step_rankings (extractKeyFromUrl : String → Option String) (w : World) (op : Op)
    (hop : WritesInHook op) :
    (w.step extractKeyFromUrl op).redis.rankings =
      ((w.db.refreshed op).elim w.redis fun p => rankingHook p.1 w.redis p.2).rankings := by
  cases op with
  | registerLocalUser dto env year =>
    show (transactional w (registerLocalUser w.db dto env year) World.cacheUser).redis.rankings = _
    unfold Db.refreshed transactional
    dsimp only
    cases registerLocalUser w.db dto env year with
    | error e => rfl
    | ok p => exact rankings_rankingHook_congr (Redis.rankings_saveUsers w.redis [p.2]) _ _
  | loginSocialUser sub email provider pick env year =>
    show (transactional w (loginSocialUser w.db sub email provider pick env year)
      fun w p => if p.2 then w.cacheUser p.1 else w).redis.rankings = _
    unfold Db.refreshed transactional
    dsimp only
    cases loginSocialUser w.db sub email provider pick env year with
    | error e => rfl
    | ok p =>
      obtain ⟨db, user, isNewUser⟩ := p
      cases isNewUser with
      | false => rfl
      | true => exact rankings_rankingHook_congr (Redis.rankings_saveUsers w.redis [user]) _ _
  | register dto userId newId =>
    show (transactional w (register w.db dto userId newId)
      fun w _ => w.refreshRankings userId).redis.rankings = _
    unfold Db.refreshed transactional
    dsimp only
    cases register w.db dto userId newId <;> rfl
  | update id dto userId =>
    show (transactional w (update w.db id dto userId)
      fun w result => w.updateHook extractKeyFromUrl result userId).redis.rankings = _
    unfold Db.refreshed transactional
    dsimp only
    cases update w.db id dto userId with
    | error e => rfl
    | ok p =>
      obtain ⟨db, result⟩ := p
      dsimp only
      rw [World.updateHook_redis]
      split <;> rfl
  | delete id userId =>
    show (transactional w (delete w.db id userId)
      fun w result => w.deleteHook extractKeyFromUrl result userId).redis.rankings = _
    unfold Db.refreshed transactional
    dsimp only
    cases delete w.db id userId with
    | error e => rfl
    | ok p =>
      obtain ⟨db, result⟩ := p
      dsimp only
      rw [World.deleteHook_redis]
      split <;> rfl
  | updateUserProfile userId input year pick =>
    cases input with
    | image value => exact updateImage_rankings extractKeyFromUrl w userId value
    | nickname value => exact updateNickname_rankings w userId value
    | teamId value => exact hop.elim
  | deleteUser userId => exact hop.elim

theorem insertRankIfAbsent_row {db db' : Db} {k : RankKey} (h : insertRankIfAbsent db k = .ok db') :
    ∃ row ∈ db'.ranks.rows, row.user = k.user := by
  obtain ⟨rows, -, -, hsome, -⟩ := insertRankIfAbsent_ok h
  obtain ⟨row, hrow⟩ := Option.isSome_iff_exists.1 hsome
  exact ⟨row, Table.mem_of_find? hrow, congrArg RankKey.user (Table.find?_key hrow)⟩

/-- The user whose rank rows are aggregated has some. -/
theorem refreshed_row {db db' : Db} (h : EntryInv db) {op : Op} {userId : Nat}
    (hop : db.refreshed op = some (db', userId)) : ∃ row ∈ db'.ranks.rows, row.user = userId := by
  unfold Db.refreshed at hop
  split at hop
  · split at hop
    · next hok =>
      cases hop
      obtain ⟨db1, k, -, hins, hk, -⟩ := registerLocalUser_ok hok
      exact hk ▸ insertRankIfAbsent_row hins
    · cases hop
  · split at hop
    · next hok =>
      cases hop
      rcases loginSocialUser_ok hok with ⟨hnew, -⟩ | ⟨-, db1, k, -, hins, hk, -⟩
      · cases hnew
      · exact hk ▸ insertRankIfAbsent_row hins
    · cases hop
  · split at hop
    · next hok =>
      cases hop
      obtain ⟨row, game, hnew, huser, -, -, -, hus⟩ := register_ok hok
      obtain ⟨user, hfind⟩ := Option.isSome_iff_exists.1 hnew.user
      obtain ⟨entry, hentry, hentryUser, -⟩ := h.entry user (Table.mem_of_find? hfind)
      obtain ⟨rows, hw, -⟩ := applyRankUpdates_ok hus
      obtain ⟨entry', hentry', hkey⟩ := hw.keeps hentry
      refine ⟨entry', hentry', (congrArg RankKey.user hkey).trans (hentryUser.trans ?_)⟩
      exact (Table.find?_key hfind).trans huser
    · cases hop
  · split at hop
    · next hok =>
      split at hop
      · next hchanged =>
        cases hop
        obtain ⟨r, game, changed, -, -, -, -, -, -, -, -, hus⟩ := update_ok hok
        unfold TeamCtx.rankUpdates at hus
        rw [if_pos hchanged] at hus
        obtain ⟨row, hrow, hkey⟩ := applyRankUpdates_row hus List.mem_cons_self
        exact ⟨row, hrow, congrArg RankKey.user hkey⟩
      · cases hop
    · cases hop
  · split at hop
    · next hok =>
      split at hop
      · next hsettled =>
        cases hop
        obtain ⟨r, game, -, -, -, -, -, hus⟩ := delete_ok hok
        unfold GameCtx.rankUpdates at hus
        rw [if_pos hsettled] at hus
        obtain ⟨row, hrow, hkey⟩ := applyRankUpdates_row hus List.mem_cons_self
        exact ⟨row, hrow, congrArg RankKey.user hkey⟩
      · cases hop
    · cases hop
  · split at hop
    · cases hop
    · split at hop
      · next hins =>
        cases hop
        exact insertRankIfAbsent_row hins
      · cases hop
  · cases hop
  · cases hop

/-! ## Histories -/

/-- Every change of team of the event is dated. -/
def DatedEvent : Event → Prop
  | .request op => Dated op
  | _ => True

theorem next_entryInv (extractKeyFromUrl : String → Option String) (w : World) (e : Event)
    (h : EntryInv w.db) (hdated : DatedEvent e) : EntryInv (w.next extractKeyFromUrl e).db := by
  cases e with
  | request op =>
    show EntryInv (w.step extractKeyFromUrl op).db
    rw [World.step_db]
    exact commit_entryInv h op hdated
  | outcomes f => exact ⟨h.fk.congr rfl rfl fun u hu => hu, h.id, h.entry⟩
  | newGame game =>
    obtain ⟨hr, hu, ht⟩ := insertGame_keeps w.db game
    refine ⟨next_rankFk extractKeyFromUrl w (.newGame game) h.fk, fun u hm => ?_, fun u hm => ?_⟩ <;>
      rw [show (w.next extractKeyFromUrl (.newGame game)).db.users = w.db.users from hu] at hm
    · exact h.id u hm
    · exact (h.entry u hm).congr hr

/-- **Rank entries.**  In every state of a history whose changes of team are dated, each user
has a rank row for the current team and an aggregate, and so does the user whose rankings the
next request refreshes, in the database it has committed. -/
theorem users_stay_ranked (extractKeyFromUrl : String → Option String) (teams : Table Team.id)
    (stadiums : Table Stadium.id) (games : Table GameRow.id) (terms : Table Term.id)
    (history : List Event) (hdated : ∀ e ∈ history, DatedEvent e) :
    Always (World.next extractKeyFromUrl)
      (fun w => (∀ user ∈ w.db.users.rows,
          HasEntry w.db user ∧ aggregateRankStatsByUserId w.db user.id ≠ none) ∧
        ∀ op db userId, w.db.refreshed op = some (db, userId) →
          aggregateRankStatsByUserId db userId ≠ none)
      (World.start teams stadiums games terms) history := by
  have hstart : EntryInv (World.start teams stadiums games terms).db :=
    ⟨⟨nofun, nofun, nofun⟩, nofun, nofun⟩
  have hranked : ∀ db u, (∃ row ∈ db.ranks.rows, row.user = u) →
      aggregateRankStatsByUserId db u ≠ none := by
    rintro db u ⟨row, hrow, huser⟩
    obtain ⟨data, hdata⟩ := aggregate_ne_none hrow huser
    rw [hdata]
    exact nofun
  refine (always_of_guarded (fun w e h hd => next_entryInv extractKeyFromUrl w e h hd) hstart
    (guarded_of_forall hdated)).imp fun w h => ⟨fun user hu => ?_, fun op db userId hop => ?_⟩
  · obtain ⟨row, hrow, huser, -⟩ := h.entry user hu
    exact ⟨h.entry user hu, hranked w.db user.id ⟨row, hrow, huser⟩⟩
  · exact hranked db userId (refreshed_row h hop)

/-- The fan of two seasons. -/
theorem users_stay_ranked_twoSeasons :
    Always (World.next fun _ => none)
      (fun w => (∀ user ∈ w.db.users.rows,
          HasEntry w.db user ∧ aggregateRankStatsByUserId w.db user.id ≠ none) ∧
        ∀ op db userId, w.db.refreshed op = some (db, userId) →
          aggregateRankStatsByUserId db userId ≠ none)
      (World.start twoTeams .empty .empty .empty) twoSeasons :=
  users_stay_ranked _ _ _ _ _ twoSeasons (by
    intro e he
    simp only [twoSeasons, List.mem_cons, List.not_mem_nil, or_false] at he
    rcases he with rfl | rfl | rfl
    · trivial
    · show (2025 : Nat) ≠ 0
      decide
    · show (2025 : Nat) ≠ 0
      decide)

end VictoryFairy
