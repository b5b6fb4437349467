import VictoryFairy.Proofs.Ledger

/-!
# The rank rows of the users

Which rank rows a request saves (`register_writes`, `update_writes`,
`delete_writes`), and that every rank row points to a user and to one of the ten
teams (`RankFk`), which every request keeps.
-/

namespace VictoryFairy

open Runs

/-! ## The rank rows point to users and teams -/

structure RankFk (db : Db) : Prop where
  user : ∀ row ∈ db.ranks.rows, (db.users.find? row.user).isSome
  range : ∀ row ∈ db.ranks.rows, 1 ≤ row.teamId ∧ row.teamId ≤ 10
  team : ∀ row ∈ db.ranks.rows, (db.teams.find? row.teamId).isSome

/-- A rank row is one of a team that `findAll` lists. -/
theorem RankFk.listed {db : Db} (h : RankFk db) {row : Rank} (hrow : row ∈ db.ranks.rows) :
    row.teamId ∈ (findAllTeams db).map Team.id := by
  obtain ⟨team, hteam⟩ := Option.isSome_iff_exists.1 (h.team row hrow)
  have hid : team.id = row.teamId := Table.find?_key hteam
  have hrange := h.range row hrow
  rw [← hid] at hrange ⊢
  exact List.mem_map_of_mem (List.mem_filter.2 ⟨Table.mem_of_find? hteam, by simpa using hrange⟩)

theorem RankFk.congr {db db' : Db} (h : RankFk db) (hr : db'.ranks = db.ranks)
    (ht : db'.teams = db.teams)
    (hu : ∀ u, (db.users.find? u).isSome → (db'.users.find? u).isSome) : RankFk db' := by
  refine ⟨?_, ?_, ?_⟩
  · rw [hr]; exact fun row hrow => hu _ (h.user row hrow)
  · rw [hr]; exact h.range
  · rw [hr, ht]; exact h.team

theorem RankFk.writes {db db' : Db} {rows : List Rank} (h : RankFk db) (hw : RankWrites db db' rows)
    (ht : ∀ row ∈ rows, (db.ranks.find? row.key).isSome ∨
      (1 ≤ row.teamId → (db.teams.find? row.teamId).isSome)) : RankFk db' := by
  have hold : ∀ row : Rank, (db.ranks.find? row.key).isSome →
      (1 ≤ row.teamId ∧ row.teamId ≤ 10) ∧ (db.teams.find? row.teamId).isSome := by
    intro row hf
    obtain ⟨old, hf⟩ := Option.isSome_iff_exists.1 hf
    have hteam : old.teamId = row.teamId := congrArg RankKey.teamId (Table.find?_key hf)
    rw [← hteam]
    exact ⟨h.range old (Table.mem_of_find? hf), h.team old (Table.mem_of_find? hf)⟩
  have hrange : ∀ row ∈ rows, 1 ≤ row.teamId ∧ row.teamId ≤ 10 := fun row hrow =>
    (hw.team row hrow).elim (fun hf => (hold row hf).1) id
  obtain ⟨rfl, huser, -⟩ := hw
  refine ⟨fun row hrow => ?_, fun row hrow => ?_, fun row hrow => ?_⟩ <;>
    rcases Table.mem_of_mem_saveAll hrow with hm | hm
  · exact h.user row hm
  · exact huser row hm
  · exact h.range row hm
  · exact hrange row hm
  · exact h.team row hm
  · exact (ht row hm).elim (fun hf => (hold row hf).2) fun hf => hf (hrange row hm).1

theorem isSome_find?_saveUser {db : Db} {user : User} {u : Nat} (h : (db.users.find? u).isSome) :
    ((db.users.save user).find? u).isSome := by
  rw [Table.find?_save]
  split
  · rfl
  · exact h

theorem SignedUp.rankFk {db db1 : Db} {user : User} (hs : SignedUp db db1 user) (h : RankFk db) :
    RankFk db1 := by
  refine h.congr hs.ranks hs.teams fun u hu => ?_
  rw [hs.users]
  exact isSome_find?_saveUser hu

theorem signUp_rankFk {db db1 db' : Db} {user : User} {k : RankKey} (h : RankFk db)
    (hs : SignedUp db db1 user) (hok : insertRankIfAbsent db1 k = .ok db')
    (hk : 1 ≤ k.teamId → k.teamId = user.supportTeam) : RankFk db' := by
  obtain ⟨rows, hw, hkeys, -⟩ := insertRankIfAbsent_ok hok
  refine (hs.rankFk h).writes hw fun row hrow => Or.inr fun hge => ?_
  have hteam : row.teamId = k.teamId := congrArg RankKey.teamId (hkeys row hrow)
  rw [hteam] at hge ⊢
  rw [hk hge, hs.teams]
  exact hs.storable.team

/-! ### The requests on registrations -/

/-- A request on registrations saves rank rows of its user only. -/
theorem register_writes {db db' : Db} {dto : CreateRegisteredGameDto} {userId newId : Nat}
    {response : RegisteredGameWithGameResponseDto}
    (h : register db dto userId newId = .ok (db', response)) :
    ∃ db1 rows, db1.ranks = db.ranks ∧ db1.users = db.users ∧ db1.teams = db.teams ∧
      RankWrites db1 db' rows ∧ ∀ row ∈ rows, row.user = userId ∧
        ((db.ranks.find? row.key).isSome ∨ (db.teams.find? row.teamId).isSome) := by
  obtain ⟨reg, game, hnew, huser, -, -, -, hus⟩ := register_ok h
  obtain ⟨rows, hw, hkeys, -⟩ := applyRankUpdates_ok hus
  refine ⟨db.withRegisteredGames (db.registeredGames.save reg), rows, rfl, rfl, rfl, hw, fun row hrow => ?_⟩
  obtain ⟨u, hu, hk, -⟩ := hkeys row hrow
  unfold registerUpdates at hu
  split at hu
  · rw [List.mem_singleton] at hu
    subst hu
    have hteam : row.teamId = reg.cheeringTeam := congrArg RankKey.teamId hk
    exact ⟨(congrArg RankKey.user hk).trans huser, Or.inr (hteam ▸ hnew.takes.2)⟩
  · cases hu

theorem update_writes {db db' : Db} {id : Nat} {dto : UpdateRegisteredGameInput} {userId : Nat}
    {result : UpdateRegisteredGameResult} (h : update db id dto userId = .ok (db', result)) :
    ∃ db1 rows, db1.ranks = db.ranks ∧ db1.users = db.users ∧ db1.teams = db.teams ∧
      RankWrites db1 db' rows ∧ (result.teamCtx.isChanged = false → rows = []) ∧
      ∀ row ∈ rows, row.user = userId ∧
        ((db.ranks.find? row.key).isSome ∨ (db.teams.find? row.teamId).isSome) := by
  obtain ⟨r, game, changed, -, -, -, hedit, htakes, hctx, -, -, hus⟩ := update_ok h
  obtain ⟨rows, hw, hkeys, -⟩ := applyRankUpdates_ok hus
  refine ⟨db.withRegisteredGames (db.registeredGames.save changed), rows, rfl, rfl, rfl, hw, fun hch => ?_, fun row hrow => ?_⟩
  · refine List.eq_nil_iff_forall_not_mem.2 fun row hrow => ?_
    obtain ⟨u, hu, -⟩ := hkeys row hrow
    simp [TeamCtx.rankUpdates, hch] at hu
  · obtain ⟨u, hu, hk, hadd⟩ := hkeys row hrow
    unfold TeamCtx.rankUpdates at hu
    split at hu
    · simp only [List.mem_cons, List.not_mem_nil, or_false] at hu
      rcases hu with rfl | rfl
      · exact ⟨congrArg RankKey.user hk, hadd.imp_right fun e => (by cases e)⟩
      · refine ⟨congrArg RankKey.user hk, Or.inr ?_⟩
        have hnew : row.teamId = result.teamCtx.newTeamId := congrArg RankKey.teamId hk
        rw [hnew, hctx, ← hedit.team]
        exact htakes.2
    · cases hu

theorem delete_writes {db db' : Db} {id userId : Nat} {result : DeleteRegisteredGameResult}
    (h : delete db id userId = .ok (db', result)) :
    ∃ db1 rows, db1.ranks = db.ranks ∧ db1.users = db.users ∧ db1.teams = db.teams ∧
      RankWrites db1 db' rows ∧ (result.gameCtx.status = none → rows = []) ∧
      ∀ row ∈ rows, row.user = userId ∧
        ((db.ranks.find? row.key).isSome ∨ (db.teams.find? row.teamId).isSome) := by
  obtain ⟨r, game, -, -, -, -, -, hus⟩ := delete_ok h
  obtain ⟨rows, hw, hkeys, -⟩ := applyRankUpdates_ok hus
  refine ⟨db.withRegisteredGames (db.registeredGames.remove id), rows, rfl, rfl, rfl, hw, fun hnull => ?_, fun row hrow => ?_⟩
  · refine List.eq_nil_iff_forall_not_mem.2 fun row hrow => ?_
    obtain ⟨u, hu, -⟩ := hkeys row hrow
    simp [GameCtx.rankUpdates, hnull] at hu
  · obtain ⟨u, hu, hk, hadd⟩ := hkeys row hrow
    unfold GameCtx.rankUpdates at hu
    split at hu
    · rw [List.mem_singleton] at hu
      subst hu
      exact ⟨congrArg RankKey.user hk, hadd.imp_right fun e => (by cases e)⟩
    · cases hu

/-- The rows of a request keep the foreign keys. -/
theorem RankFk.request {db db1 db' : Db} {rows : List Rank} {userId : Nat} (h : RankFk db)
    (hr : db1.ranks = db.ranks) (hu : db1.users = db.users) (ht : db1.teams = db.teams)
    (hw : RankWrites db1 db' rows) (hrows : ∀ row ∈ rows, row.user = userId ∧
      ((db.ranks.find? row.key).isSome ∨ (db.teams.find? row.teamId).isSome)) : RankFk db' := by
  have h1 : RankFk db1 := h.congr hr ht fun u hf => by rw [hu]; exact hf
  refine h1.writes hw fun row hrow => ?_
  rw [hr, ht]
  exact (hrows row hrow).2.imp_right fun hf _ => hf

theorem removeUser_rankFk {db : Db} (h : RankFk db) (userId : Nat) : RankFk (db.removeUser userId) := by
  have hmem : ∀ row ∈ (db.removeUser userId).ranks.rows, row ∈ db.ranks.rows ∧ row.user ≠ userId := by
    intro row hrow
    obtain ⟨hm, hp⟩ := Table.mem_reject.1 hrow
    exact ⟨hm, by simpa using hp⟩
  refine ⟨fun row hrow => ?_, fun row hrow => ?_, fun row hrow => ?_⟩
  · obtain ⟨hm, hne⟩ := hmem row hrow
    rw [Db.removeUser, Table.find?_remove, if_neg (Ne.symm hne)]
    exact h.user row hm
  · exact h.range row (hmem row hrow).1
  · exact h.team row (hmem row hrow).1

theorem deleteRank_rankFk {db : Db} (h : RankFk db) (teamId userId pick : Nat) :
    RankFk (deleteRank db teamId userId none pick) := by
  rcases deleteRank_eq db teamId userId pick with ⟨e, -⟩ | ⟨row, -, -, -, e⟩
  · rw [e]; exact h
  · rw [e]
    exact ⟨fun r hr => h.user r (Table.mem_remove.1 hr).1,
      fun r hr => h.range r (Table.mem_remove.1 hr).1,
      fun r hr => h.team r (Table.mem_remove.1 hr).1⟩

/-- After the user was saved, and after the new team's row was inserted. -/
theorem updateUserProfileTeamId_rankFk {db db1 : Db} {userId value prevTeamId : Nat} (h : RankFk db)
    (hup : updateUserProfileTeamId db userId value = .ok (db1, prevTeamId)) :
    RankFk db1 ∧ ∀ year db2, insertRankIfAbsent db1 ⟨userId, value, year⟩ = .ok db2 → RankFk db2 := by
  obtain ⟨old, user, -, huser, -, rfl, hstore⟩ := updateUserProfileTeamId_ok hup
  have h1 : RankFk (db.withUsers (db.users.save user)) :=
    h.congr rfl rfl fun u hu => isSome_find?_saveUser hu
  refine ⟨h1, fun year db2 hins => ?_⟩
  obtain ⟨rows, hw, hkeys, -⟩ := insertRankIfAbsent_ok hins
  refine h1.writes hw fun row hrow => Or.inr fun _ => ?_
  have hv : row.teamId = value := congrArg RankKey.teamId (hkeys row hrow)
  rw [hv, show value = user.supportTeam by rw [huser]]
  exact hstore.team

theorem teamIdCommit_rankFk {db : Db} (h : RankFk db) (userId value year pick : Nat) :
    RankFk (teamIdCommit db userId value year pick) := by
  unfold teamIdCommit
  cases hup : updateUserProfileTeamId db userId value with
  | error e => exact h
  | ok p =>
    obtain ⟨db1, prevTeamId⟩ := p
    obtain ⟨h1, hinserted⟩ := updateUserProfileTeamId_rankFk h hup
    dsimp only
    cases hins : insertRankIfAbsent db1 ⟨userId, value, year⟩ with
    | error e => exact h1
    | ok db2 =>
      have h2 := hinserted year db2 hins
      dsimp only
      split
      · exact deleteRank_rankFk h2 prevTeamId userId pick
      · exact h2

theorem commit_rankFk {db : Db} (h : RankFk db) (op : Op) : RankFk (db.commit op) := by
  cases op with
  | registerLocalUser dto env year =>
    refine committed_of h fun db' user hok => ?_
    obtain ⟨db1, k, hs, hins, -, hk⟩ := registerLocalUser_ok hok
    exact signUp_rankFk h hs hins hk
  | loginSocialUser sub email provider pick env year =>
    refine committed_of h fun db' p hok => ?_
    rcases loginSocialUser_ok hok with ⟨-, rfl⟩ | ⟨-, db1, k, hs, hins, -, hk⟩
    · exact h
    · exact signUp_rankFk h hs hins fun _ => hk
  | register dto userId newId =>
    refine committed_of h fun db' a hok => ?_
    obtain ⟨db1, rows, hr, hu, ht, hw, hrows⟩ := register_writes hok
    exact h.request hr hu ht hw hrows
  | update id dto userId =>
    refine committed_of h fun db' a hok => ?_
    obtain ⟨db1, rows, hr, hu, ht, hw, -, hrows⟩ := update_writes hok
    exact h.request hr hu ht hw hrows
  | delete id userId =>
    refine committed_of h fun db' a hok => ?_
    obtain ⟨db1, rows, hr, hu, ht, hw, -, hrows⟩ := delete_writes hok
    exact h.request hr hu ht hw hrows
  | updateUserProfile userId input year pick =>
    cases input with
    | image value =>
      refine committed_of h fun db' prev hok => ?_
      obtain ⟨-, user, -, -, rfl, -⟩ := updateUserProfileImage_ok hok
      exact h.congr rfl rfl fun u hu => isSome_find?_saveUser hu
    | nickname value =>
      show RankFk (nicknameCommit db userId value)
      unfold nicknameCommit
      cases hok : updateUserProfileNickname db userId value with
      | error e => exact h
      | ok db' =>
        obtain ⟨-, user, -, -, rfl, -⟩ := updateUserProfileNickname_ok hok
        exact h.congr rfl rfl fun u hu => isSome_find?_saveUser hu
    | teamId value => exact teamIdCommit_rankFk h userId value year pick
  | deleteUser userId =>
    refine committed_of h fun db' prev hok => ?_
    rw [deleteUserRow_ok hok]
    exact removeUser_rankFk h userId

theorem insertGame_keeps (db : Db) (game : GameRow) :
    (db.insertGame game).ranks = db.ranks ∧ (db.insertGame game).users = db.users ∧
      (db.insertGame game).teams = db.teams := by
  unfold Db.insertGame
  split
  · exact ⟨rfl, rfl, rfl⟩
  · cases db.games.insert? game <;> exact ⟨rfl, rfl, rfl⟩

end VictoryFairy
