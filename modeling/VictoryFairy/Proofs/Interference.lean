import VictoryFairy.Lib.Interference
import VictoryFairy.Proofs.Calendar
import VictoryFairy.Proofs.Isolation

/-!
# A user's registrations depend on nobody else

`register`, `update` and `delete` read the games, the teams and rows of their caller.  Two
histories in which a user sends the same of these requests and the games change alike, while
everybody else does anything at all, give the user the same answers and the same rows, records
and rankings.

    SameView                    : what a user's requests can read
    register_related, update_related, delete_related : they answer alike on what looks alike
    nextAccount_own, nextAccount_other : one event of the user, one of somebody else
    others_do_not_interfere     : two histories
-/

namespace VictoryFairy

open Runs

/-- What the database holds of the user, and what the crawler wrote. -/
structure SameView (u : Nat) (db db' : Db) : Prop where
  rows : SameRows u db db'
  teams : db'.teams = db.teams
  games : db'.games = db.games
  stadiums : db'.stadiums = db.stadiums

/-- The user is stored in both, and the stores look alike. -/
structure SameWorld (u : Nat) (w w' : World) : Prop where
  stored : (w.db.users.find? u).isSome
  view : SameView u w.db w'.db
  cache : SameCache u w.redis w'.redis

/-- A registration request of the user, or a change of the games. -/
def AccountEvent.isOf (u : Nat) : AccountEvent → Bool
  | .event (.request (.register _ userId _)) => userId = u
  | .event (.request (.update _ _ userId)) => userId = u
  | .event (.request (.delete _ userId)) => userId = u
  | .event (.outcomes _) => true
  | .event (.newGame _) => true
  | _ => false

/-- The id the sequence hands out for the request. -/
def AccountEvent.handsOut : AccountEvent → Option Nat
  | .event (.request (.register _ _ newId)) => some newId
  | _ => none

/-- No registration has the id that is handed out, and what is not selected is about somebody
else. -/
structure Calm (u : Nat) (w : World) (e : AccountEvent) : Prop where
  fresh : ∀ newId ∈ e.handsOut, w.db.registeredGames.find? newId = none
  others : e.isOf u = false → ¬ e.ActsOn w u

theorem Calm.of_isOf {u : Nat} {w : World} {e : AccountEvent} (he : e.isOf u = true)
    (hfresh : ∀ newId ∈ e.handsOut, w.db.registeredGames.find? newId = none) : Calm u w e :=
  ⟨hfresh, fun h => by rw [he] at h; cases h⟩

/-- What a registration request answers. -/
inductive Answer where
  | registered (result : Except AppError RegisteredGameWithGameResponseDto)
  | updated (result : Except AppError UpdateRegisteredGameResult)
  | deleted (result : Except AppError DeleteRegisteredGameResult)
  | nothing

def World.answer (w : World) : AccountEvent → Answer
  | .event (.request (.register dto userId newId)) =>
    .registered ((register w.db dto userId newId).map Prod.snd)
  | .event (.request (.update id dto userId)) => .updated ((update w.db id dto userId).map Prod.snd)
  | .event (.request (.delete id userId)) => .deleted ((delete w.db id userId).map Prod.snd)
  | _ => .nothing

variable {u : Nat}

/-! ## Statements -/

namespace SameView

variable {db db1 db' : Db}

theorem refl (db : Db) : SameView u db db := ⟨.refl db, rfl, rfl, rfl⟩

theorem trans (h : SameView u db db1) (h' : SameView u db1 db') : SameView u db db' :=
  ⟨h.rows.trans h'.rows, h'.teams.trans h.teams, h'.games.trans h.games,
    h'.stadiums.trans h.stadiums⟩

theorem symm (h : SameView u db db') : SameView u db' db :=
  ⟨⟨h.rows.user.symm, h.rows.localAuth.symm, h.rows.socialAuths.symm, h.rows.userTerms.symm,
    h.rows.registeredGames.symm, h.rows.ranks.symm⟩, h.teams.symm, h.games.symm, h.stadiums.symm⟩

variable (h : SameView u db db')
include h

/-- Both find the same registration of the user. -/
theorem findRegistration (id : Nat) :
    findRegistration db' id u = VictoryFairy.findRegistration db id u := by
  have hfind : (db'.registeredGames.find? id).filter (fun r => decide (r.user = u)) =
      (db.registeredGames.find? id).filter fun r => decide (r.user = u) := by
    rw [Table.find?_filter, Table.find?_filter, h.rows.registeredGames]
  unfold VictoryFairy.findRegistration
  rw [hfind, h.games]

/-- Both find the same record of the user. -/
theorem findRank {k : RankKey} (hk : k.user = u) : db'.ranks.find? k = db.ranks.find? k := by
  have hown : ∀ t : Table Rank.key, (t.find? k).filter (fun r => decide (r.user = u)) = t.find? k := by
    intro t
    cases hr : t.find? k with
    | none => rfl
    | some r => exact if_pos (decide_eq_true ((congrArg RankKey.user (Table.find?_key hr)).trans hk))
  have hrows : db'.ranks.rows.filter (fun r => decide (r.user = u)) =
      db.ranks.rows.filter fun r => decide (r.user = u) := h.rows.ranks
  rw [← hown db'.ranks, ← hown db.ranks, Table.find?_filter, Table.find?_filter, hrows]

/-- Both have the same of the user's registrations of a game. -/
theorem anyRegistration (gameId : String) :
    (db'.registeredGames.rows.any fun r => decide (r.game = gameId) && decide (r.user = u)) =
      db.registeredGames.rows.any fun r => decide (r.game = gameId) && decide (r.user = u) := by
  have hfilter : ∀ l : List RegisteredGame,
      (l.any fun r => decide (r.game = gameId) && decide (r.user = u)) =
        (l.filter fun r => decide (r.user = u)).any fun r => decide (r.game = gameId) := by
    intro l
    rw [List.any_filter]
    exact congrArg l.any (funext fun r => Bool.and_comm _ _)
  rw [hfilter, hfilter, h.rows.registeredGames]

/-- A row of the user is saved on both sides. -/
theorem saveRegisteredGame {r : RegisteredGame} (hr : r.user = u)
    (hold : ∀ b ∈ db.registeredGames.rows, b.id = r.id → b.user = u)
    (hold' : ∀ b ∈ db'.registeredGames.rows, b.id = r.id → b.user = u) :
    SameView u (db.withRegisteredGames (db.registeredGames.save r))
      (db'.withRegisteredGames (db'.registeredGames.save r)) := by
  refine ⟨⟨h.rows.user, h.rows.localAuth, h.rows.socialAuths, h.rows.userTerms, ?_, h.rows.ranks⟩,
    h.teams, h.games, h.stadiums⟩
  show (db'.registeredGames.save r).rows.filter _ = (db.registeredGames.save r).rows.filter _
  have hown : ∀ t : Table RegisteredGame.id, (∀ b ∈ t.rows, b.id = r.id → b.user = u) →
      (t.save r).rows.filter (fun b => decide (b.user = u)) =
        Table.saveRow RegisteredGame.id r (t.rows.filter fun b => decide (b.user = u)) :=
    fun t ht => Table.filter_save_own t r _ (decide_eq_true hr)
      fun b hb he => decide_eq_true (ht b hb he)
  rw [hown _ hold', hown _ hold, h.rows.registeredGames]

theorem removeRegisteredGame (id : Nat) :
    SameView u (db.removeRegisteredGame id) (db'.removeRegisteredGame id) := by
  refine ⟨⟨h.rows.user, h.rows.localAuth, h.rows.socialAuths, h.rows.userTerms, ?_, h.rows.ranks⟩,
    h.teams, h.games, h.stadiums⟩
  show (db'.registeredGames.rows.filter _).filter _ = (db.registeredGames.rows.filter _).filter _
  rw [List.filter_comm, h.rows.registeredGames, List.filter_comm]

/-- So is a row with a new id, or the unique or a foreign key refuses it on both. -/
theorem insertRegisteredGame {row : RegisteredGame} (hu : row.user = u)
    (hfresh : ∀ r ∈ db.registeredGames.rows, r.id ≠ row.id)
    (hfresh' : ∀ r ∈ db'.registeredGames.rows, r.id ≠ row.id) :
    Related (SameView u) (db.insertRegisteredGame row) (db'.insertRegisteredGame row) := by
  -- only the unique key of game and user is left to look at
  have hkey : ∀ d : Db, (∀ r ∈ d.registeredGames.rows, r.id ≠ row.id) →
      (d.registeredGames.rows.any fun o =>
        decide (o.id = row.id) || (decide (o.game = row.game) && decide (o.user = row.user))) =
        d.registeredGames.rows.any fun o => decide (o.game = row.game) && decide (o.user = u) := by
    intro d hd
    rw [Bool.eq_iff_iff, List.any_eq_true, List.any_eq_true]
    refine exists_congr fun o => and_congr_right fun ho => ?_
    rw [decide_eq_false (hd o ho), Bool.false_or, hu]
  unfold Db.insertRegisteredGame
  rw [hkey db hfresh, hkey db' hfresh', h.anyRegistration, h.games, h.teams, hu, h.rows.user]
  split
  · exact .error _
  · split
    · exact .error _
    · split
      · exact .error _
      · exact .ok (h.saveRegisteredGame hu (fun b hb he => absurd he (hfresh b hb))
          fun b hb he => absurd he (hfresh' b hb))

theorem saveRank {row : Rank} (hrow : row.user = u) :
    Related (SameView u) (db.saveRank row) (db'.saveRank row) := by
  unfold Db.saveRank
  rw [hrow, h.rows.user]
  split
  · exact .error _
  · refine .ok ⟨⟨h.rows.user, h.rows.localAuth, h.rows.socialAuths, h.rows.userTerms,
      h.rows.registeredGames, ?_⟩, h.teams, h.games, h.stadiums⟩
    have hown : ∀ t : Table Rank.key, (t.save row).rows.filter (fun b => decide (b.user = u)) =
        Table.saveRow Rank.key row (t.rows.filter fun b => decide (b.user = u)) :=
      fun t => Table.filter_save_own t row _ (decide_eq_true hrow)
        fun b _ he => decide_eq_true ((congrArg RankKey.user he).trans hrow)
    show (db'.ranks.save row).rows.filter _ = (db.ranks.save row).rows.filter _
    rw [hown, hown]
    exact congrArg (Table.saveRow Rank.key row) h.rows.ranks

theorem updateRankRecord {dto : RankRecordDto} (hk : dto.key.user = u) (isAdd : Bool) :
    Related (SameView u) (updateRankRecord db dto isAdd)
      (VictoryFairy.updateRankRecord db' dto isAdd) := by
  unfold VictoryFairy.updateRankRecord
  rw [h.findRank hk]
  cases hrow : adjustedRank (db.ranks.find? dto.key) dto isAdd with
  | error e => exact .error e
  | ok row =>
    obtain ⟨hkey, -⟩ := adjustedRank_ok (fun r hr => Table.find?_key hr) hrow
    exact h.saveRank ((congrArg RankKey.user hkey).trans hk)

/-- Games change on both sides. -/
theorem withGames {games games' : Table GameRow.id} (hg : games' = games) :
    SameView u (db.withGames games) (db'.withGames games') :=
  ⟨⟨h.rows.user, h.rows.localAuth, h.rows.socialAuths, h.rows.userTerms, h.rows.registeredGames,
    h.rows.ranks⟩, h.teams, hg, h.stadiums⟩

theorem insertGame (game : GameRow) : SameView u (db.insertGame game) (db'.insertGame game) := by
  unfold Db.insertGame
  rw [h.teams, h.games]
  split
  · exact h
  · cases db.games.insert? game with
    | none => exact h
    | some games => exact h.withGames rfl

theorem setOutcomes (f : GameRow → Outcome) : SameView u (db.setOutcomes f) (db'.setOutcomes f) :=
  h.withGames (congrArg (fun t : Table GameRow.id => t.modify (fun g => g.withOutcome (f g))
    fun g => g.withOutcome_id (f g)) h.games)

end SameView

theorem applyRankUpdates_related {us : List RankUpdate} (hus : ∀ x ∈ us, x.1.key.user = u)
    {db db' : Db} (h : SameView u db db') :
    Related (SameView u) (applyRankUpdates db us) (applyRankUpdates db' us) := by
  induction us generalizing db db' with
  | nil => exact .ok h
  | cons x us ih =>
    unfold applyRankUpdates
    rw [List.foldlM_cons, List.foldlM_cons]
    refine (h.updateRankRecord (hus x List.mem_cons_self) x.2).bind fun db1 db1' h1 => ?_
    exact ih (fun y hy => hus y (List.mem_cons_of_mem x hy)) h1

/-! ## Requests of the user -/

theorem newRegisteredGame_owner {db : Db} {data : SaveRegisteredGameInput} {newId : Nat}
    {row : RegisteredGame} (h : newRegisteredGame db data newId = .ok row) :
    row.id = newId ∧ row.user = data.userId := by
  unfold newRegisteredGame at h
  split at h
  · cases h
  · obtain ⟨created, hcreate, h⟩ := bind_eq_ok.1 h
    obtain ⟨rfl, -⟩ := RegisteredGame.create_ok hcreate
    cases h
    exact ⟨rfl, rfl⟩

/-- The same answer, and what looks alike. -/
def SameResult (u : Nat) {α : Type} : Db × α → Db × α → Prop :=
  fun p q => SameView u p.1 q.1 ∧ p.2 = q.2

section

variable {db db' : Db} (h : SameView u db db')
include h

theorem saveRegistration_related (data : SaveRegisteredGameInput) (hdata : data.userId = u)
    {newId : Nat} (hfresh : ∀ r ∈ db.registeredGames.rows, r.id ≠ newId)
    (hfresh' : ∀ r ∈ db'.registeredGames.rows, r.id ≠ newId) :
    Related (SameResult u) (saveRegistration db data newId) (saveRegistration db' data newId) := by
  -- the duplicate check looks at the user's rows
  have hnew : newRegisteredGame db' data newId = newRegisteredGame db data newId := by
    unfold newRegisteredGame
    rw [hdata, h.anyRegistration]
  unfold saveRegistration
  rw [hnew]
  cases hrow : newRegisteredGame db data newId with
  | error e => exact .error e
  | ok row =>
    obtain ⟨rfl, hu⟩ := newRegisteredGame_owner hrow
    exact (h.insertRegisteredGame (hu.trans hdata) hfresh hfresh').bind
      fun db1 db1' h1 => .ok ⟨h1, rfl⟩

theorem register_related (dto : CreateRegisteredGameDto) {newId : Nat}
    (hfresh : ∀ r ∈ db.registeredGames.rows, r.id ≠ newId)
    (hfresh' : ∀ r ∈ db'.registeredGames.rows, r.id ≠ newId) :
    Related (SameResult u) (register db dto u newId) (register db' dto u newId) := by
  have hgame : getOneGame db' dto.gameId = getOneGame db dto.gameId := by
    unfold getOneGame
    rw [h.games]
  have hteam : findOneTeam db' dto.cheeringTeamId = findOneTeam db dto.cheeringTeamId := by
    unfold findOneTeam
    rw [h.teams]
  unfold register
  rw [hgame, hteam]
  refine (Related.refl (R := Eq) (fun _ => rfl) _).bind fun game game' hg => ?_
  obtain rfl := hg
  refine (Related.refl (R := Eq) (fun _ => rfl) _).bind fun team team' ht => ?_
  obtain rfl := ht
  refine (saveRegistration_related h _ rfl hfresh hfresh').bind fun p q hpq => ?_
  obtain ⟨db1, saved⟩ := p
  obtain ⟨db1', saved'⟩ := q
  obtain ⟨h1, rfl⟩ : SameView u db1 db1' ∧ saved = saved' := hpq
  have hrecorded : Related (SameView u)
      (recordSaved db1 { key := ⟨u, team.id, game.date.getFullYear⟩, status := saved.status })
      (recordSaved db1' { key := ⟨u, team.id, game.date.getFullYear⟩, status := saved.status }) := by
    unfold recordSaved
    dsimp only
    split
    · exact h1.updateRankRecord rfl true
    · exact .ok h1
  refine hrecorded.bind fun db2 db2' h2 => ?_
  rw [h2.stadiums]
  split
  · exact .error _
  · exact .ok ⟨h2, rfl⟩

theorem update_related (id : Nat) (dto : UpdateRegisteredGameInput) :
    Related (SameResult u) (update db id dto u) (update db' id dto u) := by
  have hedited : editedRegistration db' id dto u = editedRegistration db id dto u := by
    unfold editedRegistration
    rw [h.findRegistration]
  have hsaved : Related (SameResult u) (updateRegistration db id dto u)
      (updateRegistration db' id dto u) := by
    unfold updateRegistration
    rw [hedited]
    cases hloaded : editedRegistration db id dto u with
    | error e => exact .error e
    | ok p =>
      obtain ⟨r, game, changed⟩ := p
      obtain ⟨hr, hu, -, hedit, -⟩ := editedRegistration_ok hloaded
      obtain ⟨hr', -⟩ := editedRegistration_ok (hedited.trans hloaded)
      have hchanged : changed.user = u := hedit.user.trans hu
      have hid : changed.id = id := hedit.id.trans (Table.find?_key hr)
      -- the row with this id is the one that was loaded
      have hold : ∀ {d : Db}, d.registeredGames.find? id = some r →
          ∀ b ∈ d.registeredGames.rows, b.id = changed.id → b.user = u := by
        intro d hd b hb he
        obtain rfl : r = b := Table.eq_of_key (Table.mem_of_find? hd) hb
          ((Table.find?_key hd).trans (he.trans hid).symm)
        exact hu
      have hsave : Related (SameView u) (db.saveRegisteredGame changed)
          (db'.saveRegisteredGame changed) := by
        unfold Db.saveRegisteredGame
        rw [h.teams]
        split
        · exact .error _
        · split
          · exact .error _
          · exact .ok (h.saveRegisteredGame hchanged (hold hr) (hold hr'))
      exact hsave.bind fun db1 db1' h1 => .ok ⟨h1, rfl⟩
  rw [update_eq, update_eq]
  refine hsaved.bind fun p q hpq => ?_
  obtain ⟨db1, result⟩ := p
  obtain ⟨db1', result'⟩ := q
  obtain ⟨h1, rfl⟩ : SameView u db1 db1' ∧ result = result' := hpq
  exact (applyRankUpdates_related TeamCtx.rankUpdates_user h1).bind
    fun db2 db2' h2 => .ok ⟨h2, rfl⟩

theorem delete_related (id : Nat) : Related (SameResult u) (delete db id u) (delete db' id u) := by
  have hremoved : Related (SameResult u) (deleteRegistration db id u)
      (deleteRegistration db' id u) := by
    unfold deleteRegistration
    rw [h.findRegistration]
    refine (Related.refl (R := Eq) (fun _ => rfl) _).bind fun p q hpq => ?_
    obtain rfl := hpq
    exact .ok ⟨h.removeRegisteredGame _, rfl⟩
  rw [delete_eq, delete_eq]
  refine hremoved.bind fun p q hpq => ?_
  obtain ⟨db1, result⟩ := p
  obtain ⟨db1', result'⟩ := q
  obtain ⟨h1, rfl⟩ : SameView u db1 db1' ∧ result = result' := hpq
  exact (applyRankUpdates_related GameCtx.rankUpdates_user h1).bind
    fun db2 db2' h2 => .ok ⟨h2, rfl⟩

end

/-! ## Hooks -/

/-- The hook writes what the user's rank rows say. -/
theorem SameCache.refreshed {db db' : Db} {redis redis' : Redis} (h : SameCache u redis redis')
    (hrows : rowsOf db' u = rowsOf db u) :
    SameCache u (VictoryFairy.rankingHook db redis u) (VictoryFairy.rankingHook db' redis' u) := by
  refine ⟨fun k => ?_, ?_⟩
  · rw [zscore_rankingHook, zscore_rankingHook, if_pos rfl, if_pos rfl, projected_congr hrows,
      h.zscore]
  · rw [userInfo_rankingHook, userInfo_rankingHook, h.userInfo]

/-- Two transactions that answer alike, with hooks that keep alike what looks alike. -/
theorem transactional_related {α : Type} {w w' : World} {body body' : Except AppError (Db × α)}
    (onCommit : World → α → World) (hview : SameView u w.db w'.db)
    (hcache : SameCache u w.redis w'.redis) (hbody : Related (SameResult u) body body')
    (hdb : ∀ w a, (onCommit w a).db = w.db)
    (hhook : ∀ db db' a, SameView u db db' →
      SameCache u (onCommit { w with db } a).redis (onCommit { w' with db := db' } a).redis) :
    SameView u (transactional w body onCommit).db (transactional w' body' onCommit).db ∧
      SameCache u (transactional w body onCommit).redis (transactional w' body' onCommit).redis ∧
      body.map Prod.snd = body'.map Prod.snd := by
  cases hbody with
  | error e => exact ⟨hview, hcache, rfl⟩
  | @ok p q h =>
    obtain ⟨db, a⟩ := p
    obtain ⟨db', a'⟩ := q
    obtain ⟨h, rfl⟩ : SameView u db db' ∧ a = a' := h
    refine ⟨?_, hhook db db' a h, rfl⟩
    show SameView u (onCommit { w with db } a).db (onCommit { w' with db := db' } a).db
    rw [hdb, hdb]
    exact h

/-! ## Events -/

section

variable (extractKeyFromUrl : String → Option String)

/-- The user stays stored. -/
theorem stored_of_isOf {w : World} {e : AccountEvent} (he : e.isOf u = true)
    (hu : (w.db.users.find? u).isSome) :
    ((w.nextAccount extractKeyFromUrl e).db.users.find? u).isSome := by
  cases e with
  | event e =>
    cases e with
    | request op =>
      have hsaves : Saves w.db (w.db.commit op) := by
        cases op with
        | registerLocalUser | loginSocialUser | updateUserProfile | deleteUser => cases he
        | register | update | delete => exact commit_saves w.db trivial
      show ((w.step extractKeyFromUrl op).db.users.find? u).isSome
      rw [World.step_db, hsaves.sameCredentials.users]
      exact hu
    | outcomes f => exact hu
    | newGame game =>
      show ((w.db.insertGame game).users.find? u).isSome
      rcases insertGame_cases w.db game with heq | ⟨-, heq⟩ <;> rw [heq] <;> exact hu
  | linkSocial | unlinkSocial | changePassword => cases he

/-- An event of the user, in two worlds that look alike. -/
theorem nextAccount_own {w w' : World} {e : AccountEvent} (h : SameWorld u w w')
    (he : e.isOf u = true) (hcalm : Calm u w e) (hcalm' : Calm u w' e) :
    SameWorld u (w.nextAccount extractKeyFromUrl e) (w'.nextAccount extractKeyFromUrl e) ∧
      w.answer e = w'.answer e := by
  have hstored := stored_of_isOf extractKeyFromUrl he h.stored
  cases e with
  | event e =>
    cases e with
    | request op =>
      cases op with
      | register dto userId newId =>
        obtain rfl : userId = u := of_decide_eq_true he
        have hbody := register_related h.view dto (Table.find?_eq_none.1 (hcalm.fresh newId rfl))
          (Table.find?_eq_none.1 (hcalm'.fresh newId rfl))
        obtain ⟨hview, hcache, hanswer⟩ := transactional_related
          (fun w _ => w.refreshRankings userId) h.view h.cache hbody (fun _ _ => rfl)
          fun db db' _ hdb => h.cache.refreshed hdb.rows.ranks
        exact ⟨⟨hstored, hview, hcache⟩, congrArg Answer.registered hanswer⟩
      | update id dto userId =>
        obtain rfl : userId = u := of_decide_eq_true he
        obtain ⟨hview, hcache, hanswer⟩ := transactional_related
          (fun w result => w.updateHook extractKeyFromUrl result userId) h.view h.cache
          (update_related h.view id dto)
          (fun w result => World.updateHook_db extractKeyFromUrl w result userId)
          fun db db' result hdb => by
            rw [World.updateHook_redis, World.updateHook_redis]
            split
            · exact h.cache.refreshed hdb.rows.ranks
            · exact h.cache
        exact ⟨⟨hstored, hview, hcache⟩, congrArg Answer.updated hanswer⟩
      | delete id userId =>
        obtain rfl : userId = u := of_decide_eq_true he
        obtain ⟨hview, hcache, hanswer⟩ := transactional_related
          (fun w result => w.deleteHook extractKeyFromUrl result userId) h.view h.cache
          (delete_related h.view id)
          (fun w result => World.deleteHook_db extractKeyFromUrl w result userId)
          fun db db' result hdb => by
            rw [World.deleteHook_redis, World.deleteHook_redis]
            split
            · exact h.cache.refreshed hdb.rows.ranks
            · exact h.cache
        exact ⟨⟨hstored, hview, hcache⟩, congrArg Answer.deleted hanswer⟩
      | registerLocalUser | loginSocialUser | updateUserProfile | deleteUser => cases he
    | outcomes f => exact ⟨⟨hstored, h.view.setOutcomes f, h.cache⟩, rfl⟩
    | newGame game => exact ⟨⟨hstored, h.view.insertGame game, h.cache⟩, rfl⟩
  | linkSocial | unlinkSocial | changePassword => cases he

end

/-! ## Events of others -/

section

variable (extractKeyFromUrl : String → Option String)

/-- What the crawler wrote stays in an event that is no change of the games. -/
theorem nextAccount_league {w : World} {e : AccountEvent} (he : e.isOf u = false) :
    (w.nextAccount extractKeyFromUrl e).db.teams = w.db.teams ∧
      (w.nextAccount extractKeyFromUrl e).db.games = w.db.games ∧
      (w.nextAccount extractKeyFromUrl e).db.stadiums = w.db.stadiums := by
  rcases nextAccount_cases extractKeyFromUrl w e with ⟨e, rfl⟩ | ⟨localAuths, socialAuths, hnext⟩
  · cases e with
    | request op =>
      have hkeeps := commit_keepsSides w.db op
      rw [← World.step_db extractKeyFromUrl] at hkeeps
      exact ⟨hkeeps.teams, hkeeps.games, hkeeps.stadiums⟩
    | outcomes f => cases he
    | newGame game => cases he
  · rw [hnext]
    exact ⟨rfl, rfl, rfl⟩

/-- An event of somebody else is not seen. -/
theorem nextAccount_other {w : World} {e : AccountEvent} (hu : (w.db.users.find? u).isSome)
    (he : e.isOf u = false) (hcalm : Calm u w e) :
    SameWorld u w (w.nextAccount extractKeyFromUrl e) := by
  have hsame := nextAccount_sameFor extractKeyFromUrl hu (hcalm.others he)
  obtain ⟨hteams, hgames, hstadiums⟩ := nextAccount_league (w := w) extractKeyFromUrl he
  exact ⟨hu, ⟨hsame.rows, hteams, hgames, hstadiums⟩, hsame.cache⟩

end

/-! ## Histories -/

theorem SameWorld.trans {w w1 w' : World} (h : SameWorld u w w1) (h' : SameWorld u w1 w') :
    SameWorld u w w' :=
  ⟨h.stored, h.view.trans h'.view, h.cache.trans h'.cache⟩

theorem SameWorld.symm {w w' : World} (h : SameWorld u w w') : SameWorld u w' w := by
  refine ⟨?_, h.view.symm, fun k => (h.cache.zscore k).symm, h.cache.userInfo.symm⟩
  rw [h.view.rows.user]
  exact h.stored

/-- **Nobody interferes.**  Two histories with the same registration requests of a user who has
signed up and the same changes of the games, whatever else the others send in them, answer the
user's requests alike and leave the same of the user in every store. -/
theorem others_do_not_interfere (extractKeyFromUrl : String → Option String) (u : Nat) (w : World)
    (hu : (w.db.users.find? u).isSome) (history history' : List AccountEvent)
    (hsame : history.filter (AccountEvent.isOf u) = history'.filter (AccountEvent.isOf u))
    (hcalm : Guarded (World.nextAccount extractKeyFromUrl) (Calm u) w history)
    (hcalm' : Guarded (World.nextAccount extractKeyFromUrl) (Calm u) w history') :
    SameFor u (run (World.nextAccount extractKeyFromUrl) w history)
        (run (World.nextAccount extractKeyFromUrl) w history') ∧
      outputs (World.nextAccount extractKeyFromUrl) World.answer (AccountEvent.isOf u) w history =
        outputs (World.nextAccount extractKeyFromUrl) World.answer (AccountEvent.isOf u) w history' := by
  have hstart : SameWorld u w w := ⟨hu, .refl w.db, .refl w.redis⟩
  have hown : ∀ w w' e, SameWorld u w w' → e.isOf u = true → Calm u w e → Calm u w' e →
      SameWorld u (w.nextAccount extractKeyFromUrl e) (w'.nextAccount extractKeyFromUrl e) ∧
        w.answer e = w'.answer e :=
    fun w w' e h he hc hc' => nextAccount_own extractKeyFromUrl h he hc hc'
  have hleft : ∀ w w' e, SameWorld u w w' → e.isOf u = false → Calm u w e →
      SameWorld u (w.nextAccount extractKeyFromUrl e) w' :=
    fun w w' e h he hc => (nextAccount_other extractKeyFromUrl h.stored he hc).symm.trans h
  have hright : ∀ w w' e, SameWorld u w w' → e.isOf u = false → Calm u w' e →
      SameWorld u w (w'.nextAccount extractKeyFromUrl e) :=
    fun w w' e h he hc => h.trans (nextAccount_other extractKeyFromUrl h.symm.stored he hc)
  obtain ⟨hview, hanswers⟩ := runs_agree hown hleft hright hstart hsame hcalm hcalm'
  exact ⟨⟨hview.view.rows, hview.cache⟩, hanswers⟩

/-- The fan registers a game alone, or after a guest who registers it too. -/
def aloneThere : List AccountEvent :=
  [.event (.newGame wonGame),
    .event (.request (.register ⟨none, "A1", "good", wonGame.id, 1⟩ 7 2))]

def inCompany : List AccountEvent :=
  [.event (.request (.registerLocalUser ⟨"guest@test", "pw", "", "guest", 2⟩ ⟨8, "hash", id⟩ 2025)),
    .event (.newGame wonGame),
    .event (.request (.register ⟨none, "A2", "bad", wonGame.id, 2⟩ 8 1)),
    .event (.request (.register ⟨none, "A1", "good", wonGame.id, 1⟩ 7 2))]

theorem others_do_not_interfere_inCompany :
    SameFor 7 (run (World.nextAccount some) ⟨leagueDb, .empty, []⟩ aloneThere)
        (run (World.nextAccount some) ⟨leagueDb, .empty, []⟩ inCompany) ∧
      outputs (World.nextAccount some) World.answer (AccountEvent.isOf 7) ⟨leagueDb, .empty, []⟩
          aloneThere =
        outputs (World.nextAccount some) World.answer (AccountEvent.isOf 7) ⟨leagueDb, .empty, []⟩
          inCompany :=
  others_do_not_interfere some 7 ⟨leagueDb, .empty, []⟩ (by decide) aloneThere inCompany rfl
    ⟨.of_isOf rfl (by decide), .of_isOf rfl (by decide), trivial⟩
    ⟨⟨by decide, fun _ => id⟩, .of_isOf rfl (by decide), ⟨by decide, fun _ => (by decide : ¬ 8 = 7)⟩,
      .of_isOf rfl (by decide), trivial⟩

end VictoryFairy
