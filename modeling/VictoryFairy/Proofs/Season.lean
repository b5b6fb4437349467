import VictoryFairy.Proofs.ScoreJob
import VictoryFairy.Proofs.Schedule
import VictoryFairy.Model.Season

/-!
# Registrations and their games

Requests copy a game's result into a registration, polls and crawls change the game and
touch no registration.  The teams of an id and the winner's side are invariants, so a
request always copies the right result; a write of a game keeps the copies right
exactly when it keeps the result.

    commit_followsAt    : what a request leaves of each registration
    step_season         : one event keeps the invariants, and when it keeps the copies right
    season_follows_iff  : the copies are right throughout a season exactly when no poll or
                          crawl changes the result of a registered game
-/

namespace VictoryFairy

open Runs

/-! ## Invariants -/

/-- The registration is for a team of its game. -/
def OnSide (db : Db) (r : RegisteredGame) : Prop :=
  ∃ row, db.games.find? r.game = some row ∧
    (r.cheeringTeam = row.homeTeam ∨ r.cheeringTeam = row.awayTeam)

structure SeasonInv (db : Db) : Prop where
  side : ∀ r ∈ db.registeredGames.rows, OnSide db r
  game : ∀ row ∈ db.games.rows, GameInv db row

/-- The registration has the result of the game's row. -/
def FollowsAt (db : Db) (r : RegisteredGame) : Prop :=
  ∃ row, db.games.find? r.game = some row ∧ r.status = row.resultOf r.cheeringTeam ∧
    (r.status = none ↔ isDecided row.status = false)

/-- `determineStatus` gives `null` exactly for an undecided game. -/
theorem followsAt_of_resultOf {db : Db} {r : RegisteredGame} {row : GameRow}
    (hrow : db.games.find? r.game = some row) (hstatus : r.status = row.resultOf r.cheeringTeam) :
    FollowsAt db r := by
  refine ⟨row, hrow, hstatus, ?_⟩
  have hdecided := isDecided_iff row.status (orNull row.winningTeam) r.cheeringTeam
  rw [hstatus, ← Bool.not_eq_true, hdecided, ne_eq, not_not]
  exact Iff.rfl

/-! ## Requests -/

/-- Changing sides copies the result of the other side. -/
theorem edit_followsAt {db : Db} (hinv : SeasonInv db) {old changed : RegisteredGame}
    {game : GameRow} {newTeam : Nat} (hmem : old ∈ db.registeredGames.rows)
    (hgame : db.games.find? old.game = some game) (hedit : IsEdit game newTeam old changed) :
    OnSide db changed ∧ (Follows db → FollowsAt db changed) := by
  obtain ⟨row, hrow, hside⟩ := hinv.side old hmem
  obtain rfl := Option.some.inj (hgame.symm.trans hrow)
  rw [← hedit.game_eq] at hgame
  have hnewSide : newTeam = game.homeTeam ∨ newTeam = game.awayTeam := by
    rcases hedit.side with hsame | hnew
    · rw [← hsame]; exact hside
    · exact hnew
  refine ⟨⟨game, hgame, by rw [hedit.team]; exact hnewSide⟩, fun hf => ?_⟩
  obtain ⟨row, hrow', hstatus, -⟩ := hf old hmem
  obtain rfl := Option.some.inj (hrow.symm.trans hrow')
  refine followsAt_of_resultOf hgame ?_
  rw [hedit.status, hedit.team]
  split
  · next hsame => rw [← hsame]; exact hstatus
  · next hne =>
    have hwinner : ∀ w, orNull game.winningTeam = some w →
        w = game.homeTeam ∨ w = game.awayTeam := by
      intro w hw
      unfold orNull at hw
      rw [Option.filter_eq_some_iff] at hw
      exact (hinv.game game (Table.mem_of_find? hrow)).winner w hw.1
    have hswap := determineStatus_swap game.status (orNull game.winningTeam) game.homeTeam
      game.awayTeam old.cheeringTeam newTeam hwinner hside hnewSide hne
    rw [hstatus]
    exact hswap.symm

/-- What a request leaves of the registrations: each was there, or has a side and the result
of its game, if an old one it comes from has. -/
theorem commit_followsAt {userId : Nat} {db db' : Db} {r : RegistrationRequest} {refresh : Bool}
    (hinv : SeasonInv db) (h : r.commit userId db = .ok (db', refresh)) :
    db'.games = db.games ∧ db'.teams = db.teams ∧ db'.stadiums = db.stadiums ∧
      ∀ reg ∈ db'.registeredGames.rows, OnSide db reg ∧ (Follows db → FollowsAt db reg) := by
  have hold : ∀ reg ∈ db.registeredGames.rows, OnSide db reg ∧ (Follows db → FollowsAt db reg) :=
    fun reg hr => ⟨hinv.side reg hr, fun hf => hf reg hr⟩
  unfold RegistrationRequest.commit at h
  cases r with
  | register dto newId =>
    obtain ⟨⟨db1, response⟩, hregister, h⟩ := bind_eq_ok.1 h
    cases h
    obtain ⟨row, game, hnew, -, -, -, -, hupdates⟩ := register_ok hregister
    obtain ⟨rows, hwrites, -⟩ := applyRankUpdates_ok hupdates
    rw [hwrites.eq]
    refine ⟨rfl, rfl, rfl, fun reg hr => ?_⟩
    rcases Table.mem_save.1 hr with rfl | ⟨hr, -⟩
    · exact ⟨⟨game, hnew.found, hnew.side⟩, fun _ => followsAt_of_resultOf hnew.found hnew.status⟩
    · exact hold reg hr
  | update id dto =>
    obtain ⟨⟨db1, result⟩, hupdate, h⟩ := bind_eq_ok.1 h
    cases h
    obtain ⟨old, game, changed, hfind, -, hgame, hedit, -, -, -, -, hupdates⟩ := update_ok hupdate
    obtain ⟨rows, hwrites, -⟩ := applyRankUpdates_ok hupdates
    rw [hwrites.eq]
    refine ⟨rfl, rfl, rfl, fun reg hr => ?_⟩
    rcases Table.mem_save.1 hr with rfl | ⟨hr, -⟩
    · exact edit_followsAt hinv (Table.mem_of_find? hfind) hgame hedit
    · exact hold reg hr
  | delete id =>
    obtain ⟨⟨db1, result⟩, hdelete, h⟩ := bind_eq_ok.1 h
    cases h
    obtain ⟨old, game, -, -, -, -, -, hupdates⟩ := delete_ok hdelete
    obtain ⟨rows, hwrites, -⟩ := applyRankUpdates_ok hupdates
    rw [hwrites.eq]
    exact ⟨rfl, rfl, rfl, fun reg hr => hold reg (Table.mem_remove.1 hr).1⟩

/-! ## Writers of games -/

/-- A writer of games keeps the copies right exactly when it keeps the results. -/
theorem follows_iff_of_games {db db' : Db} (hregs : db'.registeredGames = db.registeredGames)
    (hstored : ∀ r ∈ db.registeredGames.rows, ∃ row, db'.games.find? r.game = some row)
    (hf : Follows db) :
    Follows db' ↔ ∀ r ∈ db.registeredGames.rows, ∀ row row', db.games.find? r.game = some row →
      db'.games.find? r.game = some row' → row'.resultOf r.cheeringTeam = row.resultOf r.cheeringTeam := by
  unfold Follows
  rw [hregs]
  constructor
  · intro h r hr row row' hrow hrow'
    obtain ⟨row1, hrow1, hstatus, -⟩ := hf r hr
    obtain ⟨row2, hrow2, hstatus', -⟩ := h r hr
    obtain rfl := Option.some.inj (hrow.symm.trans hrow1)
    obtain rfl := Option.some.inj (hrow'.symm.trans hrow2)
    exact hstatus'.symm.trans hstatus
  · intro h r hr
    obtain ⟨row, hrow, hstatus, -⟩ := hf r hr
    obtain ⟨row', hrow'⟩ := hstored r hr
    exact followsAt_of_resultOf hrow' (hstatus.trans (h r hr row row' hrow hrow').symm)

/-- The operation leaves the result of each registered game as it was: for a poll, the row
it leaves decides as the stored one; for a crawl that is not rolled back, the lines do. -/
def KeepsResults (formats : Formats) (db : Db) : SeasonEvent → Prop
  | .request _ _ => True
  | .poll gameId currentStatus => ∀ r ∈ db.registeredGames.rows, r.game = gameId →
      ∀ row, db.games.find? gameId = some row →
        (row.afterPoll currentStatus).resultOf r.cheeringTeam = row.resultOf r.cheeringTeam
  | .crawl ids year rows => ∀ cells games db', rows = some cells →
      scheduledGames formats year cells = .ok games → upsertMany formats db ids games = .ok db' →
        ∀ r ∈ db.registeredGames.rows, ∀ row, db.games.find? r.game = some row →
          (row.verdict.afterCrawl r.game games).resultOf r.cheeringTeam = row.resultOf r.cheeringTeam

/-- A crawl commits what its lines say, or changes nothing. -/
theorem upsertSchedules_cases (formats : Formats) (db : Db) (ids : Sequences) (year : Nat)
    (rows : Option (List (List String))) :
    (∃ cells games db', rows = some cells ∧ scheduledGames formats year cells = .ok games ∧
      upsertMany formats db ids games = .ok db' ∧ upsertSchedules formats db ids year rows = db') ∨
    (upsertSchedules formats db ids year rows = db ∧ ∀ cells games db', rows = some cells →
      scheduledGames formats year cells = .ok games → upsertMany formats db ids games ≠ .ok db') := by
  unfold upsertSchedules
  cases rows with
  | none => exact Or.inr ⟨rfl, fun cells games db' hcells => by cases hcells⟩
  | some cells =>
    rw [Option.map_some]
    cases hgames : scheduledGames formats year cells with
    | error e =>
      refine Or.inr ⟨rfl, fun cells' games db' hcells hok => ?_⟩
      cases hcells
      rw [hgames] at hok
      cases hok
    | ok games =>
      dsimp only
      cases hmany : upsertMany formats db ids games with
      | ok db' => exact Or.inl ⟨cells, games, db', rfl, hgames, hmany, rfl⟩
      | error e =>
        refine Or.inr ⟨rfl, fun cells' games' db' hcells hok => ?_⟩
        cases hcells
        cases hgames.symm.trans hok
        rw [hmany]
        exact fun he => by cases he

/-! ## One operation -/

section

variable (formats : Formats) {db : Db}

theorem request_season (hinv : SeasonInv db) (userId : Nat) (r : RegistrationRequest) :
    SeasonInv (Season.step formats db (.request userId r)) ∧
      (Follows db → Follows (Season.step formats db (.request userId r))) := by
  unfold Season.step
  dsimp only
  cases hok : r.commit userId db with
  | error e => exact ⟨hinv, fun hf => hf⟩
  | ok p =>
    obtain ⟨db', refresh⟩ := p
    obtain ⟨hgames, hteams, -, hrows⟩ := commit_followsAt hinv hok
    refine ⟨⟨fun reg hr => ?_, fun row hr => ?_⟩, fun hf reg hr => ?_⟩
    · show ∃ row, db'.games.find? reg.game = some row ∧ _
      rw [hgames]
      exact (hrows reg hr).1
    · rw [hgames] at hr
      exact (hinv.game row hr).mono (.of_teams hteams)
    · rw [hgames]
      exact (hrows reg hr).2 hf

/-- A poll keeps the teams, and a new winner is one of them. -/
theorem GameInv.afterPoll {game : GameRow} (h : GameInv db game) (input : UpdateGameScoreInput) :
    GameInv db (game.afterPoll input) := by
  obtain ⟨o, ho, hwinner⟩ := game.afterPoll_eq input
  rw [ho]
  refine ⟨h.teams, fun w hw => ?_⟩
  rcases hwinner with hw' | ⟨homeScore, awayScore, hw'⟩
  · exact h.winner w (hw'.symm.trans hw)
  · exact GameRow.winnerBy_mem (hw'.symm.trans hw)

/-- A poll that finds its game writes one row, under the same id and teams. -/
theorem poll_season (hinv : SeasonInv db) (gameId : String) (input : UpdateGameScoreInput) :
    SeasonInv (Season.step formats db (.poll gameId input)) ∧
      (Follows db → (Follows (Season.step formats db (.poll gameId input)) ↔
        KeepsResults formats db (.poll gameId input))) := by
  show SeasonInv (scoreJobCallback gameId { db, running := true, registered := true } input).db ∧ _
  cases hrow : db.games.find? gameId with
  | none =>
    have hsame := scoreJobCallback_db_missing { db, running := true, registered := true } input hrow
    unfold Season.step
    dsimp only
    rw [hsame]
    refine ⟨hinv, fun hf => ⟨fun _ r _ _ row hstored => ?_, fun _ => hf⟩⟩
    rw [hrow] at hstored
    cases hstored
  | some game =>
    have hdb : (scoreJobCallback gameId { db, running := true, registered := true } input).db =
        db.withGames (db.games.save (game.afterPoll input)) := scoreJobCallback_db _ input hrow
    have hregs : (db.withGames (db.games.save (game.afterPoll input))).registeredGames =
      db.registeredGames := rfl
    obtain ⟨o, ho, -⟩ := game.afterPoll_eq input
    have hid : (game.afterPoll input).id = gameId :=
      (game.afterPoll_id input).trans (Table.find?_key hrow)
    have hfind : ∀ id, (db.withGames (db.games.save (game.afterPoll input))).games.find? id =
        if gameId = id then some (game.afterPoll input) else db.games.find? id := by
      intro id
      rw [Db.withGames_games, Table.find?_save, hid]
    have hgame := (hinv.game game (Table.mem_of_find? hrow)).afterPoll input
    unfold Season.step
    dsimp only
    rw [hdb]
    refine ⟨⟨fun r hr => ?_, fun row hr => ?_⟩, fun hf => ?_⟩
    · obtain ⟨row, hstored, hside⟩ := hinv.side r hr
      unfold OnSide
      rw [hfind]
      split
      · next hg =>
        rw [← hg, hrow] at hstored
        obtain rfl := Option.some.inj hstored
        exact ⟨_, rfl, by rw [ho]; exact hside⟩
      · exact ⟨row, hstored, hside⟩
    · rcases Table.mem_save.1 hr with rfl | ⟨hr, -⟩
      · exact hgame.mono fun _ _ hn => hn
      · exact (hinv.game row hr).mono fun _ _ hn => hn
    · rw [follows_iff_of_games hregs (fun r hr => ?_) hf]
      · constructor
        · intro h r hr hg row hstored
          cases hrow.symm.trans hstored
          refine h r hr game _ (hg ▸ hrow) ?_
          rw [hfind, if_pos hg.symm]
        · intro h r hr row row' hstored hstored'
          rw [hfind] at hstored'
          split at hstored'
          · next hg =>
            cases hstored'
            rw [← hg, hrow] at hstored
            cases hstored
            exact h r hr hg.symm game hrow
          · cases hstored.symm.trans hstored'
            rfl
      · obtain ⟨row, hstored, -⟩ := hinv.side r hr
        rw [hfind]
        split
        · exact ⟨_, rfl⟩
        · exact ⟨row, hstored⟩

theorem crawl_season (hinv : SeasonInv db) (ids : Sequences) (year : Nat)
    (rows : Option (List (List String))) :
    SeasonInv (Season.step formats db (.crawl ids year rows)) ∧
      (Follows db → (Follows (Season.step formats db (.crawl ids year rows)) ↔
        KeepsResults formats db (.crawl ids year rows))) := by
  unfold Season.step
  dsimp only
  rcases upsertSchedules_cases formats db ids year rows with
    ⟨cells, games, db', hcells, hgames, hmany, hdb⟩ | ⟨hdb, hnever⟩
  · rw [hdb]
    obtain ⟨hregs, hgame, hverdict⟩ :=
      upsertMany_ok formats hmany (scheduledGames_named formats hgames) hinv.game
    -- what is stored of a registered game afterwards
    have hstored : ∀ r ∈ db.registeredGames.rows, ∀ row, db.games.find? r.game = some row →
        ∃ row', db'.games.find? r.game = some row' ∧
          row'.verdict = row.verdict.afterCrawl r.game games :=
      fun r hr row hrow => hverdict r.game ⟨r, hr, rfl⟩ row hrow
    refine ⟨⟨fun r hr => ?_, hgame⟩, fun hf => ?_⟩
    · rw [hregs] at hr
      obtain ⟨row, hrow, hside⟩ := hinv.side r hr
      obtain ⟨row', hrow', hv⟩ := hstored r hr row hrow
      refine ⟨row', hrow', ?_⟩
      have hteams := row.verdict.afterCrawl_teams r.game games
      rw [← hv] at hteams
      rw [show row'.homeTeam = row.homeTeam from hteams.1,
        show row'.awayTeam = row.awayTeam from hteams.2]
      exact hside
    · rw [follows_iff_of_games hregs (fun r hr => ?_) hf]
      · constructor
        · intro h cells' games' db'' hcells' hgames' hmany' r hr row hrow
          cases hcells.symm.trans hcells'
          cases hgames.symm.trans hgames'
          obtain ⟨row', hrow', hv⟩ := hstored r hr row hrow
          rw [← hv]
          exact h r hr row row' hrow hrow'
        · intro h r hr row row' hrow hrow'
          obtain ⟨row'', hrow'', hv⟩ := hstored r hr row hrow
          cases hrow'.symm.trans hrow''
          have hkeep := h cells games db' hcells hgames hmany r hr row hrow
          rw [← hv] at hkeep
          exact hkeep
      · obtain ⟨row, hrow, -⟩ := hinv.side r hr
        obtain ⟨row', hrow', -⟩ := hstored r hr row hrow
        exact ⟨row', hrow'⟩
  · rw [hdb]
    refine ⟨hinv, fun hf => ⟨fun _ cells games db' hcells hgames hmany => ?_, fun _ => hf⟩⟩
    exact absurd hmany (hnever cells games db' hcells hgames)

theorem step_season (hinv : SeasonInv db) (e : SeasonEvent) :
    SeasonInv (Season.step formats db e) ∧
      (Follows db → (Follows (Season.step formats db e) ↔ KeepsResults formats db e)) := by
  cases e with
  | request userId r =>
    obtain ⟨hinv', hkeep⟩ := request_season formats hinv userId r
    exact ⟨hinv', fun hf => ⟨fun _ => trivial, fun _ => hkeep hf⟩⟩
  | poll gameId input => exact poll_season formats hinv gameId input
  | crawl ids year rows => exact crawl_season formats hinv ids year rows

end

/-! ## Seasons -/

theorem beforeSeason_inv (db : Db) : SeasonInv db.beforeSeason :=
  ⟨fun r hr => (by cases hr), fun row hr => by cases hr⟩

/-- **Registrations follow their games.**  In every state of a season all registrations have
the result of their game exactly when no poll and no crawl of the season changes the
result of a registered game. -/
theorem season_follows_iff (formats : Formats) (db : Db) (events : List SeasonEvent) :
    Always (Season.step formats) Follows db.beforeSeason events ↔
      Guarded (Season.step formats) (KeepsResults formats) db.beforeSeason events :=
  always_iff_guarded (I := SeasonInv) (fun _ e h => (step_season formats h e).1)
    (fun _ e h hf => (step_season formats h e).2 hf) (beforeSeason_inv db)
    (fun r hr => by cases hr) events

/-- The formats, on the texts of the season below. -/
def oneDayFormats : Formats where
  isNotTimeFormat text := text ≠ "18:30"
  castDate text := if text = "2025-06-01" then some ⟨2025, 6, 1⟩ else none
  castTime text := if text = "18:30" then some "18:30:00" else none

/-- A fan, and no team or stadium yet. -/
def fanDb : Db :=
  { Db.empty with users := ⟨[⟨7, DEFAULT_PROFILE_IMAGE, "fan", "fan@test", 1⟩], List.nodup_singleton _⟩ }

/-- The table of a month with one game. -/
def crawlGame (game review : String) : SeasonEvent :=
  .crawl ⟨1, 1⟩ 2025 (some [["06.01(일)", "<b>18:30</b>", game, review, "", "", "", "잠실", "-"]])

/-- A game is crawled before its start and registered; the crawl that brings its result leaves
the registration undecided. -/
theorem season_not_followed :
    ¬ Always (Season.step oneDayFormats) Follows fanDb.beforeSeason
      [crawlGame "<span>LG</span><em>vs</em><span>두산</span>" "<a>프리뷰</a>",
       .request 7 (.register ⟨none, "A1", "good", "20250601LGOB0", 2⟩ 1),
       crawlGame "<span>LG</span><em><span>5</span>vs<span>3</span></em><span>두산</span>"
        "<a>리뷰</a>"] := by
  intro h
  have hstored : (run (Season.step oneDayFormats) fanDb.beforeSeason
      [crawlGame "<span>LG</span><em>vs</em><span>두산</span>" "<a>프리뷰</a>",
       .request 7 (.register ⟨none, "A1", "good", "20250601LGOB0", 2⟩ 1),
       crawlGame "<span>LG</span><em><span>5</span>vs<span>3</span></em><span>두산</span>"
        "<a>리뷰</a>"]).games.find? "20250601LGOB0" =
      some ⟨"20250601LGOB0", ⟨2025, 6, 1⟩, "18:30:00", finished, some 3, some 5, 1, 2, some 2, 1⟩ := by
    decide +kernel
  obtain ⟨row, hrow, hstatus, -⟩ :=
    h.last ⟨1, none, "A1", "good", none, "20250601LGOB0", 7, 2⟩ (by decide +kernel)
  cases hrow.symm.trans hstored
  revert hstatus
  decide

end VictoryFairy
