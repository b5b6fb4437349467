import VictoryFairy.Proofs.DoubleHeader
import VictoryFairy.Proofs.SavedBatch
import VictoryFairy.Proofs.Season

/-!
# Crawling a month again

A matchup that was one game is crawled as two, or the other way round.  The transaction
deletes the one game before it saves the two, and a registration of it forbids that; nothing
deletes the two.

    step_recrawlInv : what every event of a season keeps of the games
    recrawled_iff   : when a crawl leaves exactly its games and every registration its own
-/

namespace VictoryFairy

open Runs

section

variable (formats : Formats)

/-- The row is for the teams of the line, on its day. -/
structure SameMatchup (db : Db) (row : GameRow) (data : IGameData) : Prop where
  date : formats.castDate data.date = some row.date
  homeTeam : TeamNamed db data.homeTeam row.homeTeam
  awayTeam : TeamNamed db data.awayTeam row.awayTeam

/-- The rows of each matchup of the batch are exactly the games of the batch. -/
def HasGames (db : Db) (games : List IGameData) : Prop :=
  ∀ data ∈ games, (∃ row ∈ db.games.rows, IsGame formats db row data) ∧
    ∀ row ∈ db.games.rows, SameMatchup formats db row data →
      ∃ other ∈ games, IsGame formats db row other

/-- Every registration is still there, for a game of the same day and teams. -/
def KeepsRegistrations (db db' : Db) : Prop :=
  db'.registeredGames = db.registeredGames ∧
    ∀ r ∈ db'.registeredGames.rows, ∃ row row', db.games.find? r.game = some row ∧
      db'.games.find? r.game = some row' ∧ row'.date = row.date ∧
      row'.homeTeam = row.homeTeam ∧ row'.awayTeam = row.awayTeam

/-- The crawl commits, leaves exactly the games of the batch, and keeps the registrations. -/
def Recrawled (db : Db) (ids : Sequences) (games : List IGameData) : Prop :=
  ∃ db', upsertMany formats db ids games = .ok db' ∧ HasGames formats db' games ∧
    KeepsRegistrations db db'

/-- When the crawl can be made. -/
structure Recrawlable (db : Db) (ids : Sequences) (games : List IGameData) : Prop where
  /-- the tables take the values of every line -/
  valid : ∀ data ∈ games, ValidLine formats data
  /-- nobody has registered a game that is now one of several -/
  unregistered : ∀ data ∈ games, ∀ r ∈ db.registeredGames.rows, ¬ Deletes data r.game
  /-- a game in the slot of a line is replaced by then -/
  free : ∀ before data later, games = before ++ data :: later → ∀ row ∈ db.games.rows,
    InSlot formats db row data → ∃ d ∈ before ++ [data], Replaces d row.id
  /-- so is, in the end, every game of a matchup of the batch -/
  replaced : ∀ data ∈ games, ∀ row ∈ db.games.rows, SameMatchup formats db row data →
    ∃ d ∈ games, Replaces d row.id
  /-- a game of the batch is not deleted by a later one: no matchup has more than ten -/
  kept : ∀ before data later, games = before ++ data :: later → ∀ d ∈ later, ¬ Deletes d data.id
  /-- the new teams get ids that are not in use -/
  teams : NewTeams db ids.begin (teamsOf games)
  /-- so do the new stadiums, and their names are texts -/
  stadiums : NewStadiums db ids.stadium (stadiumsOf games)

end

variable {formats : Formats}

/-! ## Stored games -/

/-- The game is on the day and for the teams its id spells, at a known stadium. -/
structure GameOf (formats : Formats) (db : Db) (row : GameRow) : Prop where
  crawled : ∃ text home away, CrawledId row.id text home away ∧
    formats.castDate text = some row.date ∧ TeamNamed db (teamName home) row.homeTeam ∧
    TeamNamed db (teamName away) row.awayTeam
  stadium : ∃ name, StadiumNamed db name row.stadium

theorem GameOf.mono {db db' : Db} {row : GameRow} (h : GameOf formats db row)
    (hnames : KeepsNames db db') (hstadiums : KeepsStadiums db db') : GameOf formats db' row := by
  obtain ⟨⟨text, home, away, hid, hdate, hhome, haway⟩, name, hname⟩ := h
  exact ⟨⟨text, home, away, hid, hdate, hhome.mono hnames, haway.mono hnames⟩, name,
    hname.mono hstadiums⟩

theorem IsGame.gameOf {db : Db} {row : GameRow} {data : IGameData} {home away : String}
    (h : IsGame formats db row data) (hdata : CrawledGame data home away) : GameOf formats db row where
  crawled := ⟨data.date, home, away, h.id ▸ hdata.id, h.date, hdata.homeTeam ▸ h.homeTeam,
    hdata.awayTeam ▸ h.awayTeam⟩
  stadium := ⟨_, h.stadium⟩

/-- Two rows with one id are on the same day, for the same teams. -/
theorem GameOf.same {db db' : Db} {row row' : GameRow} (h : GameOf formats db row)
    (h' : GameOf formats db' row') (hnames : KeepsNames db db') (hid : row'.id = row.id) :
    row'.date = row.date ∧ row'.homeTeam = row.homeTeam ∧ row'.awayTeam = row.awayTeam := by
  obtain ⟨text, home, away, hcrawled, hdate, hhome, haway⟩ := h.crawled
  obtain ⟨text', home', away', hcrawled', hdate', hhome', haway'⟩ := h'.crawled
  rw [hid] at hcrawled'
  obtain ⟨rfl, rfl, rfl⟩ :=
    hcrawled.unique hcrawled' hhome.known haway.known hhome'.known haway'.known
  exact ⟨Option.some.inj (hdate'.symm.trans hdate), hhome'.unique (hhome.mono hnames),
    haway'.unique (haway.mono hnames)⟩

/-- What a season keeps. -/
structure RecrawlInv (formats : Formats) (db : Db) : Prop where
  season : SeasonInv db
  games : ∀ row ∈ db.games.rows, GameOf formats db row

theorem SavesGames.games {db db' : Db} {games : List IGameData} (h : SavesGames formats db db' games)
    (hcrawled : ∀ data ∈ games, ∃ home away, CrawledGame data home away)
    (hinv : ∀ row ∈ db.games.rows, GameOf formats db row) :
    ∀ row ∈ db'.games.rows, GameOf formats db' row := by
  intro row hrow
  rcases h.rows row hrow with ⟨hold, -⟩ | ⟨before, data, later, rfl, hgame, -⟩
  · exact (hinv row hold).mono h.names h.stadiums
  · obtain ⟨home, away, hdata⟩ := hcrawled data (List.mem_append_right _ List.mem_cons_self)
    exact hgame.gameOf hdata

theorem step_recrawlInv {db : Db} (h : RecrawlInv formats db) (e : SeasonEvent) :
    RecrawlInv formats (Season.step formats db e) := by
  refine ⟨(step_season formats h.season e).1, ?_⟩
  unfold Season.step
  cases e with
  | request userId r =>
    dsimp only
    cases hok : r.commit userId db with
    | error e => exact h.games
    | ok p =>
      obtain ⟨db', refresh⟩ := p
      obtain ⟨hgames, hteams, hstadiums, -⟩ := commit_followsAt h.season hok
      intro row hrow
      rw [hgames] at hrow
      exact (h.games row hrow).mono (.of_teams hteams) (.of_stadiums hstadiums)
  | poll gameId input =>
    dsimp only
    cases hrow : db.games.find? gameId with
    | none =>
      rw [scoreJobCallback_db_missing { db, running := true, registered := true } input hrow]
      exact h.games
    | some game =>
      rw [scoreJobCallback_db { db, running := true, registered := true } input hrow]
      intro row hr
      rcases Table.mem_save.1 hr with rfl | ⟨hr, -⟩
      · obtain ⟨o, ho, -⟩ := game.afterPoll_eq input
        obtain ⟨hcrawled, hstadium⟩ := h.games game (Table.mem_of_find? hrow)
        rw [ho]
        exact ⟨hcrawled, hstadium⟩
      · obtain ⟨hcrawled, hstadium⟩ := h.games row hr
        exact ⟨hcrawled, hstadium⟩
  | crawl ids year rows =>
    dsimp only
    rcases upsertSchedules_cases formats db ids year rows with
      ⟨cells, games, db', hcells, hgames, hmany, hdb⟩ | ⟨hdb, -⟩
    · rw [hdb]
      exact (savesGames_of_ok hmany).games (scheduledGames_crawled formats hgames) h.games
    · rw [hdb]
      exact h.games

/-! ## Crawling again -/

section

variable {db db' : Db} {games : List IGameData}

theorem SameMatchup.mono {row : GameRow} {data : IGameData} (h : SameMatchup formats db row data)
    (hnames : KeepsNames db db') : SameMatchup formats db' row data :=
  ⟨h.date, h.homeTeam.mono hnames, h.awayTeam.mono hnames⟩

/-- The teams of a stored row had their names before. -/
theorem SameMatchup.before {row : GameRow} {data : IGameData} (h : SameMatchup formats db' row data)
    (hnames : KeepsNames db db') (hrow : GameOf formats db row) : SameMatchup formats db row data := by
  obtain ⟨text, home, away, -, -, hhome, haway⟩ := hrow.crawled
  exact ⟨h.date, h.homeTeam.before hnames hhome, h.awayTeam.before hnames haway⟩

/-- Registered games are overwritten, never deleted. -/
theorem keepsRegistrations_of_ok {ids : Sequences} {year : Nat} {cells : List (List String)}
    (hinv : RecrawlInv formats db) (hgames : scheduledGames formats year cells = .ok games)
    (hok : upsertMany formats db ids games = .ok db') : KeepsRegistrations db db' := by
  obtain ⟨hregs, -, hstored⟩ :=
    upsertMany_ok formats hok (scheduledGames_named formats hgames) hinv.season.game
  have hsaves := savesGames_of_ok hok
  refine ⟨hregs, fun r hr => ?_⟩
  rw [hregs] at hr
  obtain ⟨row, hrow, -⟩ := hinv.season.side r hr
  obtain ⟨row', hrow', -⟩ := hstored r.game ⟨r, hr, rfl⟩ row hrow
  have hgame' := hsaves.games (scheduledGames_crawled formats hgames) hinv.games row'
    (Table.mem_of_find? hrow')
  exact ⟨row, row', hrow, hrow', (hinv.games row (Table.mem_of_find? hrow)).same hgame' hsaves.names
    ((Table.find?_key hrow').trans (Table.find?_key hrow).symm)⟩

/-- In a list without repeated ids, an id is at one place. -/
theorem split_unique {before before' later later' : List IGameData} {data data' : IGameData}
    (hnodup : (games.map IGameData.id).Nodup) (h : games = before ++ data :: later)
    (h' : games = before' ++ data' :: later') (hid : data.id = data'.id) : later = later' := by
  rw [h, List.map_append, List.map_cons, hid] at hnodup
  obtain ⟨-, hlater, hbefore⟩ := List.nodup_append.1 hnodup
  have hnotBefore : data' ∉ before := fun hm =>
    hbefore data'.id (List.mem_map_of_mem hm) data'.id List.mem_cons_self rfl
  have hnotLater : data' ∉ later := fun hm =>
    (List.nodup_cons.1 hlater).1 (List.mem_map_of_mem hm)
  exact ((List.append_cons_inj_of_notMem hnotBefore hnotLater).1 (h.symm.trans h')).2.2

/-- A crawl that left what it should could be made. -/
theorem Recrawled.recrawlable {ids : Sequences} (hnodup : (games.map IGameData.id).Nodup)
    (hnames : ∀ n ∈ teamsOf games, IsTeamName n)
    (hstadiums : ∀ o ∈ db.games.rows, ∃ name, StadiumNamed db name o.stadium)
    (h : Recrawled formats db ids games) : Recrawlable formats db ids games := by
  obtain ⟨db', hok, hhas, -⟩ := h
  have hsaves := savesGames_of_ok hok
  rw [upsertMany_eq] at hok
  have hsavable := (saveGames_iff hnames hstadiums).1 ⟨db', hok⟩
  refine ⟨hsavable.valid, hsavable.unregistered, hsavable.free, fun data hd row hrow hmatch => ?_,
    fun before data later hsplit d hd hdeletes => ?_, hsavable.teams, hsavable.stadiums⟩
  · -- a game that is not replaced is still there, and no line is about it
    by_contra hkept
    have hkept' : ∀ d ∈ games, ¬ Replaces d row.id := fun d hd hr => hkept ⟨d, hd, hr⟩
    obtain ⟨other, hother, hgame⟩ :=
      (hhas data hd).2 row (hsaves.old row hrow hkept') (hmatch.mono hsaves.names)
    exact hkept' other hother (Or.inl hgame.id)
  · -- a game of the batch that is there was saved by its own line
    have hdata : data ∈ games := by
      rw [hsplit]
      exact List.mem_append_right _ List.mem_cons_self
    obtain ⟨⟨row, hrow, hgame⟩, -⟩ := hhas data hdata
    rcases hsaves.rows row hrow with ⟨-, hkept⟩ | ⟨before', data', later', hsplit', hgame', hkept⟩
    · exact hkept data hdata (Or.inl hgame.id)
    · rw [split_unique hnodup hsplit hsplit' (hgame.id.symm.trans hgame'.id)] at hd
      refine hkept d hd (Or.inr ?_)
      rw [hgame.id]
      exact hdeletes

/-- A crawl that can be made leaves what it should. -/
theorem Recrawlable.recrawled {ids : Sequences} {year : Nat} {cells : List (List String)}
    (hinv : RecrawlInv formats db) (hgames : scheduledGames formats year cells = .ok games)
    (hknown : ∀ data ∈ games, data.homeTeam ≠ none ∧ data.awayTeam ≠ none)
    (hslots : games.Pairwise fun a b => ¬ SameSlot formats a b)
    (h : Recrawlable formats db ids games) : Recrawled formats db ids games := by
  have hsavable : Savable formats db ids.begin games := by
    refine ⟨h.valid, hknown, h.unregistered, h.free, fun before a between b later hsplit hsame => ?_,
      h.teams, h.stadiums⟩
    rw [hsplit] at hslots
    have hfirst := (List.pairwise_cons.1 (List.pairwise_append.1 hslots).2.1).1
    exact absurd hsame (hfirst b (List.mem_append_right _ List.mem_cons_self))
  obtain ⟨db', hok⟩ := (saveGames_iff (teamsOf_scheduled hgames)
    fun o ho => (hinv.games o ho).stadium).2 hsavable
  rw [← upsertMany_eq] at hok
  have hsaves := savesGames_of_ok hok
  refine ⟨db', hok, fun data hd => ⟨?_, fun row hrow hmatch => ?_⟩,
    keepsRegistrations_of_ok hinv hgames hok⟩
  · obtain ⟨before, later, hsplit⟩ := List.append_of_mem hd
    refine hsaves.new before data later hsplit fun d hd' hr => ?_
    rcases hr with hid | hdeletes
    · have hnodup := scheduledGames_nodup formats hgames hknown
      rw [hsplit, List.map_append, List.map_cons] at hnodup
      have hnot := (List.nodup_cons.1 (List.nodup_append.1 hnodup).2.1).1
      exact hnot (List.mem_map.2 ⟨d, hd', hid.symm⟩)
    · exact h.kept before data later hsplit d hd' hdeletes
  · rcases hsaves.rows row hrow with ⟨hold, hkept⟩ | ⟨before, other, later, rfl, hgame, -⟩
    · have hbefore := hmatch.before hsaves.names (hinv.games row hold)
      obtain ⟨d, hd', hr⟩ := h.replaced data hd row hold hbefore
      exact absurd hr (hkept d hd')
    · exact ⟨other, List.mem_append_right _ List.mem_cons_self, hgame⟩

end

/-- **Crawling again.**  After any season, a batch of known teams in different slots is saved
as it is, with every registration kept, exactly when nobody has registered a game it
replaces, it replaces what stands in its slots and all other games of its matchups, and the
tables take its values and what it inserts. -/
theorem recrawled_iff (formats : Formats) (db : Db) (history : List SeasonEvent) (ids : Sequences)
    (year : Nat) (cells : List (List String)) (games : List IGameData)
    (hgames : scheduledGames formats year cells = .ok games)
    (hknown : ∀ data ∈ games, data.homeTeam ≠ none ∧ data.awayTeam ≠ none)
    (hslots : games.Pairwise fun a b => ¬ SameSlot formats a b) :
    Recrawled formats (run (Season.step formats) db.beforeSeason history) ids games ↔
      Recrawlable formats (run (Season.step formats) db.beforeSeason history) ids games := by
  have hinv : RecrawlInv formats (run (Season.step formats) db.beforeSeason history) :=
    (always_of_step (I := RecrawlInv formats) (fun _ e h => step_recrawlInv h e)
      ⟨beforeSeason_inv db, fun row hr => by cases hr⟩ history).last
  have hstadiums := fun o ho => (hinv.games o ho).stadium
  exact ⟨Recrawled.recrawlable (scheduledGames_nodup formats hgames hknown)
    (teamsOf_scheduled hgames) hstadiums, Recrawlable.recrawled hinv hgames hknown hslots⟩

/-- The formats, on the texts of the day below. -/
def doubleHeaderFormats : Formats where
  isNotTimeFormat text := text ≠ "14:00" && text ≠ "17:00"
  castDate text := if text = "2025-06-01" then some ⟨2025, 6, 1⟩ else none
  castTime text :=
    if text = "14:00" then some "14:00:00" else if text = "17:00" then some "17:00:00" else none

/-- The table of a day with one game. -/
def singleTable : List (List String) :=
  [["06.01(일)", "<b>14:00</b>", "<span>LG</span><em>vs</em><span>두산</span>", "<a>프리뷰</a>",
    "", "", "", "잠실", "-"]]

/-- The same day with a second game of the teams. -/
def doubleTable : List (List String) :=
  singleTable ++ [["<b>17:00</b>", "<span>LG</span><em>vs</em><span>두산</span>", "<a>프리뷰</a>",
    "", "", "", "잠실", "-"]]

/-- The two games, numbered. -/
def doubleHeader : List IGameData :=
  [{ id := "20250601LGOB1", date := "2025-06-01", time := "14:00", homeTeam := some (.text "두산 베어스"),
     awayTeam := some (.text "LG 트윈스"), stadium := "잠실", status := preGame, homeScore := none,
     awayScore := none },
   { id := "20250601LGOB2", date := "2025-06-01", time := "17:00", homeTeam := some (.text "두산 베어스"),
     awayTeam := some (.text "LG 트윈스"), stadium := "잠실", status := preGame, homeScore := none,
     awayScore := none }]

theorem doubleHeader_scheduled :
    scheduledGames doubleHeaderFormats 2025 doubleTable = .ok doubleHeader := by
  decide +kernel

theorem doubleHeader_slots :
    doubleHeader.Pairwise fun a b => ¬ SameSlot doubleHeaderFormats a b := by
  refine List.pairwise_cons.2 ⟨fun b hb => ?_, List.pairwise_singleton _ _⟩
  rw [List.mem_singleton.1 hb]
  rintro ⟨-, ⟨time, h, h'⟩, -⟩
  have h14 : some time = some "14:00:00" := h.symm
  have h17 : some time = some "17:00:00" := h'.symm
  exact absurd (h14.symm.trans h17) (by decide)

/-- The day is crawled with its one game, which the fan registers. -/
def singleGameRegistered : List SeasonEvent :=
  [.crawl ⟨1, 1⟩ 2025 (some singleTable),
   .request 7 (.register ⟨none, "A1", "good", "20250601LGOB0", 2⟩ 1)]

def singleGameDb : Db := run (Season.step doubleHeaderFormats) fanDb.beforeSeason singleGameRegistered

/-- The two games are crawled after that. -/
theorem recrawled_iff_doubleHeader :
    Recrawled doubleHeaderFormats singleGameDb ⟨3, 2⟩ doubleHeader ↔
      Recrawlable doubleHeaderFormats singleGameDb ⟨3, 2⟩ doubleHeader :=
  recrawled_iff doubleHeaderFormats fanDb singleGameRegistered ⟨3, 2⟩ 2025 doubleTable doubleHeader
    doubleHeader_scheduled (by decide) doubleHeader_slots

/-- The registration refers to the one game, so the two are not saved. -/
theorem doubleHeader_rolledBack :
    (scheduledGames doubleHeaderFormats 2025 doubleTable = .ok doubleHeader ∧
      (∀ data ∈ doubleHeader, data.homeTeam ≠ none ∧ data.awayTeam ≠ none) ∧
      doubleHeader.Pairwise fun a b => ¬ SameSlot doubleHeaderFormats a b) ∧
    ¬ Recrawled doubleHeaderFormats singleGameDb ⟨3, 2⟩ doubleHeader := by
  refine ⟨⟨doubleHeader_scheduled, by decide, doubleHeader_slots⟩, ?_⟩
  rintro ⟨db', hok, -⟩
  exact (savesGames_of_ok hok).unregistered _ List.mem_cons_self
    ⟨1, none, "A1", "good", none, "20250601LGOB0", 7, 2⟩ (by decide +kernel) ⟨by decide, by decide⟩

end VictoryFairy
