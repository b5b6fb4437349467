import VictoryFairy.Proofs.ScheduleRows
import VictoryFairy.Proofs.StoredGames

/-!
# One bad row

A row whose cell is no matchup of two teams of the table stops the whole month, if a date is
there for it: no game of the table is read, or the transaction is rolled back.  The names that
every object has are an exception: two of them are saved as teams.

    BadRow.takesTeams   : a dated bad row is saved with its teams, or nothing is saved
    badRow_isolated_iff : when every game of the month is still stored
-/

namespace VictoryFairy

open Runs

/-! ## Dates -/

section

variable (formats : Formats)

/-- The row sets the current date. -/
def SetsDate (cells : List String) : Prop :=
  isDayRow cells = true ∧ column cells 0 ≠ "" ∧ formats.isNotTimeFormat (column cells 0) = true

theorem nextDate_of_not_setsDate {cells : List String} (h : ¬ SetsDate formats cells) (year : Nat)
    (currentDate : String) : nextDate formats year currentDate (rowEntry cells) = currentDate := by
  unfold nextDate rowEntry
  cases hday : isDayRow cells with
  | false => rfl
  | true =>
    rw [if_pos rfl]
    exact if_neg fun hd => h ⟨hday, hd⟩

theorem nextDate_ne_empty {cells : List String} {year : Nat} {currentDate : String}
    (h : SetsDate formats cells ∨ currentDate ≠ "") :
    nextDate formats year currentDate (rowEntry cells) ≠ "" := by
  by_cases hsets : SetsDate formats cells
  · obtain ⟨hday, hdate⟩ := hsets
    unfold nextDate rowEntry
    rw [hday, if_pos rfl]
    dsimp only
    rw [if_pos hdate]
    exact dayDate_ne_empty year cells
  · rw [nextDate_of_not_setsDate formats hsets]
    exact h.resolve_left hsets

/-- A current date stays, and there is none before a row that sets it. -/
theorem dateAfter_eq_empty_iff (year : Nat) (currentDate : String) (rows : List (List String)) :
    dateAfter formats year currentDate rows = "" ↔
      currentDate = "" ∧ ∀ cells ∈ rows, ¬ SetsDate formats cells := by
  induction rows generalizing currentDate with
  | nil => exact ⟨fun h => ⟨h, fun _ hc => absurd hc List.not_mem_nil⟩, fun h => h.1⟩
  | cons cells rows ih =>
    rw [List.forall_mem_cons]
    cases hrow : isGameRow cells with
    | false =>
      have hnot : ¬ SetsDate formats cells := by
        rintro ⟨hday, -⟩
        unfold isGameRow at hrow
        rw [hday, Bool.or_true] at hrow
        cases hrow
      rw [dateAfter_skip formats year (scheduleEntry_other hrow), ih]
      exact ⟨fun h => ⟨h.1, hnot, h.2⟩, fun h => ⟨h.1, h.2.2⟩⟩
    | true =>
      rw [dateAfter_row formats year (scheduleEntry_columns hrow), ih]
      constructor
      · rintro ⟨hempty, hrest⟩
        have hno := fun h => nextDate_ne_empty formats h hempty
        exact ⟨by_contra fun hc => hno (Or.inr hc), fun hs => hno (Or.inl hs), hrest⟩
      · rintro ⟨hempty, hno, hrest⟩
        exact ⟨(nextDate_of_not_setsDate formats hno year currentDate).trans hempty, hrest⟩

end

/-! ## The bad row -/

/-- A later row of a day whose cell is no matchup of two known teams: it has no `vs`, nothing
on one side of it, or a name that is not in the table. -/
def BadRow (row : List String) : Prop :=
  row.length = 8 ∧ ∀ homeTeam awayTeam,
    getTeamAndScore (column (extractTextFromHtml row) 2) = some (homeTeam, awayTeam) →
      TTeam.lookup homeTeam.name = none ∨ TTeam.lookup awayTeam.name = none

section

variable {formats : Formats} {year : Nat} {bad : List String}

theorem BadRow.columns (h : BadRow bad) (formats : Formats) :
    scheduleEntry (extractTextFromHtml bad) = some (rowEntry (extractTextFromHtml bad)) ∧
      ¬ SetsDate formats (extractTextFromHtml bad) := by
  have hlength : (extractTextFromHtml bad).length = 8 := by
    unfold extractTextFromHtml
    rw [List.length_map, h.1]
  have hday : isDayRow (extractTextFromHtml bad) = false := by
    unfold isDayRow
    rw [hlength]
    rfl
  refine ⟨scheduleEntry_columns ?_, fun hs => Bool.false_ne_true (hday.symm.trans hs.1)⟩
  unfold isGameRow
  rw [hlength]
  rfl

/-- Before the first date, the row is passed over. -/
theorem BadRow.undated (h : BadRow bad) (rows : List (List String)) :
    refineGamesData formats year "" (extractTextFromHtml bad :: rows) =
      refineGamesData formats year "" rows := by
  obtain ⟨hentry, hsets⟩ := h.columns formats
  rw [refineGamesData_row formats year hentry, nextDate_of_not_setsDate formats hsets, if_pos rfl]

/-- Both names of the row's cell are texts in the column of a team's name. -/
def TakesTeams (row : List String) : Prop :=
  ∃ homeTeam awayTeam home away homeText awayText,
    getTeamAndScore (column (extractTextFromHtml row) 2) = some (homeTeam, awayTeam) ∧
    teamName homeTeam.name = some home ∧ home.column = .ok homeText ∧
    teamName awayTeam.name = some away ∧ away.column = .ok awayText

/-- After it, the table is not read, or the row is one of its games. -/
theorem BadRow.dated (h : BadRow bad) {currentDate : String} (hdate : currentDate ≠ "")
    {rows : List (List String)} {games : List IGameData}
    (hread : refineGamesData formats year currentDate (extractTextFromHtml bad :: rows) = .ok games) :
    ∃ homeTeam awayTeam : ITeamAndScore,
      getTeamAndScore (column (extractTextFromHtml bad) 2) = some (homeTeam, awayTeam) ∧
      ∃ data ∈ games, data.homeTeam = teamName homeTeam.name ∧
        data.awayTeam = teamName awayTeam.name := by
  obtain ⟨hentry, hsets⟩ := h.columns formats
  rw [refineGamesData_row formats year hentry, nextDate_of_not_setsDate formats hsets,
    if_neg hdate] at hread
  split at hread
  · cases hread
  · next homeTeam awayTeam hteams =>
    cases hrest : refineGamesData formats year currentDate rows with
    | error e =>
      rw [hrest] at hread
      cases hread
    | ok rest =>
      rw [hrest] at hread
      obtain rfl := Except.ok.inj hread
      exact ⟨homeTeam, awayTeam, hteams, _, List.mem_cons_self, rfl, rfl⟩

variable {db : Db} {ids : Sequences} {before after : List (List String)}

theorem badRow_undated (h : BadRow bad)
    (hundated : ∀ row ∈ before, ¬ SetsDate formats (extractTextFromHtml row)) :
    scheduledGames formats year (before ++ bad :: after) =
      scheduledGames formats year (before ++ after) := by
  have hempty : dateAfter formats year "" (before.map extractTextFromHtml) = "" :=
    (dateAfter_eq_empty_iff formats year "" _).2 ⟨rfl, List.forall_mem_map.2 hundated⟩
  unfold scheduledGames
  rw [List.map_append, List.map_append, List.map_cons, refineGamesData_append,
    refineGamesData_append, hempty, h.undated]

/-- **A dated bad row** is a game of the month, which is saved with its teams or not at all. -/
theorem BadRow.takesTeams (h : BadRow bad)
    (hdated : ¬ ∀ row ∈ before, ¬ SetsDate formats (extractTextFromHtml row)) {games : List IGameData}
    (hread : scheduledGames formats year (before ++ bad :: after) = .ok games)
    (hsavable : Savable formats db ids.begin games) : TakesTeams bad := by
  have hdate : dateAfter formats year "" (before.map extractTextFromHtml) ≠ "" := fun hempty =>
    hdated fun row hrow =>
      ((dateAfter_eq_empty_iff formats year "" _).1 hempty).2 _ (List.mem_map_of_mem hrow)
  obtain ⟨schedule, hrefined, rfl⟩ := scheduledGames_ok hread
  rw [List.map_append, List.map_cons, refineGamesData_append] at hrefined
  obtain ⟨first, -, hrefined⟩ := bind_eq_ok.1 hrefined
  obtain ⟨others, hothers, hrefined⟩ := bind_eq_ok.1 hrefined
  obtain rfl := Except.ok.inj hrefined
  obtain ⟨homeTeam, awayTeam, hparse, data, hdata, hhome, haway⟩ := h.dated hdate hothers
  have hdata' : data ∈ first ++ others := List.mem_append_right _ hdata
  obtain ⟨hhomeKnown, hawayKnown⟩ := known_of_processed hsavable.named data hdata'
  obtain ⟨home, hhomeName⟩ := Option.ne_none_iff_exists'.1 hhomeKnown
  obtain ⟨away, hawayName⟩ := Option.ne_none_iff_exists'.1 hawayKnown
  have hteams := hsavable.teams
  rw [teamsOf_processed] at hteams
  obtain ⟨homeText, hhomeText⟩ := hteams.column (n := home) (List.mem_flatMap.2
    ⟨data, hdata', List.mem_append_left _ (Option.mem_toList.2 hhomeName)⟩)
  obtain ⟨awayText, hawayText⟩ := hteams.column (n := away) (List.mem_flatMap.2
    ⟨data, hdata', List.mem_append_right _ (Option.mem_toList.2 hawayName)⟩)
  exact ⟨homeTeam, awayTeam, home, away, homeText, awayText, hparse, hhome.symm.trans hhomeName,
    hhomeText, haway.symm.trans hawayName, hawayText⟩

end

/-! ## The month -/

section

variable (formats : Formats) (db : Db) (ids : Sequences) (year : Nat)
  (before after : List (List String)) (bad : List String)

/-- The games of the table with the row can be saved, its two teams among them. -/
def SavedWith (games' : List IGameData) : Prop :=
  TakesTeams bad ∧ scheduledGames formats year (before ++ bad :: after) = .ok games' ∧
    Savable formats db ids.begin games'

end

section

variable {formats : Formats} {db : Db} {ids : Sequences} {year : Nat}
  {before after : List (List String)} {bad : List String}

/-- The table with the row is saved, or leaves the tables as they were. -/
theorem upsertSchedules_badRow (hbad : BadRow bad)
    (hstadiums : ∀ o ∈ db.games.rows, ∃ name, StadiumNamed db name o.stadium)
    (hdated : ¬ ∀ row ∈ before, ¬ SetsDate formats (extractTextFromHtml row)) :
    (∃ games' db2, SavedWith formats db ids year before after bad games' ∧
      upsertMany formats db ids games' = .ok db2 ∧
      upsertSchedules formats db ids year (some (before ++ bad :: after)) = db2) ∨
    ((¬ ∃ games', SavedWith formats db ids year before after bad games') ∧
      upsertSchedules formats db ids year (some (before ++ bad :: after)) = db) := by
  rcases upsertSchedules_cases formats db ids year (some (before ++ bad :: after)) with
    ⟨cells, games', db2, hcells, hread, hsaved, hdb⟩ | ⟨hdb, hnever⟩
  · obtain rfl := Option.some.inj hcells
    have hsavable := (saveGames_iff (teamsOf_scheduled hread) hstadiums).1 ⟨db2, hsaved⟩
    exact Or.inl ⟨games', db2, ⟨hbad.takesTeams hdated hread hsavable, hread, hsavable⟩, hsaved, hdb⟩
  · refine Or.inr ⟨?_, hdb⟩
    rintro ⟨games', -, hread, hsavable⟩
    obtain ⟨db2, hsaved⟩ := (saveGames_iff (teamsOf_scheduled hread) hstadiums).2 hsavable
    exact hnever _ games' db2 rfl hread hsaved

end

/-- **One bad row.**  The month is still stored when no date comes before the row, when the row
is saved as a game of two teams and no other game gets another row for it, or when it is rolled
back and there was nothing left to store. -/
theorem badRow_isolated_iff (formats : Formats) (db db1 : Db) (ids : Sequences) (year : Nat)
    (before after : List (List String)) (bad : List String) (games : List IGameData)
    (hrefs : Referenced db) (hread : scheduledGames formats year (before ++ after) = .ok games)
    (hsaved : upsertMany formats db ids games = .ok db1)
    (hcomplete : ∀ g ∈ games, (db1.games.find? g.id).isSome = true) (hbad : BadRow bad) :
    (∀ g ∈ games, (upsertSchedules formats db ids year
        (some (before ++ bad :: after))).games.find? g.id = db1.games.find? g.id) ↔
      (∀ row ∈ before, ¬ SetsDate formats (extractTextFromHtml row)) ∨
      (∃ games', SavedWith formats db ids year before after bad games' ∧
        ∀ g ∈ games, Keeps formats db ids games games' g) ∨
      (¬ ∃ games', SavedWith formats db ids year before after bad games') ∧
        ∀ g ∈ games, ∃ row ∈ db.games.rows, Stored formats db g row := by
  by_cases hdated : ∀ row ∈ before, ¬ SetsDate formats (extractTextFromHtml row)
  · refine iff_of_true (fun g _ => ?_) (Or.inl hdated)
    unfold upsertSchedules
    rw [Option.map_some, badRow_undated hbad hdated, hread]
    dsimp only
    rw [hsaved]
  rw [or_iff_right hdated]
  rcases upsertSchedules_badRow hbad hrefs.stadium hdated with
    ⟨games', db2, hwith, hsaved', hdb⟩ | ⟨hnever, hdb⟩
  · rw [hdb]
    have hkeeps : (∀ g ∈ games, db2.games.find? g.id = db1.games.find? g.id) ↔
        ∀ g ∈ games, Keeps formats db ids games games' g :=
      forall₂_congr fun g hg =>
        keeps_iff hread hwith.2.1 hsaved hsaved' hrefs hg (hcomplete g hg)
    rw [hkeeps]
    constructor
    · exact fun h => Or.inl ⟨games', hwith, h⟩
    · rintro (⟨others, hothers, h⟩ | ⟨hno, -⟩)
      · obtain rfl := Except.ok.inj (hothers.2.1.symm.trans hwith.2.1)
        exact h
      · exact absurd ⟨games', hwith⟩ hno
  · rw [hdb]
    refine Iff.trans (forall₂_congr fun g hg => found_before_iff hread hsaved hrefs hg (hcomplete g hg))
      ⟨fun h => Or.inr ⟨hnever, h⟩, ?_⟩
    rintro (⟨games', hwith, -⟩ | ⟨-, h⟩)
    · exact absurd ⟨games', hwith⟩ hnever
    · exact h

/-- A row of the day with what every object inherits from. -/
def protoRow : List String :=
  ["<b>17:00</b>", "<span>__proto__</span><em>vs</em><span>LG</span>", "", "", "", "", "잠실", "-"]

/-- It is saved as a game of its own, and the game of the day with it. -/
example : (upsertSchedules doubleHeaderFormats fanDb ⟨1, 1⟩ 2025
    (some (singleTable ++ [protoRow]))).games.rows.map GameRow.id =
      ["20250601LGOB0", "20250601[object Object]LG0"] := by
  decide +kernel

/-- A row of the day without a matchup. -/
def noGameRow : List String := ["<b>17:00</b>", "경기 없음", "", "", "", "", "잠실", "-"]

theorem noGameRow_bad : BadRow noGameRow := by
  have hparse : getTeamAndScore (column (extractTextFromHtml noGameRow) 2) = none := by
    decide +kernel
  refine ⟨rfl, fun homeTeam awayTeam h => ?_⟩
  rw [hparse] at h
  cases h

/-- The game of the day. -/
def singleGame : List IGameData :=
  [{ id := "20250601LGOB0", date := "2025-06-01", time := "14:00", homeTeam := some (.text "두산 베어스"),
     awayTeam := some (.text "LG 트윈스"), stadium := "잠실", status := preGame, homeScore := none,
     awayScore := none }]

theorem singleGame_scheduled :
    scheduledGames doubleHeaderFormats 2025 (singleTable ++ []) = .ok singleGame := by
  decide +kernel

/-- The tables after the day is crawled without the row. -/
def dayDb : Db := upsertSchedules doubleHeaderFormats fanDb ⟨1, 1⟩ 2025 (some (singleTable ++ []))

theorem singleGame_saved : upsertMany doubleHeaderFormats fanDb ⟨1, 1⟩ singleGame = .ok dayDb := by
  have hcommits : (upsertMany doubleHeaderFormats fanDb ⟨1, 1⟩ singleGame).isOk = true := by
    decide +kernel
  unfold dayDb upsertSchedules
  rw [Option.map_some, singleGame_scheduled]
  cases hsaved : upsertMany doubleHeaderFormats fanDb ⟨1, 1⟩ singleGame with
  | error e =>
    rw [hsaved] at hcommits
    cases hcommits
  | ok db =>
    dsimp only
    rw [hsaved]

theorem fanDb_referenced : Referenced fanDb :=
  ⟨fun _ ho => absurd ho List.not_mem_nil, fun _ ho => absurd ho List.not_mem_nil,
    fun _ ho => absurd ho List.not_mem_nil⟩

theorem badRow_isolated_noGame :
    (∀ g ∈ singleGame, (upsertSchedules doubleHeaderFormats fanDb ⟨1, 1⟩ 2025
        (some (singleTable ++ noGameRow :: []))).games.find? g.id = dayDb.games.find? g.id) ↔
      (∀ row ∈ singleTable, ¬ SetsDate doubleHeaderFormats (extractTextFromHtml row)) ∨
      (∃ games', SavedWith doubleHeaderFormats fanDb ⟨1, 1⟩ 2025 singleTable [] noGameRow games' ∧
        ∀ g ∈ singleGame, Keeps doubleHeaderFormats fanDb ⟨1, 1⟩ singleGame games' g) ∨
      (¬ ∃ games', SavedWith doubleHeaderFormats fanDb ⟨1, 1⟩ 2025 singleTable [] noGameRow games') ∧
        ∀ g ∈ singleGame, ∃ row ∈ fanDb.games.rows, Stored doubleHeaderFormats fanDb g row :=
  badRow_isolated_iff doubleHeaderFormats fanDb dayDb ⟨1, 1⟩ 2025 singleTable [] noGameRow singleGame
    fanDb_referenced singleGame_scheduled singleGame_saved (by decide +kernel) noGameRow_bad

/-- With the row after it, the game of the day is not stored. -/
theorem badRow_costs_day :
    (Referenced fanDb ∧ scheduledGames doubleHeaderFormats 2025 (singleTable ++ []) = .ok singleGame ∧
      upsertMany doubleHeaderFormats fanDb ⟨1, 1⟩ singleGame = .ok dayDb ∧
      (∀ g ∈ singleGame, (dayDb.games.find? g.id).isSome = true) ∧ BadRow noGameRow) ∧
    ∃ g ∈ singleGame, (upsertSchedules doubleHeaderFormats fanDb ⟨1, 1⟩ 2025
      (some (singleTable ++ noGameRow :: []))).games.find? g.id = none :=
  ⟨⟨fanDb_referenced, singleGame_scheduled, singleGame_saved, by decide +kernel, noGameRow_bad⟩,
    by decide +kernel⟩

end VictoryFairy
