import VictoryFairy.Proofs.CrawlTwice

/-!
# Two crawls of one database

A crawl leaves of a game what its line says.  So two crawls leave the same row under an id
when their lines with it say the same, or when no line of the one is about it and the row was
there before.

    stored_of_found : the row of a line is what the line says
    winner_of_found : and its winner
    kept_of_stored  : a game that is stored as its line says is found unchanged
    keeps_iff       : when another crawl leaves the same row
-/

namespace VictoryFairy

open Runs

attribute [ext] GameRow

/-! ## Games that are stored already -/

/-- The teams and the stadium of every game are found by their names. -/
structure Referenced (db : Db) : Prop where
  homeTeam : ∀ o ∈ db.games.rows, ∃ name, TeamNamed db name o.homeTeam
  awayTeam : ∀ o ∈ db.games.rows, ∃ name, TeamNamed db name o.awayTeam
  stadium : ∀ o ∈ db.games.rows, ∃ name, StadiumNamed db name o.stadium

section

variable {formats : Formats} {db db1 : Db} {ids : Sequences} {games : List IGameData}
  {g : IGameData} {row : GameRow}

theorem Stored.mono {db' : Db} (h : Stored formats db g row) (hnames : KeepsNames db db')
    (hstadiums : KeepsStadiums db db') : Stored formats db' g row :=
  ⟨h.1.mono hnames hstadiums, h.2⟩

/-- What was stored before is stored under the names of before. -/
theorem Stored.before {db' : Db} (h : Stored formats db' g row) (hrefs : Referenced db)
    (hmem : row ∈ db.games.rows) (hnames : KeepsNames db db') (hstadiums : KeepsStadiums db db') :
    Stored formats db g row := by
  obtain ⟨home, hhome⟩ := hrefs.homeTeam row hmem
  obtain ⟨away, haway⟩ := hrefs.awayTeam row hmem
  obtain ⟨stadium, hstadium⟩ := hrefs.stadium row hmem
  refine ⟨{ h.1 with
    homeTeam := h.1.homeTeam.before hnames hhome
    awayTeam := h.1.awayTeam.before hnames haway
    stadium := ?_ }, h.2⟩
  rwa [← (hstadium.mono hstadiums).name_unique h.1.stadium]

/-- Saving a line over the row it describes. -/
theorem saveGameData_stored {db' : Db} {crawl crawl' : Crawl} (hstored : Stored formats db g row)
    (hmem : row ∈ db.games.rows) (h : saveGameData formats (db, crawl) g = .ok (db', crawl')) :
    row ∈ db'.games.rows := by
  obtain ⟨date, time, homeTeam, awayTeam, stadium, db3, db4, hdate, htime, hlooks, -, hdelete,
    hupsert⟩ := saveGameData_iff.1 h
  obtain ⟨hgames, -, hnames, hhome, haway⟩ := hlooks.teams
  obtain ⟨hstadiums, hstadium⟩ := hlooks.stadiums
  obtain ⟨-, -, -, hfind4⟩ := deletePreDoubleHeader_ok hdelete
  obtain ⟨-, -, -, rfl⟩ := upsertGame_iff.1 hupsert
  have hgame := hstored.1.mono hnames hstadiums
  obtain rfl := Option.some.inj (hdate.symm.trans hgame.date)
  obtain rfl := Option.some.inj (htime.symm.trans hgame.time)
  have hfound : db4.games.find? g.id = some row := by
    rw [hfind4 g.id (Or.inl rfl), hgames, ← hgame.id]
    exact Table.find?_of_mem hmem
  rw [Db.withGames_games, hhome.unique hgame.homeTeam, haway.unique hgame.awayTeam,
    hstadium.unique hgame.stadium]
  show row ∈ (db4.games.save (Game.CreateProps.savedRow _ (db4.games.find? g.id))).rows
  rw [hfound, hstored.savedRow]
  exact Table.mem_save.2 (Or.inl rfl)

/-- A batch up to a line, the line, and the rest. -/
theorem upsertMany_split {before later : List IGameData}
    (h : upsertMany formats db ids (before ++ g :: later) = .ok db1) :
    ∃ db2 crawl2 db3 crawl3, SavesGames formats db db2 before ∧
      saveGameData formats (db2, crawl2) g = .ok (db3, crawl3) ∧ SavesGames formats db3 db1 later := by
  obtain ⟨s, hfold, hdb⟩ := bind_eq_ok.1 h
  obtain rfl := Except.ok.inj hdb
  rw [List.foldlM_append] at hfold
  obtain ⟨⟨db2, crawl2⟩, hbefore, hfold⟩ := bind_eq_ok.1 hfold
  rw [List.foldlM_cons] at hfold
  obtain ⟨⟨db3, crawl3⟩, hline, hlater⟩ := bind_eq_ok.1 hfold
  have hsavesBefore : saveGames formats db ids.begin before = .ok db2 :=
    bind_eq_ok.2 ⟨_, hbefore, rfl⟩
  have hsavesLater : saveGames formats db3 crawl3 later = .ok s.1 := bind_eq_ok.2 ⟨_, hlater, rfl⟩
  exact ⟨db2, crawl2, db3, crawl3, saveGames_saved hsavesBefore, hline, saveGames_saved hsavesLater⟩

/-- A row whose id no line has was there before. -/
theorem SavesGames.untouched {db' : Db} (h : SavesGames formats db db' games)
    (hmem : row ∈ db'.games.rows) (hid : row.id ∉ games.map IGameData.id) : row ∈ db.games.rows := by
  rcases h.rows row hmem with ⟨hold, -⟩ | ⟨before, data, later, hsplit, hgame, -⟩
  · exact hold
  · refine absurd ?_ hid
    rw [hgame.id, hsplit]
    exact List.mem_map_of_mem (List.mem_append_right _ List.mem_cons_self)

section

variable (h : upsertMany formats db ids games = .ok db1) (hnodup : (games.map IGameData.id).Nodup)

include h hnodup

/-- The row of a line is what the line says. -/
theorem stored_of_found (hg : g ∈ games) (hmem : row ∈ db1.games.rows) (hid : row.id = g.id) :
    Stored formats db1 g row := by
  obtain ⟨before, later, rfl⟩ := List.append_of_mem hg
  obtain ⟨db2, crawl2, db3, crawl3, -, hline, hlater⟩ := upsertMany_split h
  rw [List.map_append, List.map_cons] at hnodup
  have hfresh := (List.nodup_cons.1 (List.nodup_append.1 hnodup).2.1).1
  have hmem3 := hlater.untouched hmem (hid ▸ hfresh)
  obtain ⟨row3, hrow3, hstored, -⟩ := (saveGameData_settled hline).stored
  obtain rfl := Table.eq_of_key hmem3 hrow3 (hid.trans hstored.1.id.symm)
  exact hstored.mono hlater.names hlater.stadiums

/-- **A game that is stored already** is found unchanged, unless a line before it deletes it. -/
theorem kept_of_stored {before later : List IGameData} {found : GameRow}
    (hsplit : games = before ++ g :: later) (hbefore : ∀ d ∈ before, ¬ Deletes d g.id)
    (hstored : Stored formats db g row) (hmem : row ∈ db.games.rows)
    (hfound : found ∈ db1.games.rows) (hid : found.id = g.id) : found = row := by
  subst hsplit
  obtain ⟨db2, crawl2, db3, crawl3, hsaves, hline, hlater⟩ := upsertMany_split h
  rw [List.map_append, List.map_cons] at hnodup
  obtain ⟨-, hrest, hapart⟩ := List.nodup_append.1 hnodup
  have hmem2 : row ∈ db2.games.rows := by
    refine hsaves.old row hmem fun d hd hr => ?_
    rw [hstored.1.id] at hr
    rcases hr with he | hdel
    · exact hapart d.id (List.mem_map_of_mem hd) g.id List.mem_cons_self he.symm
    · exact hbefore d hd hdel
  have hmem3 := saveGameData_stored (hstored.mono hsaves.names hsaves.stadiums) hmem2 hline
  have hfound3 := hlater.untouched hfound (hid ▸ (List.nodup_cons.1 hrest).1)
  exact Table.eq_of_key hfound3 hmem3 (hid.trans hstored.1.id.symm)

end

end

/-- A line deletes no game that comes after it. -/
theorem not_deletes_later {formats : Formats} {db db1 : Db} {ids : Sequences} {year : Nat}
    {rows : List (List String)} {games before later : List IGameData} {g : IGameData}
    (hread : scheduledGames formats year rows = .ok games)
    (hsaved : upsertMany formats db ids games = .ok db1) (hsplit : games = before ++ g :: later) :
    ∀ d ∈ before, ¬ Deletes d g.id := by
  obtain ⟨schedule, hrefined, rfl⟩ := scheduledGames_ok hread
  intro d hd hdel
  obtain ⟨i, hi, rfl⟩ := List.mem_iff_getElem.1 hd
  obtain ⟨hlate, -⟩ := deletes_place (lines_named hrefined hsaved) (i := i) (j := before.length)
    (d := before[i]) (g := g) (by rw [hsplit, List.getElem?_append_left hi, List.getElem?_eq_getElem hi])
    (by rw [hsplit]; simp) hdel
  exact Nat.lt_asymm hlate hi

section

variable {formats : Formats} {db db1 : Db} {ids : Sequences} {games : List IGameData}
  {g : IGameData} {row : GameRow}

/-- An id no line replaces has the row it had. -/
theorem SavesGames.find?_eq {db' : Db} {id : String} (h : SavesGames formats db db' games)
    (hkept : ∀ d ∈ games, ¬ Replaces d id) : db'.games.find? id = db.games.find? id := by
  cases hfound : db.games.find? id with
  | some r =>
    obtain rfl := Table.find?_key hfound
    exact Table.find?_of_mem (h.old r (Table.mem_of_find? hfound) hkept)
  | none =>
    refine Table.find?_eq_none.2 fun o ho hid => ?_
    rcases h.rows o ho with ⟨hold, -⟩ | ⟨before, data, later, rfl, hgame, -⟩
    · exact Table.find?_eq_none.1 hfound o hold hid
    · exact hkept data (List.mem_append_right _ List.mem_cons_self)
        (Or.inl (hid.symm.trans hgame.id))

/-- **The winner of a line's row** is told by its scores, or it is the one of before. -/
theorem winner_of_found (h : upsertMany formats db ids games = .ok db1)
    (hnodup : (games.map IGameData.id).Nodup) {before later : List IGameData}
    (hsplit : games = before ++ g :: later) (hbefore : ∀ d ∈ before, ¬ Deletes d g.id)
    (hmem : row ∈ db1.games.rows) (hid : row.id = g.id) :
    row.winningTeam = if g.status = finished then row.winnerOf
      else (db.games.find? g.id).bind GameRow.winningTeam := by
  subst hsplit
  obtain ⟨db2, crawl2, db3, crawl3, hsaves, hline, hlater⟩ := upsertMany_split h
  rw [List.map_append, List.map_cons] at hnodup
  obtain ⟨-, hrest, hapart⟩ := List.nodup_append.1 hnodup
  have hsame : db2.games.find? g.id = db.games.find? g.id := by
    refine hsaves.find?_eq fun d hd hr => ?_
    rcases hr with he | hdel
    · exact hapart d.id (List.mem_map_of_mem hd) g.id List.mem_cons_self he.symm
    · exact hbefore d hd hdel
  rw [← hsame]
  exact saveGameData_winner hline (hlater.untouched hmem (hid ▸ (List.nodup_cons.1 hrest).1)) hid

/-- The ids in the row of a line. -/
theorem IsGame.numbers (hnames : ∀ n ∈ teamsOf games, IsTeamName n)
    (h : upsertMany formats db ids games = .ok db1) (hg : g ∈ games) (hgame : IsGame formats db1 row g) :
    g.homeTeam.map (teamNumber db ids.begin (teamsOf games)) = some row.homeTeam ∧
      g.awayTeam.map (teamNumber db ids.begin (teamsOf games)) = some row.awayTeam ∧
      stadiumNumber db ids.stadium (stadiumsOf games) g.stadium = row.stadium := by
  rw [upsertMany_eq] at h
  obtain ⟨hteams, hplaces⟩ := saveGames_numbers hnames h
  obtain ⟨home, hhome⟩ := hgame.homeTeam.known
  obtain ⟨away, haway⟩ := hgame.awayTeam.known
  have hhomeNamed := hgame.homeTeam
  have hawayNamed := hgame.awayTeam
  rw [hhome] at hhomeNamed
  rw [haway] at hawayNamed
  rw [hhome, haway]
  refine ⟨congrArg some ?_, congrArg some ?_, ?_⟩
  · exact (hteams home (List.mem_flatMap.2
      ⟨g, hg, List.mem_append_left _ (Option.mem_toList.2 hhome)⟩)).unique hhomeNamed
  · exact (hteams away (List.mem_flatMap.2
      ⟨g, hg, List.mem_append_right _ (Option.mem_toList.2 haway)⟩)).unique hawayNamed
  · exact (hplaces g.stadium (List.mem_map_of_mem hg)).unique hgame.stadium

end

/-! ## Another crawl -/

section

variable (formats : Formats) (db : Db) (ids : Sequences) (games games' : List IGameData)

/-- The lines say the same, with the ids their own batch gives to teams and stadium. -/
structure SameRow (g d : IGameData) : Prop where
  id : d.id = g.id
  date : formats.castDate d.date = formats.castDate g.date
  time : formats.castTime d.time = formats.castTime g.time
  status : d.status = g.status
  homeScore : d.homeScore = g.homeScore
  awayScore : d.awayScore = g.awayScore
  homeTeam : d.homeTeam.map (teamNumber db ids.begin (teamsOf games')) =
    g.homeTeam.map (teamNumber db ids.begin (teamsOf games))
  awayTeam : d.awayTeam.map (teamNumber db ids.begin (teamsOf games')) =
    g.awayTeam.map (teamNumber db ids.begin (teamsOf games))
  stadium : stadiumNumber db ids.stadium (stadiumsOf games') d.stadium =
    stadiumNumber db ids.stadium (stadiumsOf games) g.stadium

/-- The other batch says the same of the game and deletes it nowhere, or says nothing of it and
the game is stored. -/
def Keeps (g : IGameData) : Prop :=
  (∃ d ∈ games', SameRow formats db ids games games' g d ∧ ∀ e ∈ games', ¬ Deletes e g.id) ∨
    (∀ d ∈ games', ¬ Replaces d g.id) ∧ ∃ row ∈ db.games.rows, Stored formats db g row

end

section

variable {formats : Formats} {db db1 db2 : Db} {ids : Sequences} {year : Nat}
  {rows rows' : List (List String)} {games games' : List IGameData} {g d : IGameData}
  {row found : GameRow}
  (hread : scheduledGames formats year rows = .ok games)
  (hread' : scheduledGames formats year rows' = .ok games')
  (hsaved : upsertMany formats db ids games = .ok db1)
  (hsaved' : upsertMany formats db ids games' = .ok db2)

include hread hsaved

/-- What the row of a line is, all told. -/
theorem found_line (hg : g ∈ games) (hmem : row ∈ db1.games.rows) (hid : row.id = g.id) :
    Stored formats db1 g row ∧
      g.homeTeam.map (teamNumber db ids.begin (teamsOf games)) = some row.homeTeam ∧
      g.awayTeam.map (teamNumber db ids.begin (teamsOf games)) = some row.awayTeam ∧
      stadiumNumber db ids.stadium (stadiumsOf games) g.stadium = row.stadium ∧
      row.winningTeam = if g.status = finished then row.winnerOf
        else (db.games.find? g.id).bind GameRow.winningTeam := by
  have hnodup := scheduledGames_nodup formats hread (upsertMany_known hsaved)
  have hstored := stored_of_found hsaved hnodup hg hmem hid
  obtain ⟨hhome, haway, hplace⟩ := hstored.1.numbers (teamsOf_scheduled hread) hsaved hg
  obtain ⟨before, later, hsplit⟩ := List.append_of_mem hg
  exact ⟨hstored, hhome, haway, hplace,
    winner_of_found hsaved hnodup hsplit (not_deletes_later hread hsaved hsplit) hmem hid⟩

/-- A game is found as the crawl leaves it before the crawl, when it is stored then. -/
theorem found_before_iff (hrefs : Referenced db) (hg : g ∈ games)
    (hcomplete : (db1.games.find? g.id).isSome = true) :
    db.games.find? g.id = db1.games.find? g.id ↔ ∃ row ∈ db.games.rows, Stored formats db g row := by
  obtain ⟨found, hfound⟩ := Option.isSome_iff_exists.1 hcomplete
  have hmem := Table.mem_of_find? hfound
  have hid : found.id = g.id := Table.find?_key hfound
  have hnodup := scheduledGames_nodup formats hread (upsertMany_known hsaved)
  have hsaves := savesGames_of_ok hsaved
  constructor
  · intro hsame
    have hold := Table.mem_of_find? (hsame.trans hfound)
    exact ⟨found, hold, (stored_of_found hsaved hnodup hg hmem hid).before hrefs hold hsaves.names
      hsaves.stadiums⟩
  · rintro ⟨row, hold, hstored⟩
    obtain ⟨before, later, hsplit⟩ := List.append_of_mem hg
    have hkept := kept_of_stored hsaved hnodup hsplit (not_deletes_later hread hsaved hsplit) hstored
      hold hmem hid
    rw [hfound, hkept, ← hstored.1.id]
    exact Table.find?_of_mem hold

include hread' hsaved'

/-- Two lines with the same row say the same, and the other way round. -/
theorem sameRow_iff (hg : g ∈ games) (hd : d ∈ games') (hmem : found ∈ db1.games.rows)
    (hid : found.id = g.id) (hmem' : row ∈ db2.games.rows) (hid' : row.id = d.id) :
    SameRow formats db ids games games' g d ↔ row = found := by
  obtain ⟨⟨hgame, -⟩, hhome, haway, hplace, hwinner⟩ := found_line hread hsaved hg hmem hid
  obtain ⟨⟨hgame', -⟩, hhome', haway', hplace', hwinner'⟩ := found_line hread' hsaved' hd hmem' hid'
  have hscores : Function.Injective (Option.map Int.ofNat) :=
    Option.map_injective fun _ _ => Int.ofNat.inj
  constructor
  · intro hsame
    have hids : row.id = found.id := hid'.trans (hsame.id.trans hid.symm)
    have hstatus : row.status = found.status :=
      hgame'.status.trans (hsame.status.trans hgame.status.symm)
    have hhomeScore : row.homeTeamScore = found.homeTeamScore := by
      rw [hgame'.homeTeamScore, hgame.homeTeamScore, hsame.homeScore]
    have hawayScore : row.awayTeamScore = found.awayTeamScore := by
      rw [hgame'.awayTeamScore, hgame.awayTeamScore, hsame.awayScore]
    have hhomeTeam : row.homeTeam = found.homeTeam :=
      Option.some.inj (hhome'.symm.trans (hsame.homeTeam.trans hhome))
    have hawayTeam : row.awayTeam = found.awayTeam :=
      Option.some.inj (haway'.symm.trans (hsame.awayTeam.trans haway))
    refine GameRow.ext hids ?_ ?_ hstatus hhomeScore hawayScore hhomeTeam hawayTeam ?_
      (hplace'.symm.trans (hsame.stadium.trans hplace))
    · exact Option.some.inj (hgame'.date.symm.trans (hsame.date.trans hgame.date))
    · exact Option.some.inj (hgame'.time.symm.trans (hsame.time.trans hgame.time))
    · rw [hwinner, hwinner', hsame.status, hsame.id]
      unfold GameRow.winnerOf
      rw [hstatus, hhomeScore, hawayScore, hhomeTeam, hawayTeam]
  · rintro rfl
    exact
      { id := hid'.symm.trans hid
        date := hgame'.date.trans hgame.date.symm
        time := hgame'.time.trans hgame.time.symm
        status := hgame'.status.symm.trans hgame.status
        homeScore := hscores (hgame'.homeTeamScore.symm.trans hgame.homeTeamScore)
        awayScore := hscores (hgame'.awayTeamScore.symm.trans hgame.awayTeamScore)
        homeTeam := hhome'.trans hhome.symm
        awayTeam := haway'.trans haway.symm
        stadium := hplace'.trans hplace.symm }

/-- **Another crawl.**  When it leaves the same row of a game. -/
theorem keeps_iff (hrefs : Referenced db) (hg : g ∈ games)
    (hcomplete : (db1.games.find? g.id).isSome = true) :
    db2.games.find? g.id = db1.games.find? g.id ↔ Keeps formats db ids games games' g := by
  obtain ⟨found, hfound⟩ := Option.isSome_iff_exists.1 hcomplete
  have hmem := Table.mem_of_find? hfound
  have hid : found.id = g.id := Table.find?_key hfound
  have hnodup := scheduledGames_nodup formats hread (upsertMany_known hsaved)
  have hnodup' := scheduledGames_nodup formats hread' (upsertMany_known hsaved')
  have hsaves := savesGames_of_ok hsaved
  have hsaves' := savesGames_of_ok hsaved'
  rw [hfound]
  constructor
  · intro hsame
    have hmem' := Table.mem_of_find? hsame
    rcases hsaves'.rows found hmem' with ⟨hold, hkept⟩ | ⟨before, d, later, hsplit, hgame, hkept⟩
    · rw [hid] at hkept
      exact Or.inr ⟨hkept, found, hold, (stored_of_found hsaved hnodup hg hmem hid).before hrefs hold
        hsaves.names hsaves.stadiums⟩
    · have hd : d ∈ games' := by
        rw [hsplit]
        exact List.mem_append_right _ List.mem_cons_self
      have hsameId : d.id = g.id := hgame.id.symm.trans hid
      refine Or.inl ⟨d, hd, (sameRow_iff hread hread' hsaved hsaved' hg hd hmem hid hmem' hgame.id).2
        rfl, fun e he hdel => ?_⟩
      -- a line before deletes no later game, and one after does not replace this one
      rw [hsplit] at he
      rcases List.mem_append.1 he with he | he
      · exact not_deletes_later hread' hsaved' hsplit e he (hsameId ▸ hdel)
      rcases List.mem_cons.1 he with rfl | he
      · exact not_deletes_self e (hsameId.symm ▸ hdel)
      · exact hkept e he (Or.inr (hid.symm ▸ hdel))
  · rintro (⟨d, hd, hsame, hkept⟩ | ⟨hkept, row, hold, hstored⟩)
    · obtain ⟨before, later, hsplit⟩ := List.append_of_mem hd
      obtain ⟨row, hrow, hgame⟩ := hsaves'.new before d later hsplit fun e he hr => by
        rcases hr with he' | hdel
        · rw [hsplit, List.map_append, List.map_cons] at hnodup'
          exact (List.nodup_cons.1 (List.nodup_append.1 hnodup').2.1).1
            (List.mem_map.2 ⟨e, he, he'.symm⟩)
        · refine hkept e ?_ (hsame.id ▸ hdel)
          rw [hsplit]
          exact List.mem_append_right _ (List.mem_cons_of_mem _ he)
      obtain rfl := (sameRow_iff hread hread' hsaved hsaved' hg hd hmem hid hrow hgame.id).1 hsame
      rw [← hid]
      exact Table.find?_of_mem hrow
    · rw [hsaves'.find?_eq hkept, ← hfound]
      exact (found_before_iff hread hsaved hrefs hg hcomplete).2 ⟨row, hold, hstored⟩

end

end VictoryFairy
