import VictoryFairy.Lib.Numbering
import VictoryFairy.Proofs.Schedule

/-!
# When a line is saved

A line of a crawl is saved when the database takes its values, its new teams and stadium can
be inserted, nobody has registered the game it replaces, and no other game stands in its slot.
Then the game rows are what they were, without the replaced game and with the row of the line.

    findTeam_setTeam, NewTeams.step, NewStadiums.step
                        : what an insert does to the inserts that follow
    saveGameData_saved  : what a saved line tells and leaves
    saveGameData_exists : when a line is saved
-/

namespace VictoryFairy

open Runs Numbering

/-- The stadium of this name has this id. -/
def StadiumNamed (db : Db) (name : String) (id : Nat) : Prop :=
  ∃ stadium, stadiumNamed db name = some stadium ∧ stadium.id = id

/-- No name changes its stadium. -/
def KeepsStadiums (db db' : Db) : Prop :=
  ∀ name stadium, stadiumNamed db name = some stadium → stadiumNamed db' name = some stadium

theorem KeepsStadiums.of_stadiums {db db' : Db} (h : db'.stadiums = db.stadiums) :
    KeepsStadiums db db' := by
  intro name stadium hn
  unfold stadiumNamed at hn ⊢
  rw [h]
  exact hn

theorem KeepsStadiums.trans {db db1 db2 : Db} (h : KeepsStadiums db db1)
    (h' : KeepsStadiums db1 db2) : KeepsStadiums db db2 :=
  fun name stadium hn => h' name stadium (h name stadium hn)

theorem StadiumNamed.mono {db db' : Db} {name : String} {id : Nat} (h : StadiumNamed db name id)
    (hkeep : KeepsStadiums db db') : StadiumNamed db' name id := by
  obtain ⟨stadium, hs, hid⟩ := h
  exact ⟨stadium, hkeep name stadium hs, hid⟩

theorem StadiumNamed.unique {db : Db} {name : String} {id id' : Nat} (h : StadiumNamed db name id)
    (h' : StadiumNamed db name id') : id = id' := by
  obtain ⟨s, hs, rfl⟩ := h
  obtain ⟨s', hs', rfl⟩ := h'
  rw [Option.some.inj (hs.symm.trans hs')]

theorem stadiumNamed_some {db : Db} {name : String} {stadium : Stadium}
    (h : stadiumNamed db name = some stadium) :
    stadium ∈ db.stadiums.rows ∧ stadium.name = name := by
  unfold stadiumNamed at h
  exact ⟨List.mem_of_find?_eq_some h, by simpa using List.find?_some h⟩

theorem teamNamed_some {db : Db} {name : String} {team : Team} (h : teamNamed db name = some team) :
    team ∈ db.teams.rows ∧ team.name = name := by
  unfold teamNamed at h
  exact ⟨List.mem_of_find?_eq_some h, by simpa using List.find?_some h⟩

/-- An id has one name. -/
theorem StadiumNamed.name_unique {db : Db} {name name' : String} {id : Nat}
    (h : StadiumNamed db name id) (h' : StadiumNamed db name' id) : name = name' := by
  obtain ⟨s, hs, rfl⟩ := h
  obtain ⟨s', hs', hid⟩ := h'
  obtain ⟨hmem, hname⟩ := stadiumNamed_some hs
  obtain ⟨hmem', hname'⟩ := stadiumNamed_some hs'
  rw [← hname, ← hname', Table.eq_of_key hmem' hmem hid]

/-- And what the column has of its name is one text. -/
theorem TeamNamed.column_unique {db : Db} {name name' : Option TeamName} {id : Nat}
    (h : TeamNamed db name id) (h' : TeamNamed db name' id) :
    name.map TeamName.column = name'.map TeamName.column := by
  obtain ⟨s, t, hcolumn, hs, rfl⟩ := h
  obtain ⟨s', t', hcolumn', hs', hid⟩ := h'
  obtain ⟨hmem, hname⟩ := teamNamed_some hs
  obtain ⟨hmem', hname'⟩ := teamNamed_some hs'
  rw [hcolumn, hcolumn', ← hname, ← hname', Table.eq_of_key hmem' hmem hid]

theorem TeamNamed.of_column {db : Db} {name name' : Option TeamName} {id : Nat}
    (h : TeamNamed db name id) (hcolumn : name.map TeamName.column = name'.map TeamName.column) :
    TeamNamed db name' id := by
  obtain ⟨s, team, hs, hteam⟩ := h
  exact ⟨s, team, hcolumn ▸ hs, hteam⟩

/-- The names of before name what they named. -/
theorem TeamNamed.before {db db' : Db} {name name' : Option TeamName} {id : Nat}
    (h : TeamNamed db' name id) (hkeep : KeepsNames db db') (hbefore : TeamNamed db name' id) :
    TeamNamed db name id :=
  hbefore.of_column ((hbefore.mono hkeep).column_unique h)

/-- A value `TTeam` has under some name. -/
def IsTeamName (n : TeamName) : Prop := ∃ name, teamName name = some n

/-- No two values are one text in the column. -/
theorem column_apart : ∀ name ∈ tableNames, ∀ name' ∈ tableNames,
    ((teamName name).bind fun n => n.column.toOption) ≠ none →
      ((teamName name).bind fun n => n.column.toOption) =
          ((teamName name').bind fun n => n.column.toOption) →
        teamName name = teamName name' := by
  decide +kernel

theorem column_inj {n n' : TeamName} {s : String} (hn : IsTeamName n) (hn' : IsTeamName n')
    (h : n.column = .ok s) (h' : n'.column = .ok s) : n = n' := by
  obtain ⟨name, hname⟩ := hn
  obtain ⟨name', hname'⟩ := hn'
  have hapart := column_apart _ (mem_tableNames ⟨n, hname⟩) _ (mem_tableNames ⟨n', hname'⟩)
  rw [hname, hname', Option.bind_some, Option.bind_some, h, h'] at hapart
  exact Option.some.inj (hapart nofun rfl)

/-- So an id has one of these names. -/
theorem TeamNamed.name_unique {db : Db} {n n' : TeamName} {id : Nat} (h : TeamNamed db (some n) id)
    (h' : TeamNamed db (some n') id) (hn : IsTeamName n) (hn' : IsTeamName n') : n = n' := by
  obtain ⟨s, team, hcolumn, hrest⟩ := h
  have hcolumn' := h'.column_unique ⟨s, team, hcolumn, hrest⟩
  exact column_inj hn hn' (Option.some.inj hcolumn) (Option.some.inj (hcolumn'.trans hcolumn))

/-! ## What a line asks for -/

section

variable (formats : Formats)

/-- The row has what the line says. -/
structure IsGame (db : Db) (row : GameRow) (data : IGameData) : Prop where
  id : row.id = data.id
  date : formats.castDate data.date = some row.date
  time : formats.castTime data.time = some row.time
  status : row.status = data.status
  homeTeamScore : row.homeTeamScore = data.homeScore.map Int.ofNat
  awayTeamScore : row.awayTeamScore = data.awayScore.map Int.ofNat
  homeTeam : TeamNamed db data.homeTeam row.homeTeam
  awayTeam : TeamNamed db data.awayTeam row.awayTeam
  stadium : StadiumNamed db data.stadium row.stadium

/-- The row has the date, the time and the stadium of the line. -/
structure InSlot (db : Db) (row : GameRow) (data : IGameData) : Prop where
  date : formats.castDate data.date = some row.date
  time : formats.castTime data.time = some row.time
  stadium : StadiumNamed db data.stadium row.stadium

/-- The columns take the values of the line, and its teams are two. -/
structure ValidLine (data : IGameData) : Prop where
  date : formats.castDate data.date ≠ none
  time : formats.castTime data.time ≠ none
  status : data.status ≠ ""
  fits : GameRow.Fits data.status (data.homeScore.map Int.ofNat) (data.awayScore.map Int.ofNat)
  teams : data.homeTeam ≠ data.awayTeam

end

/-- Saving the line deletes the game of this id. -/
def Deletes (data : IGameData) (id : String) : Prop :=
  endsWithZero data.id = false ∧ id = sliceLast data.id ++ "0"

/-- After the line is saved, no game of before has this id. -/
def Replaces (data : IGameData) (id : String) : Prop := id = data.id ∨ Deletes data id

theorem InSlot.mono {formats : Formats} {db db' : Db} {row : GameRow} {data : IGameData}
    (h : InSlot formats db row data) (hkeep : KeepsStadiums db db') : InSlot formats db' row data :=
  { h with stadium := h.stadium.mono hkeep }

/-- What a saved line tells of the tables before it, and what it leaves. -/
structure SavesGame (formats : Formats) (db db' : Db) (data : IGameData) (row : GameRow) : Prop where
  valid : ValidLine formats data
  unregistered : ∀ r ∈ db.registeredGames.rows, ¬ Deletes data r.game
  free : ∀ o ∈ db.games.rows, InSlot formats db' o data → Replaces data o.id
  rows : ∀ o, o ∈ db'.games.rows ↔ o = row ∨ o ∈ db.games.rows ∧ ¬ Replaces data o.id
  isGame : IsGame formats db' row data
  registrations : db'.registeredGames = db.registeredGames
  names : KeepsNames db db'
  stadiums : KeepsStadiums db db'

/-! ## Teams and stadiums -/

/-- The id of the team a map has under the name. -/
def Crawl.teamId (crawl : Crawl) (db : Db) (name : TeamName) : Option Nat :=
  (crawl.findTeam db name).map Team.id

def stadiumId (db : Db) (name : String) : Option Nat := (stadiumNamed db name).map Stadium.id

/-- The teams among these that a crawl inserts, in their order. -/
def newTeams (db : Db) (crawl : Crawl) (names : List TeamName) : List TeamName :=
  newKeys (crawl.teamId db) names

def newStadiums (db : Db) (names : List String) : List String :=
  newKeys (stadiumId db) names

/-- The inserts of these teams are not rejected. -/
structure NewTeams (db : Db) (crawl : Crawl) (names : List TeamName) : Prop where
  /-- the column takes each name, and no team has what it makes of it -/
  columns : ∀ n ∈ newTeams db crawl names, ∃ s, n.column = .ok s ∧ teamNamed db s = none
  /-- their ids are not in use -/
  ids : ∀ i < (newTeams db crawl names).length, ∀ team ∈ db.teams.rows, team.id ≠ crawl.team + i

/-- Nor are those of these stadiums. -/
structure NewStadiums (db : Db) (next : Nat) (names : List String) : Prop where
  texts : ∀ s ∈ newStadiums db names, IsText s
  ids : ∀ i < (newStadiums db names).length, ∀ stadium ∈ db.stadiums.rows, stadium.id ≠ next + i

/-- The ids the teams have after these are found or inserted. -/
def teamNumber (db : Db) (crawl : Crawl) (names : List TeamName) (name : TeamName) : Nat :=
  number (crawl.teamId db) crawl.team names name

def stadiumNumber (db : Db) (next : Nat) (names : List String) (name : String) : Nat :=
  number (stadiumId db) next names name

section

variable {db db' : Db} {crawl crawl' : Crawl} {n m : TeamName} {names : List TeamName} {team : Team}

theorem newTeams_ids_iff :
    (∀ i < (newTeams db crawl names).length, ∀ team ∈ db.teams.rows, team.id ≠ crawl.team + i) ↔
      Room (crawl.teamId db) (fun id => ∃ team ∈ db.teams.rows, team.id = id) crawl.team names := by
  unfold Room newTeams
  simp only [not_exists, not_and, ne_eq]

/-- A team is found under the text it was inserted with, and no other name is found anew. -/
theorem teamNamed_inserted {s : String} (hfree : ∀ t ∈ db.teams.rows, t.id ≠ crawl.team ∧ t.name ≠ s)
    (name : String) : teamNamed { db with teams := db.teams.save ⟨crawl.team, s⟩ } name =
      if name = s then some ⟨crawl.team, s⟩ else teamNamed db name := by
  rw [teamNamed_save fun t ht => (hfree t ht).1]
  by_cases hname : name = s
  · have hnone : teamNamed db name = none :=
      List.find?_eq_none.2 fun t ht => by simpa using hname ▸ (hfree t ht).2
    rw [if_pos hname, if_pos hname.symm, hnone]
    rfl
  · rw [if_neg hname, if_neg fun h => hname h.symm, Option.or_none]

theorem Crawl.mem_setTeam {property : String} : property ∈ (crawl.setTeam n).inherited ↔
    TeamName.inherited property = n ∨ property ∈ crawl.inherited := by
  unfold Crawl.setTeam
  cases n <;> simp

/-- **An insert** is found under its name; what the map has under another is what it had. -/
theorem findTeam_setTeam {s : String} (hn : IsTeamName n) (hm : IsTeamName m) (hs : n.column = .ok s)
    (hfree : ∀ t ∈ db.teams.rows, t.id ≠ crawl.team ∧ t.name ≠ s) :
    (crawl.setTeam n).findTeam { db with teams := db.teams.save ⟨crawl.team, s⟩ } m =
      if m = n then some ⟨crawl.team, s⟩ else crawl.findTeam db m := by
  have hteam : m.team { db with teams := db.teams.save ⟨crawl.team, s⟩ } =
      if m = n then some ⟨crawl.team, s⟩ else m.team db := by
    unfold TeamName.team
    cases hcolumn : m.column with
    | error e =>
      have hne : m ≠ n := by
        rintro rfl
        cases hcolumn.symm.trans hs
      rw [if_neg hne]
      rfl
    | ok s' =>
      show teamNamed _ s' = if m = n then _ else teamNamed db s'
      rw [teamNamed_inserted hfree]
      by_cases hsame : m = n
      · subst hsame
        rw [if_pos rfl, if_pos (Except.ok.inj (hcolumn.symm.trans hs))]
      · rw [if_neg hsame, if_neg]
        rintro rfl
        exact hsame (column_inj hm hn hcolumn hs)
  unfold Crawl.findTeam
  cases m with
  | text name => exact hteam
  | inherited property =>
    dsimp only
    simp only [Crawl.mem_setTeam, hteam]
    by_cases hsame : TeamName.inherited property = n
    · rw [if_pos (Or.inl hsame), if_pos hsame, if_pos hsame]
    · rw [if_neg hsame, if_neg hsame]
      exact if_congr (or_iff_right hsame) rfl rfl

/-- Either the map has the team, or the next id is given to a new one. -/
theorem findOrInsertTeam_numbers (hn : IsTeamName n)
    (h : findOrInsertTeam db (crawl.findTeam db n) (some n) crawl = .ok (db', team, crawl')) :
    (crawl.findTeam db n = some team ∧ db' = db ∧ crawl' = crawl) ∨
    (crawl.findTeam db n = none ∧ team.id = crawl.team ∧ crawl'.team = crawl.team + 1 ∧
      (∃ s, n.column = .ok s ∧ teamNamed db s = none ∧
        ∀ name, name ≠ s → teamNamed db' name = teamNamed db name) ∧
      (∀ t ∈ db.teams.rows, t.id ≠ crawl.team) ∧
      (∀ id, (∃ t ∈ db'.teams.rows, t.id = id) ↔
        (∃ t ∈ db.teams.rows, t.id = id) ∨ id = crawl.team) ∧
      ∀ m, IsTeamName m → crawl'.findTeam db' m = if m = n then some team else crawl.findTeam db m) := by
  rcases findOrInsertTeam_cases h with hfound | ⟨n', s, hnone, hname, hs, rfl, hfree, rfl, rfl⟩
  · exact Or.inl hfound
  · obtain rfl := Option.some.inj hname
    refine Or.inr ⟨hnone, rfl, rfl, ⟨s, hs, ?_, fun name hne => ?_⟩, fun t ht => (hfree t ht).1,
      fun id => ?_, fun m hm => findTeam_setTeam hn hm hs hfree⟩
    · exact List.find?_eq_none.2 fun t ht => by simpa using (hfree t ht).2
    · rw [teamNamed_inserted hfree, if_neg hne]
    · show (∃ t ∈ (db.teams.save _).rows, t.id = id) ↔ _
      rw [Table.rows_save_of_fresh fun t ht => (hfree t ht).1]
      simp only [List.mem_append, List.mem_singleton, or_and_right, exists_or, exists_eq_left, eq_comm]

/-- **A team that is found or inserted** leaves the inserts that are left. -/
theorem NewTeams.step (hn : IsTeamName n) (hnames : ∀ m ∈ names, IsTeamName m)
    (h : findOrInsertTeam db (crawl.findTeam db n) (some n) crawl = .ok (db', team, crawl')) :
    (NewTeams db crawl (n :: names) ↔ NewTeams db' crawl' names) ∧
      ∀ m, IsTeamName m → teamNumber db crawl (n :: names) m = teamNumber db' crawl' names m := by
  rcases findOrInsertTeam_numbers hn h with
    ⟨hfound, rfl, rfl⟩ | ⟨hnone, hid, hnext, ⟨s, hs, hnew, hothers⟩, hfree, hused, hfind⟩
  · have hknown : (crawl'.teamId db' n).isSome = true := by
      unfold Crawl.teamId
      rw [hfound]
      rfl
    have hmissing : newTeams db' crawl' (n :: names) = newTeams db' crawl' names :=
      newKeys_found hknown
    refine ⟨⟨fun hteams => ⟨?_, ?_⟩, fun hteams => ⟨?_, ?_⟩⟩, fun m _ => number_found hknown⟩
    · exact hmissing ▸ hteams.columns
    · exact hmissing ▸ hteams.ids
    · exact hmissing.symm ▸ hteams.columns
    · exact hmissing.symm ▸ hteams.ids
  · have hunknown : crawl.teamId db n = none := by
      unfold Crawl.teamId
      rw [hnone]
      rfl
    have hids : ∀ m, IsTeamName m → crawl'.teamId db' m =
        if m = n then some crawl.team else crawl.teamId db m := by
      intro m hm
      unfold Crawl.teamId
      rw [hfind m hm]
      split
      · exact congrArg some hid
      · rfl
    have hidsOf : ∀ m ∈ names, _ := fun m hm => hids m (hnames m hm)
    have hmissing : newTeams db crawl (n :: names) = n :: newTeams db' crawl' names :=
      newKeys_insert hunknown hidsOf
    have hroom := room_insert hunknown hidsOf hused
    rw [← hnext] at hroom
    -- of the names that are left, none is the text just inserted
    have hcolumn : ∀ m ∈ newTeams db' crawl' names, ∀ s', m.column = .ok s' →
        teamNamed db' s' = teamNamed db s' := by
      intro m hm s' hs'
      obtain ⟨hmem, hnot⟩ := mem_newKeys.1 hm
      refine hothers s' ?_
      rintro rfl
      rw [column_inj (hnames m hmem) hn hs' hs, hids n hn, if_pos rfl] at hnot
      cases hnot
    refine ⟨⟨fun hteams => ⟨fun m hm => ?_, newTeams_ids_iff.2 ?_⟩, fun hteams => ⟨fun m hm => ?_,
      newTeams_ids_iff.2 ?_⟩⟩, fun m hm => ?_⟩
    · obtain ⟨s', hs', hnone'⟩ := hteams.columns m (hmissing ▸ List.mem_cons_of_mem _ hm)
      exact ⟨s', hs', (hcolumn m hm s' hs').trans hnone'⟩
    · exact (hroom.1 (newTeams_ids_iff.1 hteams.ids)).2
    · rw [hmissing] at hm
      rcases List.mem_cons.1 hm with rfl | hm
      · exact ⟨s, hs, hnew⟩
      · obtain ⟨s', hs', hnone'⟩ := hteams.columns m hm
        exact ⟨s', hs', (hcolumn m hm s' hs').symm.trans hnone'⟩
    · exact hroom.2 ⟨fun ⟨t, ht, he⟩ => hfree t ht he, newTeams_ids_iff.1 hteams.ids⟩
    · unfold teamNumber
      rw [number_insert hunknown hidsOf (hids m hm), hnext]

/-- Its insert is one of those that are not rejected. -/
theorem NewTeams.exists (h : NewTeams db crawl (n :: names)) :
    ∃ db' team crawl', findOrInsertTeam db (crawl.findTeam db n) (some n) crawl =
      .ok (db', team, crawl') := by
  unfold findOrInsertTeam
  cases hfound : crawl.findTeam db n with
  | some team => exact ⟨db, team, crawl, rfl⟩
  | none =>
    have hunknown : crawl.teamId db n = none := by
      unfold Crawl.teamId
      rw [hfound]
      rfl
    have hfirst : n ∈ newTeams db crawl (n :: names) := mem_newKeys.2 ⟨List.mem_cons_self, hunknown⟩
    obtain ⟨s, hs, hnew⟩ := h.columns n hfirst
    have hid := h.ids 0 (List.length_pos_of_mem hfirst)
    unfold insertTeam
    dsimp only
    rw [hs]
    dsimp only
    rw [if_neg]
    · exact ⟨_, _, _, rfl⟩
    · intro hany
      obtain ⟨t, ht, hclash⟩ := List.any_eq_true.1 hany
      rw [Bool.or_eq_true, decide_eq_true_eq, decide_eq_true_eq] at hclash
      rcases hclash with he | he
      · exact hid t ht he
      · exact List.find?_eq_none.1 hnew t ht (decide_eq_true he)

end

section

variable {db db' : Db} {crawl crawl' : Crawl} {name : String} {names : List String} {next : Nat}
  {stadium : Stadium}

theorem newStadiums_ids_iff :
    (∀ i < (newStadiums db names).length, ∀ stadium ∈ db.stadiums.rows, stadium.id ≠ next + i) ↔
      Room (stadiumId db) (fun id => ∃ stadium ∈ db.stadiums.rows, stadium.id = id) next names := by
  unfold Room newStadiums
  simp only [not_exists, not_and, ne_eq]

/-- Either the stadium is there, or the next id is given to a new one. -/
theorem findOrInsertStadium_numbers
    (h : findOrInsertStadium db name crawl = .ok (db', stadium, crawl')) :
    (stadiumNamed db name = some stadium ∧ db' = db ∧ crawl' = crawl) ∨
    (stadiumNamed db name = none ∧ IsText name ∧ stadium.id = crawl.stadium ∧
      crawl'.stadium = crawl.stadium + 1 ∧ (∀ s ∈ db.stadiums.rows, s.id ≠ crawl.stadium) ∧
      (∀ id, (∃ s ∈ db'.stadiums.rows, s.id = id) ↔
        (∃ s ∈ db.stadiums.rows, s.id = id) ∨ id = crawl.stadium) ∧
      ∀ s, stadiumNamed db' s = if s = name then some stadium else stadiumNamed db s) := by
  rcases findOrInsertStadium_cases h with hfound | ⟨hnone, htext, hstadium, hfree, rfl, rfl⟩
  · exact Or.inl hfound
  · have hrows : (db.stadiums.save stadium).rows = db.stadiums.rows ++ [stadium] :=
      Table.rows_save_of_fresh fun s hs => hstadium ▸ (hfree s hs).1
    refine Or.inr ⟨hnone, htext, congrArg Stadium.id hstadium, rfl, fun s hs => (hfree s hs).1,
      fun id => ?_, fun s => ?_⟩
    · show (∃ s ∈ (db.stadiums.save _).rows, s.id = id) ↔ _
      rw [hrows, hstadium]
      simp only [List.mem_append, List.mem_singleton, or_and_right, exists_or, exists_eq_left, eq_comm]
    · show (db.stadiums.save stadium).rows.find? _ = _
      rw [hrows, List.find?_append, List.find?_singleton]
      by_cases hs : s = name
      · rw [if_pos hs, hs, show db.stadiums.rows.find? _ = none from hnone, hstadium]
        simp
      · have hne : ¬ stadium.name = s := fun he => hs (he.symm.trans (congrArg Stadium.name hstadium))
        rw [if_neg hs, if_neg (by simpa using hne), Option.or_none]
        rfl

/-- **A stadium that is found or inserted** leaves the inserts that are left. -/
theorem NewStadiums.step (names : List String)
    (h : findOrInsertStadium db name crawl = .ok (db', stadium, crawl')) :
    (NewStadiums db crawl.stadium (name :: names) ↔ NewStadiums db' crawl'.stadium names) ∧
      ∀ s, stadiumNumber db crawl.stadium (name :: names) s =
        stadiumNumber db' crawl'.stadium names s := by
  rcases findOrInsertStadium_numbers h with
    ⟨hfound, rfl, rfl⟩ | ⟨hnone, htext, hid, hnext, hfree, hused, hfind⟩
  · have hknown : (stadiumId db' name).isSome = true := by
      unfold stadiumId
      rw [hfound]
      rfl
    have hmissing : newStadiums db' (name :: names) = newStadiums db' names := newKeys_found hknown
    refine ⟨⟨fun hnew => ⟨?_, ?_⟩, fun hnew => ⟨?_, ?_⟩⟩, fun s => number_found hknown⟩
    · exact hmissing ▸ hnew.texts
    · exact hmissing ▸ hnew.ids
    · exact hmissing.symm ▸ hnew.texts
    · exact hmissing.symm ▸ hnew.ids
  · have hunknown : stadiumId db name = none := by
      unfold stadiumId
      rw [hnone]
      rfl
    have hids : ∀ s, stadiumId db' s = if s = name then some crawl.stadium else stadiumId db s := by
      intro s
      unfold stadiumId
      rw [hfind s]
      split
      · exact congrArg some hid
      · rfl
    have hmissing : newStadiums db (name :: names) = name :: newStadiums db' names :=
      newKeys_insert hunknown fun s _ => hids s
    have hroom := room_insert hunknown (fun s (_ : s ∈ names) => hids s) hused
    rw [← hnext] at hroom
    refine ⟨⟨fun hnew => ⟨fun s hs => ?_, newStadiums_ids_iff.2 ?_⟩, fun hnew => ⟨fun s hs => ?_,
      newStadiums_ids_iff.2 ?_⟩⟩, fun s => ?_⟩
    · exact hnew.texts s (hmissing ▸ List.mem_cons_of_mem _ hs)
    · exact (hroom.1 (newStadiums_ids_iff.1 hnew.ids)).2
    · rw [hmissing] at hs
      rcases List.mem_cons.1 hs with rfl | hs
      · exact htext
      · exact hnew.texts s hs
    · exact hroom.2 ⟨fun ⟨s, hs, he⟩ => hfree s hs he, newStadiums_ids_iff.1 hnew.ids⟩
    · unfold stadiumNumber
      rw [number_insert hunknown (fun s _ => hids s) (hids s), hnext]

theorem NewStadiums.exists (h : NewStadiums db crawl.stadium (name :: names)) :
    ∃ db' stadium crawl', findOrInsertStadium db name crawl = .ok (db', stadium, crawl') := by
  unfold findOrInsertStadium
  cases hfound : stadiumNamed db name with
  | some stadium => exact ⟨db, stadium, crawl, rfl⟩
  | none =>
    have hunknown : stadiumId db name = none := by
      unfold stadiumId
      rw [hfound]
      rfl
    have hfirst : name ∈ newStadiums db (name :: names) := mem_newKeys.2 ⟨List.mem_cons_self, hunknown⟩
    dsimp only
    rw [if_neg (not_not.2 (h.texts name hfirst)), if_neg]
    · exact ⟨_, _, _, rfl⟩
    · intro hany
      obtain ⟨s, hmem, hclash⟩ := List.any_eq_true.1 hany
      rw [Bool.or_eq_true, decide_eq_true_eq, decide_eq_true_eq] at hclash
      rcases hclash with he | he
      · exact h.ids 0 (List.length_pos_of_mem hfirst) s hmem he
      · exact List.find?_eq_none.1 hfound s hmem (decide_eq_true he)

end

/-! ## The game -/

/-- The game that is replaced goes, and is not registered. -/
theorem deletePreDoubleHeader_iff {db db' : Db} {data : IGameData} :
    db.deletePreDoubleHeader data.id = .ok db' ↔
      (∀ r ∈ db.registeredGames.rows, ¬ Deletes data r.game) ∧
        db' = if endsWithZero data.id then db
          else db.withGames (db.games.remove (sliceLast data.id ++ "0")) := by
  unfold Db.deletePreDoubleHeader Db.deleteGame Deletes
  cases hzero : endsWithZero data.id with
  | true => simp [eq_comm]
  | false =>
    rw [if_neg Bool.false_ne_true, if_neg Bool.false_ne_true]
    by_cases hany : db.registeredGames.rows.any fun r => r.game = sliceLast data.id ++ "0"
    · rw [if_pos hany]
      obtain ⟨r, hr, hgame⟩ := List.any_eq_true.1 hany
      exact ⟨nofun, fun h => absurd ⟨rfl, of_decide_eq_true hgame⟩ (h.1 r hr)⟩
    · rw [if_neg hany]
      rw [Bool.not_eq_true, List.any_eq_false] at hany
      constructor
      · intro h
        exact ⟨fun r hr hd => hany r hr (decide_eq_true hd.2), (Except.ok.inj h).symm⟩
      · intro h
        rw [h.2]

theorem mem_deletePreDoubleHeader {db db' : Db} {data : IGameData}
    (h : db.deletePreDoubleHeader data.id = .ok db') (o : GameRow) :
    o ∈ db'.games.rows ↔ o ∈ db.games.rows ∧ ¬ Deletes data o.id := by
  obtain ⟨-, rfl⟩ := deletePreDoubleHeader_iff.1 h
  unfold Deletes
  cases hzero : endsWithZero data.id with
  | true => simp
  | false =>
    rw [if_neg Bool.false_ne_true, Db.withGames_games, Table.mem_remove]
    simp

/-! ## One line -/

/-- The line has two teams, each with a value in `TTeam`. -/
structure HasTeams (data : IGameData) (home away : TeamName) : Prop where
  homeTeam : data.homeTeam = some home
  awayTeam : data.awayTeam = some away
  homeName : IsTeamName home
  awayName : IsTeamName away
  apart : home ≠ away

section

variable {formats : Formats} {db db' : Db} {crawl crawl' : Crawl} {data : IGameData}
  {homeTeam awayTeam : Team} {stadium : Stadium}

theorem findOrInsertTeam_stadiums {found : Option Team} {name : Option TeamName} {team : Team}
    (h : findOrInsertTeam db found name crawl = .ok (db', team, crawl')) :
    db'.stadiums = db.stadiums ∧ crawl'.stadium = crawl.stadium := by
  rcases findOrInsertTeam_cases h with ⟨-, rfl, rfl⟩ | ⟨n, s, -, -, -, -, -, rfl, rfl⟩
  · exact ⟨rfl, rfl⟩
  · exact ⟨rfl, rfl⟩

theorem findOrInsertStadium_named {name : String}
    (h : findOrInsertStadium db name crawl = .ok (db', stadium, crawl')) :
    KeepsStadiums db db' ∧ StadiumNamed db' name stadium.id := by
  rcases findOrInsertStadium_numbers h with ⟨hfound, rfl, -⟩ | ⟨hnone, -, -, -, -, -, hfind⟩
  · exact ⟨fun _ _ => id, _, hfound, rfl⟩
  · refine ⟨fun s found hs => ?_, stadium, (hfind name).trans (if_pos rfl), rfl⟩
    rw [hfind s, if_neg, hs]
    rintro rfl
    cases hs.symm.trans hnone

theorem findOrInsertStadium_teams {name : String}
    (h : findOrInsertStadium db name crawl = .ok (db', stadium, crawl')) :
    db'.teams = db.teams ∧ crawl'.team = crawl.team ∧ crawl'.inherited = crawl.inherited := by
  rcases findOrInsertStadium_cases h with ⟨-, rfl, rfl⟩ | ⟨-, -, -, -, rfl, rfl⟩
  · exact ⟨rfl, rfl, rfl⟩
  · exact ⟨rfl, rfl, rfl⟩

theorem LooksUp.stadiums (h : LooksUp db crawl data homeTeam awayTeam stadium db' crawl') :
    KeepsStadiums db db' ∧ StadiumNamed db' data.stadium stadium.id := by
  obtain ⟨db1, crawl1, db2, crawl2, hhome, haway, hstadium⟩ := h
  obtain ⟨hkeep, hnamed⟩ := findOrInsertStadium_named hstadium
  have hsame : db2.stadiums = db.stadiums :=
    (findOrInsertTeam_stadiums haway).1.trans (findOrInsertTeam_stadiums hhome).1
  exact ⟨(KeepsStadiums.of_stadiums hsame).trans hkeep, hnamed⟩

theorem deletePreDoubleHeader_rest {id : String} (h : db.deletePreDoubleHeader id = .ok db') :
    db'.registeredGames = db.registeredGames ∧ db'.teams = db.teams ∧
      db'.stadiums = db.stadiums := by
  unfold Db.deletePreDoubleHeader at h
  split at h
  · cases h
    exact ⟨rfl, rfl, rfl⟩
  · unfold Db.deleteGame at h
    split at h
    · cases h
    · cases h
      exact ⟨rfl, rfl, rfl⟩

/-- **A saved line.** -/
theorem saveGameData_saved (h : saveGameData formats (db, crawl) data = .ok (db', crawl')) :
    ∃ row, SavesGame formats db db' data row := by
  obtain ⟨date, time, homeTeam, awayTeam, stadium, db3, db4, hdate, htime, hlooks, hne, hdelete,
    hupsert⟩ := saveGameData_iff.1 h
  obtain ⟨hgames, hregs, hnames, hhome, haway⟩ := hlooks.teams
  obtain ⟨hstadiums, hstadium⟩ := hlooks.stadiums
  have hmem4 := mem_deletePreDoubleHeader hdelete
  obtain ⟨hfree, -⟩ := deletePreDoubleHeader_iff.1 hdelete
  obtain ⟨hr4, ht4, hs4⟩ := deletePreDoubleHeader_rest hdelete
  obtain ⟨hstatus, hfits, hunique, rfl⟩ := upsertGame_iff.1 hupsert
  rw [hregs] at hfree
  simp only [hgames] at hmem4
  -- what the last two statements touch is the games alone
  have hkeepNames : ∀ games, KeepsNames db3 (db4.withGames games) := fun _ => .of_teams ht4
  have hkeepStadiums : ∀ games, KeepsStadiums db3 (db4.withGames games) := fun _ => .of_stadiums hs4
  have hvalid : ValidLine formats data := by
    refine ⟨?_, ?_, hstatus, hfits, fun hsame => ?_⟩
    · rw [hdate]
      exact nofun
    · rw [htime]
      exact nofun
    · rw [hsame] at hhome
      exact hne (hhome.unique haway)
  have hstadium' := fun games => hstadium.mono (hkeepStadiums games)
  refine ⟨(lineProps data date time homeTeam.id awayTeam.id stadium.id).savedRow
    (db4.games.find? data.id), ⟨hvalid, hfree, ?_, ?_,
    ⟨rfl, hdate, htime, rfl, rfl, rfl, hhome.mono (hkeepNames _), haway.mono (hkeepNames _),
      hstadium' _⟩,
    hr4.trans hregs, hnames.trans (hkeepNames _), hstadiums.trans (hkeepStadiums _)⟩⟩
  · intro o ho hslot
    by_contra hno
    unfold Replaces at hno
    rw [not_or] at hno
    refine hunique o ((hmem4 o).2 ⟨ho, hno.2⟩) hno.1 ⟨?_, ?_, hslot.stadium.unique (hstadium' _)⟩
    · exact Option.some.inj (hslot.date.symm.trans hdate)
    · exact Option.some.inj (hslot.time.symm.trans htime)
  · intro o
    rw [Db.withGames_games, Table.mem_save, hmem4]
    unfold Replaces
    rw [not_or, and_assoc, and_comm (a := o.id ≠ data.id)]
    exact Iff.rfl

/-! ## The inserts of a line -/

variable {home away : TeamName} {names : List TeamName} {places : List String}

/-- The map has of the away team what it had before the home team was inserted. -/
theorem HasTeams.awayFound (hdata : HasTeams data home away) {db1 : Db} {crawl1 : Crawl}
    (hhome : findOrInsertTeam db (crawl.findTeam db home) (some home) crawl =
      .ok (db1, homeTeam, crawl1)) : crawl1.findTeam db1 away = crawl.findTeam db away := by
  rcases findOrInsertTeam_numbers hdata.homeName hhome with ⟨-, rfl, rfl⟩ | ⟨-, -, -, -, -, -, hfind⟩
  · rfl
  · rw [hfind away hdata.awayName, if_neg fun he => hdata.apart he.symm]

/-- So the three are looked up and inserted one after the other. -/
theorem looksUp_iff (hdata : HasTeams data home away) :
    LooksUp db crawl data homeTeam awayTeam stadium db' crawl' ↔
      ∃ db1 crawl1 db2 crawl2,
        findOrInsertTeam db (crawl.findTeam db home) (some home) crawl = .ok (db1, homeTeam, crawl1) ∧
        findOrInsertTeam db1 (crawl1.findTeam db1 away) (some away) crawl1 =
          .ok (db2, awayTeam, crawl2) ∧
        findOrInsertStadium db2 data.stadium crawl2 = .ok (db', stadium, crawl') := by
  unfold LooksUp
  rw [hdata.homeTeam, hdata.awayTeam, Option.bind_some, Option.bind_some]
  constructor
  · rintro ⟨db1, crawl1, db2, crawl2, hhome, haway, hstadium⟩
    exact ⟨db1, crawl1, db2, crawl2, hhome, hdata.awayFound hhome ▸ haway, hstadium⟩
  · rintro ⟨db1, crawl1, db2, crawl2, hhome, haway, hstadium⟩
    exact ⟨db1, crawl1, db2, crawl2, hhome, hdata.awayFound hhome ▸ haway, hstadium⟩

/-- What counts for the inserts of teams. -/
theorem findTeam_congr (hteams : db'.teams = db.teams)
    (hinherited : crawl'.inherited = crawl.inherited) : crawl'.findTeam db' = crawl.findTeam db := by
  funext n
  unfold Crawl.findTeam TeamName.team teamNamed
  rw [hteams, hinherited]

theorem NewTeams.congr (names : List TeamName) (hteams : db'.teams = db.teams)
    (hnext : crawl'.team = crawl.team) (hinherited : crawl'.inherited = crawl.inherited) :
    (NewTeams db crawl names ↔ NewTeams db' crawl' names) ∧
      teamNumber db crawl names = teamNumber db' crawl' names := by
  have hids : crawl'.teamId db' = crawl.teamId db := by
    unfold Crawl.teamId
    rw [findTeam_congr hteams hinherited]
  have hnew : newTeams db' crawl' names = newTeams db crawl names := by
    unfold newTeams
    rw [hids]
  have hnamed : teamNamed db' = teamNamed db := by
    unfold teamNamed
    rw [hteams]
  refine ⟨⟨fun h => ⟨?_, ?_⟩, fun h => ⟨?_, ?_⟩⟩, ?_⟩
  · rw [hnew, hnamed]
    exact h.columns
  · rw [hnew, hteams, hnext]
    exact h.ids
  · rw [← hnew, ← hnamed]
    exact h.columns
  · rw [← hnew, ← hteams, ← hnext]
    exact h.ids
  · unfold teamNumber
    rw [hids, hnext]

theorem NewStadiums.congr (places : List String) (next : Nat) (h : db'.stadiums = db.stadiums) :
    (NewStadiums db next places ↔ NewStadiums db' next places) ∧
      stadiumNumber db next places = stadiumNumber db' next places := by
  have hids : stadiumId db' = stadiumId db := by
    unfold stadiumId stadiumNamed
    rw [h]
  have hnew : newStadiums db' places = newStadiums db places := by
    unfold newStadiums
    rw [hids]
  refine ⟨⟨fun hplaces => ⟨?_, ?_⟩, fun hplaces => ⟨?_, ?_⟩⟩, ?_⟩
  · rw [hnew]
    exact hplaces.texts
  · rw [hnew, h]
    exact hplaces.ids
  · rw [← hnew]
    exact hplaces.texts
  · rw [← hnew, ← h]
    exact hplaces.ids
  · unfold stadiumNumber
    rw [hids]

/-- **The inserts after a line** are those it leaves, and give the ids they would have given. -/
theorem saveGameData_inserts (places : List String) (hdata : HasTeams data home away)
    (hnames : ∀ n ∈ names, IsTeamName n)
    (h : saveGameData formats (db, crawl) data = .ok (db', crawl')) :
    (NewTeams db crawl (home :: away :: names) ↔ NewTeams db' crawl' names) ∧
      (NewStadiums db crawl.stadium (data.stadium :: places) ↔
        NewStadiums db' crawl'.stadium places) ∧
      (∀ n, IsTeamName n → teamNumber db crawl (home :: away :: names) n =
        teamNumber db' crawl' names n) ∧
      ∀ s, stadiumNumber db crawl.stadium (data.stadium :: places) s =
        stadiumNumber db' crawl'.stadium places s := by
  obtain ⟨date, time, homeTeam, awayTeam, stadium, db3, db4, -, -, hlooks, -, hdelete, hupsert⟩ :=
    saveGameData_iff.1 h
  obtain ⟨-, ht4, hs4⟩ := deletePreDoubleHeader_rest hdelete
  obtain ⟨-, -, -, rfl⟩ := upsertGame_iff.1 hupsert
  obtain ⟨db1, crawl1, db2, crawl2, hhome, haway, hstadium⟩ := (looksUp_iff hdata).1 hlooks
  obtain ⟨hteams1, hnumbers1⟩ := NewTeams.step hdata.homeName
    (List.forall_mem_cons.2 ⟨hdata.awayName, hnames⟩) hhome
  obtain ⟨hteams2, hnumbers2⟩ := NewTeams.step hdata.awayName hnames haway
  obtain ⟨hplaces3, hplaceNumbers3⟩ := NewStadiums.step places hstadium
  obtain ⟨ht3, hnext3, hinherited3⟩ := findOrInsertStadium_teams hstadium
  obtain ⟨hs1, hnextStadium1⟩ := findOrInsertTeam_stadiums hhome
  obtain ⟨hs2, hnextStadium2⟩ := findOrInsertTeam_stadiums haway
  -- the stadium comes after the teams, and the game touches neither
  have hteamsAfter : ∀ games, (db4.withGames games).teams = db2.teams := fun _ => ht4.trans ht3
  have hplacesAfter : ∀ games, (db4.withGames games).stadiums = db3.stadiums := fun _ => hs4
  obtain ⟨hteams, hnumbers⟩ := NewTeams.congr names (hteamsAfter _) hnext3 hinherited3
  obtain ⟨hplaces, hplaceNumbers⟩ := NewStadiums.congr places crawl'.stadium (hplacesAfter _)
  obtain ⟨hplacesBefore, hnumbersBefore⟩ :=
    NewStadiums.congr (data.stadium :: places) crawl2.stadium (hs2.trans hs1)
  rw [hnextStadium2, hnextStadium1] at hplacesBefore hnumbersBefore hplaces3 hplaceNumbers3
  refine ⟨hteams1.trans (hteams2.trans hteams), hplacesBefore.trans (hplaces3.trans hplaces),
    fun n hn => ?_, fun s => ?_⟩
  · rw [hnumbers1 n hn, hnumbers2 n hn, hnumbers]
  · rw [hnumbersBefore, hplaceNumbers3 s, hplaceNumbers]

/-- What the inserts need. -/
theorem lookups_exist (hdata : HasTeams data home away) (hnames : ∀ n ∈ names, IsTeamName n)
    (hteams : NewTeams db crawl (home :: away :: names))
    (hplaces : NewStadiums db crawl.stadium (data.stadium :: places)) :
    ∃ homeTeam awayTeam stadium db' crawl',
      LooksUp db crawl data homeTeam awayTeam stadium db' crawl' := by
  obtain ⟨db1, homeTeam, crawl1, hhome⟩ := hteams.exists
  have hteams1 := (NewTeams.step hdata.homeName
    (List.forall_mem_cons.2 ⟨hdata.awayName, hnames⟩) hhome).1.1 hteams
  obtain ⟨db2, awayTeam, crawl2, haway⟩ := hteams1.exists
  obtain ⟨hs1, hnext1⟩ := findOrInsertTeam_stadiums hhome
  obtain ⟨hs2, hnext2⟩ := findOrInsertTeam_stadiums haway
  have hplaces2 : NewStadiums db2 crawl2.stadium (data.stadium :: places) := by
    rw [hnext2, hnext1]
    exact (NewStadiums.congr _ _ (hs2.trans hs1)).1.1 hplaces
  obtain ⟨db3, stadium, crawl3, hstadium⟩ := hplaces2.exists
  exact ⟨homeTeam, awayTeam, stadium, db3, crawl3,
    (looksUp_iff hdata).2 ⟨db1, crawl1, db2, crawl2, hhome, haway, hstadium⟩⟩

/-- **When a line is saved.**  The values fit, the inserts are not rejected, nobody has
registered the game it replaces, and its slot is its own or that game's. -/
theorem saveGameData_exists (hdata : HasTeams data home away) (hvalid : ValidLine formats data)
    (hteams : NewTeams db crawl (home :: away :: names))
    (hplaces : NewStadiums db crawl.stadium (data.stadium :: places))
    (hnames : ∀ n ∈ names, IsTeamName n)
    (hstadiums : ∀ o ∈ db.games.rows, ∃ name, StadiumNamed db name o.stadium)
    (hunregistered : ∀ r ∈ db.registeredGames.rows, ¬ Deletes data r.game)
    (hfree : ∀ o ∈ db.games.rows, InSlot formats db o data → Replaces data o.id) :
    ∃ s', saveGameData formats (db, crawl) data = .ok s' := by
  obtain ⟨date, hdate⟩ := Option.ne_none_iff_exists'.1 hvalid.date
  obtain ⟨time, htime⟩ := Option.ne_none_iff_exists'.1 hvalid.time
  obtain ⟨homeTeam, awayTeam, stadium, db3, crawl3, hlooks⟩ := lookups_exist hdata hnames hteams hplaces
  obtain ⟨hgames, hregs, -, hhome, haway⟩ := hlooks.teams
  obtain ⟨hkeep, hstadium⟩ := hlooks.stadiums
  have hne : homeTeam.id ≠ awayTeam.id := by
    intro he
    rw [hdata.homeTeam] at hhome
    rw [hdata.awayTeam, ← he] at haway
    exact hdata.apart (hhome.name_unique haway hdata.homeName hdata.awayName)
  obtain ⟨db4, hdelete⟩ : ∃ db4, db3.deletePreDoubleHeader data.id = .ok db4 :=
    ⟨_, deletePreDoubleHeader_iff.2 ⟨by rw [hregs]; exact hunregistered, rfl⟩⟩
  have hmem4 := mem_deletePreDoubleHeader hdelete
  obtain ⟨db5, hupsert⟩ : ∃ db5, db4.upsertGame (Game.created
      (lineProps data date time homeTeam.id awayTeam.id stadium.id)) = .ok db5 := by
    refine ⟨_, upsertGame_iff.2 ⟨hvalid.status, hvalid.fits, fun o ho hid hsame => ?_, rfl⟩⟩
    -- a row in the slot had it before, under a name of its stadium
    obtain ⟨hmem, hkept⟩ := (hmem4 o).1 ho
    rw [hgames] at hmem
    obtain ⟨hodate, hotime, hostadium⟩ := hsame
    obtain ⟨name, hname⟩ := hstadiums o hmem
    have hsame : name = data.stadium := by
      refine (hname.mono hkeep).name_unique ?_
      rw [hostadium]
      exact hstadium
    have hslot : InSlot formats db o data :=
      ⟨hdate.trans (congrArg some hodate.symm), htime.trans (congrArg some hotime.symm), hsame ▸ hname⟩
    rcases hfree o hmem hslot with he | hd
    · exact hid he
    · exact hkept hd
  exact ⟨(db5, crawl3), saveGameData_iff.2 ⟨date, time, homeTeam, awayTeam, stadium, db3, db4, hdate,
    htime, hlooks, hne, hdelete, hupsert⟩⟩

end

end VictoryFairy
