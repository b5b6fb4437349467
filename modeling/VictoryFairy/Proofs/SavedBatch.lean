import VictoryFairy.Proofs.SavedLine

/-!
# When a crawl commits

The lines are saved one after the other, so a crawl commits when every line can be saved
after those before it.  What that asks of the tables is told by the lines alone: the slot of a
line is free or freed by then, and the new teams and stadiums of all lines can be inserted.

    saveGames_saved   : what a crawl that commits tells and leaves
    savable_cons      : what one line asks for, and what it leaves to the others
    saveGames_iff     : when a crawl commits
    saveGames_numbers : the ids its teams and stadiums have then
-/

namespace VictoryFairy

open Runs Numbering

section

variable (formats : Formats)

/-- Two lines with one date, time and stadium. -/
def SameSlot (a b : IGameData) : Prop :=
  (∃ date, formats.castDate a.date = some date ∧ formats.castDate b.date = some date) ∧
    (∃ time, formats.castTime a.time = some time ∧ formats.castTime b.time = some time) ∧
    a.stadium = b.stadium

/-- What saving the lines tells of the tables before it, and what it leaves. -/
structure SavesGames (db db' : Db) (games : List IGameData) : Prop where
  valid : ∀ data ∈ games, ValidLine formats data
  unregistered : ∀ data ∈ games, ∀ r ∈ db.registeredGames.rows, ¬ Deletes data r.game
  free : ∀ before data later, games = before ++ data :: later → ∀ o ∈ db.games.rows,
    InSlot formats db' o data → ∃ d ∈ before ++ [data], Replaces d o.id
  rows : ∀ o ∈ db'.games.rows, (o ∈ db.games.rows ∧ ∀ d ∈ games, ¬ Replaces d o.id) ∨
    ∃ before data later, games = before ++ data :: later ∧ IsGame formats db' o data ∧
      ∀ d ∈ later, ¬ Replaces d o.id
  old : ∀ o ∈ db.games.rows, (∀ d ∈ games, ¬ Replaces d o.id) → o ∈ db'.games.rows
  new : ∀ before data later, games = before ++ data :: later → (∀ d ∈ later, ¬ Replaces d data.id) →
    ∃ row ∈ db'.games.rows, IsGame formats db' row data
  registrations : db'.registeredGames = db.registeredGames
  names : KeepsNames db db'
  stadiums : KeepsStadiums db db'

end

variable {formats : Formats}

theorem IsGame.mono {db db' : Db} {row : GameRow} {data : IGameData} (h : IsGame formats db row data)
    (hnames : KeepsNames db db') (hstadiums : KeepsStadiums db db') : IsGame formats db' row data :=
  { h with
    homeTeam := h.homeTeam.mono hnames
    awayTeam := h.awayTeam.mono hnames
    stadium := h.stadium.mono hstadiums }

theorem SavesGames.nil (db : Db) : SavesGames formats db db [] where
  valid _ h := absurd h List.not_mem_nil
  unregistered _ h := absurd h List.not_mem_nil
  free before _ _ h := by cases before <;> cases h
  rows _ ho := Or.inl ⟨ho, fun _ h => absurd h List.not_mem_nil⟩
  old _ ho _ := ho
  new before _ _ h := by cases before <;> cases h
  registrations := rfl
  names _ _ := id
  stadiums _ _ := id

/-- One more line in front. -/
theorem SavesGames.cons {db db1 db' : Db} {data : IGameData} {row : GameRow} {games : List IGameData}
    (hline : SavesGame formats db db1 data row) (h : SavesGames formats db1 db' games) :
    SavesGames formats db db' (data :: games) where
  valid d hd := by
    rcases List.mem_cons.1 hd with rfl | hd
    · exact hline.valid
    · exact h.valid d hd
  unregistered d hd := by
    rcases List.mem_cons.1 hd with rfl | hd
    · exact hline.unregistered
    · rw [← hline.registrations]
      exact h.unregistered d hd
  free before d later hsplit o ho hslot := by
    cases before with
    | nil =>
      obtain ⟨rfl, -⟩ := List.cons.inj hsplit
      -- the stadium of the slot is the one of the row just saved
      have hstadium := hslot.stadium.unique (hline.isGame.stadium.mono h.stadiums)
      exact ⟨data, List.mem_cons_self, hline.free o ho
        ⟨hslot.date, hslot.time, hstadium ▸ hline.isGame.stadium⟩⟩
    | cons first before =>
      obtain ⟨rfl, hrest⟩ := List.cons.inj hsplit
      by_cases hr : Replaces data o.id
      · exact ⟨data, List.mem_cons_self, hr⟩
      · obtain ⟨e, he, hre⟩ :=
          h.free before d later hrest o ((hline.rows o).2 (Or.inr ⟨ho, hr⟩)) hslot
        exact ⟨e, List.mem_cons_of_mem _ he, hre⟩
  rows o ho := by
    rcases h.rows o ho with ⟨ho1, hkept⟩ | ⟨before, d, later, rfl, hgame, hkept⟩
    · rcases (hline.rows o).1 ho1 with rfl | ⟨hold, hr⟩
      · exact Or.inr ⟨[], data, games, rfl, hline.isGame.mono h.names h.stadiums, hkept⟩
      · refine Or.inl ⟨hold, fun d hd => ?_⟩
        rcases List.mem_cons.1 hd with rfl | hd
        · exact hr
        · exact hkept d hd
    · exact Or.inr ⟨data :: before, d, later, rfl, hgame, hkept⟩
  old o ho hkept :=
    h.old o ((hline.rows o).2 (Or.inr ⟨ho, hkept data List.mem_cons_self⟩))
      fun d hd => hkept d (List.mem_cons_of_mem _ hd)
  new before d later hsplit hkept := by
    cases before with
    | nil =>
      obtain ⟨rfl, rfl⟩ := List.cons.inj hsplit
      rw [← hline.isGame.id] at hkept
      exact ⟨row, h.old row ((hline.rows row).2 (Or.inl rfl)) hkept,
        hline.isGame.mono h.names h.stadiums⟩
    | cons first before =>
      obtain ⟨rfl, hrest⟩ := List.cons.inj hsplit
      exact h.new before d later hrest hkept
  registrations := h.registrations.trans hline.registrations
  names := hline.names.trans h.names
  stadiums := hline.stadiums.trans h.stadiums

/-- **A crawl that commits.** -/
theorem saveGames_saved {db db' : Db} {crawl : Crawl} {games : List IGameData}
    (h : saveGames formats db crawl games = .ok db') : SavesGames formats db db' games := by
  induction games generalizing db crawl with
  | nil =>
    cases h
    exact .nil _
  | cons data games ih =>
    obtain ⟨⟨db1, crawl1⟩, hline, hrest⟩ := saveGames_cons.1 h
    obtain ⟨row, hsaves⟩ := saveGameData_saved hline
    exact .cons hsaves (ih hrest)

theorem savesGames_of_ok {db db' : Db} {ids : Sequences} {games : List IGameData}
    (h : upsertMany formats db ids games = .ok db') : SavesGames formats db db' games := by
  rw [upsertMany_eq] at h
  exact saveGames_saved h

/-! ## What a crawl asks for -/

def teamsOf (games : List IGameData) : List TeamName :=
  games.flatMap fun data => data.homeTeam.toList ++ data.awayTeam.toList

def stadiumsOf (games : List IGameData) : List String := games.map IGameData.stadium

/-- The names of a table are values of `TTeam`. -/
theorem teamsOf_scheduled {year : Nat} {rows : List (List String)} {games : List IGameData}
    (h : scheduledGames formats year rows = .ok games) : ∀ n ∈ teamsOf games, IsTeamName n := by
  intro n hn
  obtain ⟨data, hd, hn⟩ := List.mem_flatMap.1 hn
  obtain ⟨home, away, hnamed⟩ := scheduledGames_named formats h data hd
  rcases List.mem_append.1 hn with hn | hn
  · exact ⟨home, hnamed.homeTeam.symm.trans (Option.mem_toList.1 hn)⟩
  · exact ⟨away, hnamed.awayTeam.symm.trans (Option.mem_toList.1 hn)⟩

section

variable (formats : Formats)

/-- A game in the slot of a line is replaced by then. -/
def FreeSlots (db : Db) (games : List IGameData) : Prop :=
  ∀ before data later, games = before ++ data :: later → ∀ row ∈ db.games.rows,
    InSlot formats db row data → ∃ d ∈ before ++ [data], Replaces d row.id

/-- So is an earlier line in its slot. -/
def ApartSlots (games : List IGameData) : Prop :=
  ∀ before first between second later, games = before ++ first :: (between ++ second :: later) →
    SameSlot formats first second → ∃ d ∈ between ++ [second], Replaces d first.id

/-- The lines can all be saved. -/
structure Savable (db : Db) (crawl : Crawl) (games : List IGameData) : Prop where
  valid : ∀ data ∈ games, ValidLine formats data
  named : ∀ data ∈ games, data.homeTeam ≠ none ∧ data.awayTeam ≠ none
  unregistered : ∀ data ∈ games, ∀ r ∈ db.registeredGames.rows, ¬ Deletes data r.game
  free : FreeSlots formats db games
  apart : ApartSlots formats games
  teams : NewTeams db crawl (teamsOf games)
  stadiums : NewStadiums db crawl.stadium (stadiumsOf games)

end

section

variable {db db' db1 : Db} {crawl crawl1 : Crawl} {data : IGameData} {games : List IGameData}
  {home away : TeamName} {row : GameRow}

theorem teamsOf_cons (data : IGameData) (games : List IGameData) : teamsOf (data :: games) =
    data.homeTeam.toList ++ data.awayTeam.toList ++ teamsOf games :=
  List.flatMap_cons

theorem HasTeams.teamsOf (hdata : HasTeams data home away) (games : List IGameData) :
    teamsOf (data :: games) = home :: away :: teamsOf games := by
  rw [teamsOf_cons, hdata.homeTeam, hdata.awayTeam]
  rfl

theorem freeSlots_cons : FreeSlots formats db (data :: games) ↔
    (∀ o ∈ db.games.rows, InSlot formats db o data → Replaces data o.id) ∧
      ∀ before d later, games = before ++ d :: later → ∀ o ∈ db.games.rows, InSlot formats db o d →
        Replaces data o.id ∨ ∃ e ∈ before ++ [d], Replaces e o.id := by
  constructor
  · intro h
    refine ⟨fun o ho hslot => ?_, fun before d later hsplit o ho hslot => ?_⟩
    · obtain ⟨d, hd, hr⟩ := h [] data games rfl o ho hslot
      rwa [List.mem_singleton.1 hd] at hr
    · obtain ⟨e, he, hr⟩ := h (data :: before) d later (by rw [hsplit]; rfl) o ho hslot
      rcases List.mem_cons.1 he with rfl | he
      · exact Or.inl hr
      · exact Or.inr ⟨e, he, hr⟩
  · rintro ⟨hfirst, hrest⟩ before d later hsplit o ho hslot
    cases before with
    | nil =>
      obtain ⟨rfl, -⟩ := List.cons.inj hsplit
      exact ⟨data, List.mem_cons_self, hfirst o ho hslot⟩
    | cons first before =>
      obtain ⟨rfl, hgames⟩ := List.cons.inj hsplit
      rcases hrest before d later hgames o ho hslot with hr | ⟨e, he, hr⟩
      · exact ⟨data, List.mem_cons_self, hr⟩
      · exact ⟨e, List.mem_cons_of_mem _ he, hr⟩

theorem apartSlots_cons : ApartSlots formats (data :: games) ↔
    (∀ between d later, games = between ++ d :: later → SameSlot formats data d →
      ∃ e ∈ between ++ [d], Replaces e data.id) ∧ ApartSlots formats games := by
  constructor
  · intro h
    refine ⟨fun between d later hsplit hsame => ?_, fun before e between d later hsplit hsame => ?_⟩
    · exact h [] data between d later (by rw [hsplit]; rfl) hsame
    · exact h (data :: before) e between d later (by rw [hsplit]; rfl) hsame
  · rintro ⟨hfirst, hrest⟩ before e between d later hsplit hsame
    cases before with
    | nil =>
      obtain ⟨rfl, hgames⟩ := List.cons.inj hsplit
      exact hfirst between d later hgames hsame
    | cons first before =>
      obtain ⟨rfl, hgames⟩ := List.cons.inj hsplit
      exact hrest before e between d later hgames hsame

/-- The slots a saved line leaves: those of the games it has kept, and its own. -/
theorem SavesGame.freeSlots (hline : SavesGame formats db db1 data row)
    (hstadiums : ∀ o ∈ db.games.rows, ∃ name, StadiumNamed db name o.stadium) :
    FreeSlots formats db1 games ↔
      (∀ before d later, games = before ++ d :: later → ∀ o ∈ db.games.rows, InSlot formats db o d →
        Replaces data o.id ∨ ∃ e ∈ before ++ [d], Replaces e o.id) ∧
      ∀ between d later, games = between ++ d :: later → SameSlot formats data d →
        ∃ e ∈ between ++ [d], Replaces e data.id := by
  constructor
  · intro h
    refine ⟨fun before d later hsplit o ho hslot => ?_, fun between d later hsplit hsame => ?_⟩
    · by_cases hr : Replaces data o.id
      · exact Or.inl hr
      · exact Or.inr (h before d later hsplit o ((hline.rows o).2 (Or.inr ⟨ho, hr⟩))
          (hslot.mono hline.stadiums))
    · obtain ⟨⟨date, hdate, hdate'⟩, ⟨time, htime, htime'⟩, hplace⟩ := hsame
      rw [← hline.isGame.id]
      refine h between d later hsplit row ((hline.rows row).2 (Or.inl rfl)) ⟨?_, ?_, ?_⟩
      · rw [hdate', ← hdate]
        exact hline.isGame.date
      · rw [htime', ← htime]
        exact hline.isGame.time
      · exact hplace ▸ hline.isGame.stadium
  · rintro ⟨hold, hown⟩ before d later hsplit o ho hslot
    rcases (hline.rows o).1 ho with rfl | ⟨ho, hr⟩
    · rw [hline.isGame.id]
      exact hown before d later hsplit ⟨⟨_, hline.isGame.date, hslot.date⟩,
        ⟨_, hline.isGame.time, hslot.time⟩, hline.isGame.stadium.name_unique hslot.stadium⟩
    · -- the stadium of a stored game had its name before
      obtain ⟨name, hname⟩ := hstadiums o ho
      have hsame := (hname.mono hline.stadiums).name_unique hslot.stadium
      exact (hold before d later hsplit o ho ⟨hslot.date, hslot.time, hsame ▸ hname⟩).resolve_left hr

theorem SavesGame.named_stadiums (hline : SavesGame formats db db1 data row)
    (hstadiums : ∀ o ∈ db.games.rows, ∃ name, StadiumNamed db name o.stadium) :
    ∀ o ∈ db1.games.rows, ∃ name, StadiumNamed db1 name o.stadium := by
  intro o ho
  rcases (hline.rows o).1 ho with rfl | ⟨ho, -⟩
  · exact ⟨_, hline.isGame.stadium⟩
  · obtain ⟨name, hname⟩ := hstadiums o ho
    exact ⟨name, hname.mono hline.stadiums⟩

theorem names_later (hnames : ∀ n ∈ teamsOf (data :: games), IsTeamName n) :
    ∀ n ∈ teamsOf games, IsTeamName n := by
  intro n hn
  refine hnames n ?_
  rw [teamsOf_cons]
  exact List.mem_append_right _ hn

/-- A line of a table with two names has two teams. -/
theorem hasTeams_of_named (hnames : ∀ n ∈ teamsOf (data :: games), IsTeamName n)
    (hnamed : data.homeTeam ≠ none ∧ data.awayTeam ≠ none) (hapart : data.homeTeam ≠ data.awayTeam) :
    ∃ home away, HasTeams data home away := by
  obtain ⟨home, hhome⟩ := Option.ne_none_iff_exists'.1 hnamed.1
  obtain ⟨away, haway⟩ := Option.ne_none_iff_exists'.1 hnamed.2
  rw [teamsOf_cons, hhome, haway] at hnames
  refine ⟨home, away, hhome, haway, hnames home (by simp), hnames away (by simp), ?_⟩
  rintro rfl
  exact hapart (hhome.trans haway.symm)

theorem SavesGame.named (hline : SavesGame formats db db1 data row) :
    data.homeTeam ≠ none ∧ data.awayTeam ≠ none := by
  obtain ⟨home, hhome⟩ := hline.isGame.homeTeam.known
  obtain ⟨away, haway⟩ := hline.isGame.awayTeam.known
  rw [hhome, haway]
  exact ⟨nofun, nofun⟩

theorem SavesGame.hasTeams (hline : SavesGame formats db db1 data row)
    (hnames : ∀ n ∈ teamsOf (data :: games), IsTeamName n) : ∃ home away, HasTeams data home away :=
  hasTeams_of_named hnames hline.named hline.valid.teams

/-- **One line more.**  The lines can be saved when the first one can, and the others after it. -/
theorem savable_cons (hnames : ∀ n ∈ teamsOf (data :: games), IsTeamName n)
    (hstadiums : ∀ o ∈ db.games.rows, ∃ name, StadiumNamed db name o.stadium) :
    Savable formats db crawl (data :: games) ↔
      ∃ s, saveGameData formats (db, crawl) data = .ok s ∧ Savable formats s.1 s.2 games := by
  constructor
  · intro h
    have hmem : data ∈ data :: games := List.mem_cons_self
    obtain ⟨home, away, hdata⟩ := hasTeams_of_named hnames (h.named data hmem) (h.valid data hmem).teams
    have hteams := h.teams
    rw [hdata.teamsOf] at hteams
    obtain ⟨hfirst, hfree⟩ := freeSlots_cons.1 h.free
    obtain ⟨hown, hapart'⟩ := apartSlots_cons.1 h.apart
    obtain ⟨⟨db1, crawl1⟩, hline⟩ := saveGameData_exists hdata (h.valid data hmem) hteams h.stadiums
      (names_later hnames) hstadiums (h.unregistered data hmem) hfirst
    obtain ⟨row, hsaves⟩ := saveGameData_saved hline
    obtain ⟨hteams1, hplaces1, -⟩ :=
      saveGameData_inserts (stadiumsOf games) hdata (names_later hnames) hline
    refine ⟨(db1, crawl1), hline, fun d hd => h.valid d (List.mem_cons_of_mem _ hd),
      fun d hd => h.named d (List.mem_cons_of_mem _ hd), fun d hd => ?_,
      (hsaves.freeSlots hstadiums).2 ⟨hfree, hown⟩, hapart', hteams1.1 hteams, hplaces1.1 h.stadiums⟩
    rw [hsaves.registrations]
    exact h.unregistered d (List.mem_cons_of_mem _ hd)
  · rintro ⟨⟨db1, crawl1⟩, hline, hrest⟩
    obtain ⟨row, hsaves⟩ := saveGameData_saved hline
    obtain ⟨home, away, hdata⟩ := hsaves.hasTeams hnames
    obtain ⟨hteams1, hplaces1, -⟩ :=
      saveGameData_inserts (stadiumsOf games) hdata (names_later hnames) hline
    obtain ⟨hfree, hown⟩ := (hsaves.freeSlots hstadiums).1 hrest.free
    refine ⟨List.forall_mem_cons.2 ⟨hsaves.valid, hrest.valid⟩,
      List.forall_mem_cons.2 ⟨hsaves.named, hrest.named⟩,
      List.forall_mem_cons.2 ⟨hsaves.unregistered, ?_⟩, freeSlots_cons.2 ⟨?_, hfree⟩,
      apartSlots_cons.2 ⟨hown, hrest.apart⟩, ?_, hplaces1.2 hrest.stadiums⟩
    · rw [← hsaves.registrations]
      exact hrest.unregistered
    · exact fun o ho hslot => hsaves.free o ho (hslot.mono hsaves.stadiums)
    · rw [hdata.teamsOf]
      exact hteams1.2 hrest.teams

end

variable {db db' : Db} {crawl : Crawl} {games : List IGameData}

theorem newTeams_nil : NewTeams db crawl [] :=
  ⟨fun _ h => absurd h List.not_mem_nil, fun _ h => absurd h (Nat.not_lt_zero _)⟩

theorem newStadiums_nil {next : Nat} : NewStadiums db next [] :=
  ⟨fun _ h => absurd h List.not_mem_nil, fun _ h => absurd h (Nat.not_lt_zero _)⟩

theorem savable_nil : Savable formats db crawl [] where
  valid _ h := absurd h List.not_mem_nil
  named _ h := absurd h List.not_mem_nil
  unregistered _ h := absurd h List.not_mem_nil
  free before _ _ h := by cases before <;> cases h
  apart before _ _ _ _ h := by cases before <;> cases h
  teams := newTeams_nil
  stadiums := newStadiums_nil

/-- **When a crawl commits.** -/
theorem saveGames_iff (hnames : ∀ n ∈ teamsOf games, IsTeamName n)
    (hstadiums : ∀ o ∈ db.games.rows, ∃ name, StadiumNamed db name o.stadium) :
    (∃ db', saveGames formats db crawl games = .ok db') ↔ Savable formats db crawl games := by
  induction games generalizing db crawl with
  | nil => exact iff_of_true ⟨db, rfl⟩ savable_nil
  | cons data games ih =>
    have hrest := names_later hnames
    rw [savable_cons hnames hstadiums]
    constructor
    · rintro ⟨db', h⟩
      obtain ⟨s, hline, h⟩ := saveGames_cons.1 h
      obtain ⟨row, hsaves⟩ := saveGameData_saved hline
      exact ⟨s, hline, (ih hrest (hsaves.named_stadiums hstadiums)).1 ⟨db', h⟩⟩
    · rintro ⟨s, hline, h⟩
      obtain ⟨row, hsaves⟩ := saveGameData_saved hline
      obtain ⟨db', h⟩ := (ih hrest (hsaves.named_stadiums hstadiums)).2 h
      exact ⟨db', saveGames_cons.2 ⟨s, hline, h⟩⟩

/-- The column takes the names of its teams. -/
theorem NewTeams.column {names : List TeamName} {n : TeamName} (h : NewTeams db crawl names)
    (hn : n ∈ names) : ∃ s, n.column = .ok s := by
  cases hfound : crawl.findTeam db n with
  | some team =>
    obtain ⟨s, hs, -⟩ := findTeam_some hfound
    exact ⟨s, hs⟩
  | none =>
    have hnew : n ∈ newTeams db crawl names := by
      refine mem_newKeys.2 ⟨hn, ?_⟩
      unfold Crawl.teamId
      rw [hfound]
      rfl
    obtain ⟨s, hs, -⟩ := h.columns n hnew
    exact ⟨s, hs⟩

/-- What a crawl that commits has inserted could be inserted. -/
theorem saveGames_inserts (hnames : ∀ n ∈ teamsOf games, IsTeamName n)
    (h : saveGames formats db crawl games = .ok db') :
    NewTeams db crawl (teamsOf games) ∧ NewStadiums db crawl.stadium (stadiumsOf games) := by
  induction games generalizing db crawl with
  | nil => exact ⟨newTeams_nil, newStadiums_nil⟩
  | cons data games ih =>
    obtain ⟨⟨db1, crawl1⟩, hline, hrest⟩ := saveGames_cons.1 h
    obtain ⟨row, hsaves⟩ := saveGameData_saved hline
    obtain ⟨home, away, hdata⟩ := hsaves.hasTeams hnames
    obtain ⟨hteams, hplaces, -⟩ :=
      saveGameData_inserts (stadiumsOf games) hdata (names_later hnames) hline
    obtain ⟨hteams1, hplaces1⟩ := ih (names_later hnames) hrest
    rw [hdata.teamsOf]
    exact ⟨hteams.2 hteams1, hplaces.2 hplaces1⟩

/-! ## The ids of a crawl -/

/-- The teams of a saved line are in the map. -/
theorem saveGameData_found {db1 : Db} {crawl1 : Crawl} {data : IGameData} {home away : TeamName}
    (hdata : HasTeams data home away) (h : saveGameData formats (db, crawl) data = .ok (db1, crawl1)) :
    (∃ team, crawl1.findTeam db1 home = some team) ∧ ∃ team, crawl1.findTeam db1 away = some team := by
  obtain ⟨date, time, homeTeam, awayTeam, stadium, db3, db4, -, -, hlooks, -, hdelete, hupsert⟩ :=
    saveGameData_iff.1 h
  obtain ⟨-, ht4, -⟩ := deletePreDoubleHeader_rest hdelete
  obtain ⟨-, -, -, rfl⟩ := upsertGame_iff.1 hupsert
  obtain ⟨dbh, crawlh, dba, crawla, hhome, haway, hstadium⟩ := (looksUp_iff hdata).1 hlooks
  obtain ⟨ht3, -, hinherited3⟩ := findOrInsertStadium_teams hstadium
  have hteams : ∀ games, (db4.withGames games).teams = dba.teams := fun _ => ht4.trans ht3
  rw [findTeam_congr (hteams _) hinherited3]
  have hfirst : crawlh.findTeam dbh home = some homeTeam := by
    rcases findOrInsertTeam_numbers hdata.homeName hhome with
      ⟨hfound, rfl, rfl⟩ | ⟨-, -, -, -, -, -, hfind⟩
    · exact hfound
    · rw [hfind home hdata.homeName, if_pos rfl]
  rcases findOrInsertTeam_numbers hdata.awayName haway with
    ⟨hfound, rfl, rfl⟩ | ⟨-, -, -, -, -, -, hfind⟩
  · exact ⟨⟨homeTeam, hfirst⟩, awayTeam, hfound⟩
  · refine ⟨⟨homeTeam, ?_⟩, awayTeam, ?_⟩
    · rw [hfind home hdata.homeName, if_neg hdata.apart, hfirst]
    · rw [hfind away hdata.awayName, if_pos rfl]

/-- What the map has is there under the id it will have. -/
theorem teamNumber_found {n : TeamName} {team : Team} {names : List TeamName}
    (h : crawl.findTeam db n = some team) : TeamNamed db (some n) (teamNumber db crawl names n) := by
  have hid : teamNumber db crawl names n = team.id := by
    refine number_known ?_
    unfold Crawl.teamId
    rw [h]
    rfl
  obtain ⟨s, hs, hnamed⟩ := findTeam_some h
  exact ⟨s, team, congrArg some hs, hnamed, hid.symm⟩

theorem stadiumNumber_found {name : String} {id next : Nat} {names : List String}
    (h : StadiumNamed db name id) : StadiumNamed db name (stadiumNumber db next names name) := by
  obtain ⟨stadium, hs, rfl⟩ := h
  have hid : stadiumNumber db next names name = stadium.id := by
    refine number_known ?_
    unfold stadiumId
    rw [hs]
    rfl
  exact ⟨stadium, hs, hid.symm⟩

/-- **The ids after a crawl.** -/
theorem saveGames_numbers (hnames : ∀ n ∈ teamsOf games, IsTeamName n)
    (h : saveGames formats db crawl games = .ok db') :
    (∀ n ∈ teamsOf games, TeamNamed db' (some n) (teamNumber db crawl (teamsOf games) n)) ∧
      ∀ s ∈ stadiumsOf games,
        StadiumNamed db' s (stadiumNumber db crawl.stadium (stadiumsOf games) s) := by
  induction games generalizing db crawl with
  | nil => exact ⟨fun _ hn => absurd hn List.not_mem_nil, fun _ hs => absurd hs List.not_mem_nil⟩
  | cons data games ih =>
    obtain ⟨⟨db1, crawl1⟩, hline, hrest⟩ := saveGames_cons.1 h
    obtain ⟨row, hsaves⟩ := saveGameData_saved hline
    obtain ⟨home, away, hdata⟩ := hsaves.hasTeams hnames
    have hbatch := saveGames_saved hrest
    obtain ⟨-, -, hnumbers, hplaceNumbers⟩ :=
      saveGameData_inserts (stadiumsOf games) hdata (names_later hnames) hline
    obtain ⟨hteams, hplaces⟩ := ih (names_later hnames) hrest
    rw [hdata.teamsOf] at hnames ⊢
    obtain ⟨⟨homeTeam, hhome⟩, awayTeam, haway⟩ := saveGameData_found hdata hline
    refine ⟨fun n hn => ?_, fun s hs => ?_⟩
    · rw [hnumbers n (hnames n hn)]
      rcases List.mem_cons.1 hn with rfl | hn
      · exact (teamNumber_found hhome).mono hbatch.names
      rcases List.mem_cons.1 hn with rfl | hn
      · exact (teamNumber_found haway).mono hbatch.names
      · exact hteams n hn
    · show StadiumNamed db' s (stadiumNumber db crawl.stadium (data.stadium :: stadiumsOf games) s)
      rw [hplaceNumbers s]
      rcases List.mem_cons.1 hs with rfl | hs
      · exact (stadiumNumber_found hsaves.isGame.stadium).mono hbatch.stadiums
      · exact hplaces s hs

end VictoryFairy
