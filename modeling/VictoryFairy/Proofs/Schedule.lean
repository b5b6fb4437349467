import VictoryFairy.Proofs.Winner
import VictoryFairy.Model.Schedule

/-!
# What a crawl writes

The id of a crawled game spells its two teams, so a later crawl of the same id has the same
teams, and what it changes of a stored game is what its line says.

    scheduledGames_named : the id of each game of a table spells its teams
    saveGameData_iff     : the steps of the loop body
    saveGameData_ok      : the row one line saves
    saveGames_ok         : what a crawl leaves of a game somebody has registered
-/

namespace VictoryFairy

open Runs

/-! ## Teams by name -/

theorem mem_of_lookup {l : List (String × String)} {k v : String} (h : l.lookup k = some v) :
    (k, v) ∈ l := by
  obtain ⟨before, after, rfl, -⟩ := List.lookup_eq_some_iff.1 h
  simp

/-- The names with a value in the tables: their own entries, and what every object has. -/
def tableNames : List String := TTeam.map Prod.fst ++ objectPrototype.map Prod.fst

theorem mem_tableNames {name : String} (h : ∃ v, teamName name = some v) : name ∈ tableNames := by
  obtain ⟨v, hv⟩ := h
  have hlookup : ∀ {β : Type} {l : List (String × β)} {w : β}, l.lookup name = some w →
      name ∈ l.map Prod.fst := by
    intro β l w hw
    obtain ⟨before, after, rfl, -⟩ := List.lookup_eq_some_iff.1 hw
    simp
  unfold teamName at hv
  unfold tableNames
  rcases Option.or_eq_some_iff.1 hv with hown | ⟨-, hinherited⟩
  · obtain ⟨w, hw, -⟩ := Option.map_eq_some_iff.1 hown
    exact List.mem_append_left _ (hlookup hw)
  · obtain ⟨w, hw, -⟩ := Option.map_eq_some_iff.1 hinherited
    exact List.mem_append_right _ (hlookup hw)

/-- The table's own entry comes first. -/
theorem teamName_own {name : String} (h : (TTeam.lookup name).isSome = true) :
    teamName name = (TTeam.lookup name).map .text := by
  obtain ⟨v, hv⟩ := Option.isSome_iff_exists.1 h
  unfold teamName
  rw [hv]
  rfl

/-- The code of a name, as it is found in an id. -/
def codeLetters (name : String) : List Char := (teamCode name).toList

theorem code_letters : ∀ name ∈ tableNames,
    codeLetters name ≠ [] ∧ (codeLetters name).all (fun c => !c.isDigit) = true := by
  decide +kernel

/-- No code starts or ends like another one. -/
theorem code_apart : ∀ name ∈ tableNames, ∀ name' ∈ tableNames,
    (codeLetters name).isPrefixOf (codeLetters name') = true ∨
      (codeLetters name).isSuffixOf (codeLetters name') = true → name = name' := by
  decide +kernel

section

variable {home away home' away' : String}

theorem codeLetters_starts (h : ∃ v, teamName home = some v) (h' : ∃ v, teamName home' = some v)
    {l : List Char} (hl : codeLetters home <+: l) (hl' : codeLetters home' <+: l) : home = home' := by
  have hmem := mem_tableNames h
  have hmem' := mem_tableNames h'
  rcases List.prefix_or_prefix_of_prefix hl hl' with hp | hp
  · exact code_apart _ hmem _ hmem' (Or.inl (List.isPrefixOf_iff_prefix.2 hp))
  · exact (code_apart _ hmem' _ hmem (Or.inl (List.isPrefixOf_iff_prefix.2 hp))).symm

theorem codeLetters_ends (h : ∃ v, teamName home = some v) (h' : ∃ v, teamName home' = some v)
    {l : List Char} (hl : codeLetters home <:+ l) (hl' : codeLetters home' <:+ l) : home = home' := by
  have hmem := mem_tableNames h
  have hmem' := mem_tableNames h'
  rcases List.suffix_or_suffix_of_suffix hl hl' with hp | hp
  · exact code_apart _ hmem _ hmem' (Or.inr (List.isSuffixOf_iff_suffix.2 hp))
  · exact (code_apart _ hmem' _ hmem (Or.inr (List.isSuffixOf_iff_suffix.2 hp))).symm

/-- The text of the two codes in an id. -/
def spelled (home away : String) : List Char := codeLetters away ++ codeLetters home

/-- The id is something, the two codes and a number. -/
def Spells (id : String) (home away : String) : Prop :=
  ∃ start number : List Char, id.toList = start ++ spelled home away ++ number ∧
    ∀ c ∈ number, c.isDigit = true

variable (hhome : ∃ v, teamName home = some v) (haway : ∃ v, teamName away = some v)

include hhome haway

/-- The codes of two known teams have no digits. -/
theorem spelled_letters : spelled home away ≠ [] ∧ ∀ c ∈ spelled home away, c.isDigit = false := by
  obtain ⟨hne, hletters⟩ := code_letters _ (mem_tableNames haway)
  obtain ⟨-, hletters'⟩ := code_letters _ (mem_tableNames hhome)
  unfold spelled
  refine ⟨List.append_ne_nil_of_left_ne_nil hne _, fun c hc => ?_⟩
  rw [← Bool.not_eq_true']
  exact (List.mem_append.1 hc).elim (List.all_eq_true.1 hletters c) (List.all_eq_true.1 hletters' c)

/-- Without its number, an id ends in the codes. -/
theorem dropNumber {id : String} {start number : List Char}
    (hid : id.toList = start ++ spelled home away ++ number)
    (hnumber : ∀ c ∈ number, c.isDigit = true) :
    (id.toList.reverse.dropWhile Char.isDigit).reverse = start ++ spelled home away := by
  obtain ⟨hne, hletters⟩ := spelled_letters hhome haway
  have hdrop : (start ++ spelled home away).reverse.dropWhile Char.isDigit =
      (start ++ spelled home away).reverse := by
    rw [List.reverse_append]
    cases hrev : (spelled home away).reverse with
    | nil => exact absurd (List.reverse_eq_nil_iff.1 hrev) hne
    | cons c cs =>
      have hc : c ∈ spelled home away := by
        rw [← List.mem_reverse, hrev]
        exact List.mem_cons_self
      rw [List.cons_append, List.dropWhile_cons, hletters c hc]
      rfl
  rw [hid, List.reverse_append,
    List.dropWhile_append_of_pos fun c hc => hnumber c (List.mem_reverse.1 hc), hdrop,
    List.reverse_reverse]

variable (hhome' : ∃ v, teamName home' = some v) (haway' : ∃ v, teamName away' = some v)

include hhome' haway'

/-- The two codes are found at the end. -/
theorem spelled_unique {start start' : List Char}
    (h : start ++ spelled home away = start' ++ spelled home' away') :
    start = start' ∧ home = home' ∧ away = away' := by
  unfold spelled at h
  rw [← List.append_assoc, ← List.append_assoc] at h
  have hsuffix : codeLetters home <:+ start' ++ codeLetters away' ++ codeLetters home' :=
    h ▸ List.suffix_append _ _
  obtain rfl := codeLetters_ends hhome hhome' hsuffix (List.suffix_append _ _)
  have h := List.append_cancel_right h
  have hsuffix : codeLetters away <:+ start' ++ codeLetters away' := h ▸ List.suffix_append _ _
  obtain rfl := codeLetters_ends haway haway' hsuffix (List.suffix_append _ _)
  exact ⟨List.append_cancel_right h, rfl, rfl⟩

/-- And at the start, whatever follows. -/
theorem spelled_prefix {number : List Char} (h : spelled home away <+: spelled home' away' ++ number) :
    home = home' ∧ away = away' := by
  unfold spelled at h
  rw [List.append_assoc] at h
  obtain rfl := codeLetters_starts haway haway' ((List.prefix_append _ _).trans h)
    (List.prefix_append _ _)
  exact ⟨codeLetters_starts hhome hhome' ((List.prefix_append_right_inj _).1 h)
    (List.prefix_append _ _), rfl⟩

/-- An id spells one pair of known teams only. -/
theorem spells_unique {id : String} (h : Spells id home away) (h' : Spells id home' away') :
    home = home' ∧ away = away' := by
  obtain ⟨start, number, hid, hnumber⟩ := h
  obtain ⟨start', number', hid', hnumber'⟩ := h'
  exact (spelled_unique hhome haway hhome' haway' ((dropNumber hhome haway hid hnumber).symm.trans
    (dropNumber hhome' haway' hid' hnumber'))).2

end

/-! ## The games of a table -/

/-- The game is one of these two teams, and its id spells them. -/
structure NamedBy (data : IGameData) (home away : String) : Prop where
  id : Spells data.id home away
  homeTeam : data.homeTeam = teamName home
  awayTeam : data.awayTeam = teamName away

/-- The number of a game that is read from a line is `0`. -/
structure ReadFrom (data : IGameData) (home away : String) : Prop where
  id : ∃ start : List Char, data.id.toList = start ++ spelled home away ++ ['0']
  homeTeam : data.homeTeam = teamName home
  awayTeam : data.awayTeam = teamName away

theorem gameData_readFrom (currentDate : String) (entry : ScheduleEntry)
    (homeTeam awayTeam : ITeamAndScore) :
    ReadFrom (gameData currentDate entry homeTeam awayTeam) homeTeam.name awayTeam.name := by
  refine ⟨⟨currentDate.toList.filter (· ≠ '-'), ?_⟩, rfl, rfl⟩
  unfold gameData spelled codeLetters
  simp

section

variable (formats : Formats)

/-- What the lines make of good dates, all games of a table are. -/
theorem refineGamesData_forall {year : Nat} {D : String → Prop} {P : IGameData → Prop}
    (hnext : ∀ date entry, D date → D (nextDate formats year date entry))
    (hline : ∀ date entry homeTeam awayTeam, date ≠ "" → D date →
      P (gameData date entry homeTeam awayTeam))
    {currentDate : String} {rawData : List (List String)} {games : List IGameData}
    (h : refineGamesData formats year currentDate rawData = .ok games) (hdate : D currentDate) :
    ∀ data ∈ games, P data := by
  induction rawData generalizing currentDate games with
  | nil => cases h; exact fun data hd => by cases hd
  | cons cells rawData ih =>
    unfold refineGamesData at h
    split at h
    · exact ih h hdate
    · next entry hentry =>
      dsimp only at h
      split at h
      · exact ih h (hnext _ entry hdate)
      · next hempty =>
        split at h
        · cases h
        · next homeTeam awayTeam hteams =>
          cases hrest : refineGamesData formats year (nextDate formats year currentDate entry)
            rawData with
          | error e => rw [hrest] at h; cases h
          | ok rest =>
            rw [hrest] at h
            cases h
            intro data hd
            rcases List.mem_cons.1 hd with rfl | hd
            · exact hline _ entry homeTeam awayTeam hempty (hnext _ entry hdate)
            · exact ih hrest (hnext _ entry hdate) data hd

theorem refineGamesData_readFrom (year : Nat) {currentDate : String} {rawData : List (List String)}
    {games : List IGameData} (h : refineGamesData formats year currentDate rawData = .ok games) :
    ∀ data ∈ games, ∃ home away, ReadFrom data home away :=
  refineGamesData_forall formats (D := fun _ => True) (fun _ _ _ => trivial)
    (fun date entry homeTeam awayTeam _ _ => ⟨_, _, gameData_readFrom date entry homeTeam awayTeam⟩) h
    trivial

end

theorem ReadFrom.named {data : IGameData} {home away : String} (h : ReadFrom data home away) :
    NamedBy data home away := by
  obtain ⟨start, hid⟩ := h.id
  refine ⟨⟨start, ['0'], hid, fun c hc => ?_⟩, h.homeTeam, h.awayTeam⟩
  rw [List.mem_singleton.1 hc]
  rfl

/-- Another number keeps the teams. -/
theorem ReadFrom.renumber {data : IGameData} {home away : String} (h : ReadFrom data home away)
    (n : Nat) : NamedBy { data with id := sliceLast data.id ++ toString n } home away := by
  obtain ⟨start, hid⟩ := h.id
  refine ⟨⟨start, Nat.toDigits 10 n, ?_, fun c hc => Nat.isDigit_of_mem_toDigits (by decide)
    (by decide) hc⟩, h.homeTeam, h.awayTeam⟩
  have hslice : (sliceLast data.id).toList = start ++ spelled home away := by
    unfold sliceLast
    rw [String.toList_ofList, hid, List.dropLast_concat]
  show (sliceLast data.id ++ toString n).toList = _
  rw [String.toList_append, hslice, show (toString n).toList = Nat.toDigits 10 n from
    String.toList_ofList]

theorem numberGame_named (schedule result : List IGameData) {game : IGameData} {home away : String}
    (h : ReadFrom game home away) : NamedBy (numberGame schedule result game) home away := by
  unfold numberGame
  dsimp only
  split
  · exact h.renumber _
  · exact h.named

/-- Every game of the result is a numbered one. -/
theorem processDoubleHeader_forall {schedule : List IGameData} {P : IGameData → Prop}
    (h : ∀ game ∈ schedule, ∀ result, P (numberGame schedule result game)) :
    ∀ data ∈ processDoubleHeader schedule, P data := by
  have hfold : ∀ (games result : List IGameData), (∀ game ∈ games, game ∈ schedule) →
      (∀ data ∈ result, P data) →
      ∀ data ∈ games.foldl (fun result game => result ++ [numberGame schedule result game]) result,
        P data := by
    intro games
    induction games with
    | nil => exact fun result _ hresult => hresult
    | cons game games ih =>
      intro result hgames hresult
      refine ih _ (fun g hg => hgames g (List.mem_cons_of_mem _ hg)) fun data hd => ?_
      rcases List.mem_append.1 hd with hd | hd
      · exact hresult data hd
      · rw [List.mem_singleton.1 hd]
        exact h game (hgames game List.mem_cons_self) result
  exact hfold schedule [] (fun _ => id) fun data hd => by cases hd

theorem processDoubleHeader_named {schedule : List IGameData}
    (h : ∀ data ∈ schedule, ∃ home away, ReadFrom data home away) :
    ∀ data ∈ processDoubleHeader schedule, ∃ home away, NamedBy data home away := by
  refine processDoubleHeader_forall fun game hgame result => ?_
  obtain ⟨home, away, hread⟩ := h game hgame
  exact ⟨home, away, numberGame_named schedule result hread⟩

theorem scheduledGames_ok {formats : Formats} {year : Nat} {rows : List (List String)}
    {games : List IGameData} (h : scheduledGames formats year rows = .ok games) :
    ∃ schedule, refineGamesData formats year "" (rows.map extractTextFromHtml) = .ok schedule ∧
      games = processDoubleHeader schedule := by
  unfold scheduledGames at h
  cases hrefined : refineGamesData formats year "" (rows.map extractTextFromHtml) with
  | error e =>
    rw [hrefined] at h
    cases h
  | ok schedule =>
    rw [hrefined] at h
    cases h
    exact ⟨schedule, rfl, rfl⟩

/-- The id of every game of a table spells its two teams. -/
theorem scheduledGames_named (formats : Formats) {year : Nat} {rows : List (List String)}
    {games : List IGameData} (h : scheduledGames formats year rows = .ok games) :
    ∀ data ∈ games, ∃ home away, NamedBy data home away := by
  obtain ⟨schedule, hrefined, rfl⟩ := scheduledGames_ok h
  exact processDoubleHeader_named (refineGamesData_readFrom formats year hrefined)

/-! ## One line -/

/-- What a crawl leaves of a game that somebody has registered: what decides the result. -/
structure Verdict where
  status : String
  winningTeam : Option Nat
  homeTeam : Nat
  awayTeam : Nat
deriving DecidableEq, Repr

def GameRow.verdict (row : GameRow) : Verdict :=
  ⟨row.status, row.winningTeam, row.homeTeam, row.awayTeam⟩

def Verdict.resultOf (v : Verdict) (team : Nat) : Option RegisteredGameStatus :=
  determineStatus v.status (orNull v.winningTeam) team

/-- A line writes the status, and the winner only of a finished game. -/
def Verdict.crawled (v : Verdict) (data : IGameData) : Verdict :=
  { v with
    status := data.status
    winningTeam := if data.status = finished then
        GameRow.winnerBy finished (data.homeScore.map Int.ofNat) (data.awayScore.map Int.ofNat)
          v.homeTeam v.awayTeam
      else v.winningTeam }

/-- The team with what the column has of this name has this id. -/
def TeamNamed (db : Db) (name : Option TeamName) (id : Nat) : Prop :=
  ∃ s team, name.map TeamName.column = some (.ok s) ∧ teamNamed db s = some team ∧ team.id = id

/-- No name changes its team. -/
def KeepsNames (db db' : Db) : Prop :=
  ∀ name team, teamNamed db name = some team → teamNamed db' name = some team

theorem KeepsNames.of_teams {db db' : Db} (h : db'.teams = db.teams) : KeepsNames db db' := by
  intro name team hn
  unfold teamNamed at hn ⊢
  rw [h]
  exact hn

theorem KeepsNames.trans {db db1 db2 : Db} (h : KeepsNames db db1) (h' : KeepsNames db1 db2) :
    KeepsNames db db2 :=
  fun name team hn => h' name team (h name team hn)

theorem TeamNamed.mono {db db' : Db} {name : Option TeamName} {id : Nat} (h : TeamNamed db name id)
    (hkeep : KeepsNames db db') : TeamNamed db' name id := by
  obtain ⟨s, team, hs, hteam, hid⟩ := h
  exact ⟨s, team, hs, hkeep s team hteam, hid⟩

theorem TeamNamed.unique {db : Db} {name : Option TeamName} {id id' : Nat} (h : TeamNamed db name id)
    (h' : TeamNamed db name id') : id = id' := by
  obtain ⟨s, team, hs, hteam, rfl⟩ := h
  obtain ⟨s', team', hs', hteam', rfl⟩ := h'
  obtain rfl := Except.ok.inj (Option.some.inj (hs.symm.trans hs'))
  obtain rfl := Option.some.inj (hteam.symm.trans hteam')
  rfl

/-- The team is the one found, or a new one with a new id and a new name. -/
theorem findOrInsertTeam_cases {db db' : Db} {found : Option Team} {name : Option TeamName}
    {crawl crawl' : Crawl} {team : Team}
    (h : findOrInsertTeam db found name crawl = .ok (db', team, crawl')) :
    (found = some team ∧ db' = db ∧ crawl' = crawl) ∨
    ∃ n s, found = none ∧ name = some n ∧ n.column = .ok s ∧ team = ⟨crawl.team, s⟩ ∧
      (∀ t ∈ db.teams.rows, t.id ≠ crawl.team ∧ t.name ≠ s) ∧
      db' = { db with teams := db.teams.save ⟨crawl.team, s⟩ } ∧ crawl' = crawl.setTeam n := by
  unfold findOrInsertTeam at h
  split at h
  · cases h
    exact Or.inl ⟨rfl, rfl, rfl⟩
  · unfold insertTeam at h
    split at h
    · cases h
    · next n =>
      split at h
      · cases h
      · next s hs =>
        split at h
        · cases h
        · next hfree =>
          cases h
          simp only [List.any_eq_true, not_exists, not_and, Bool.or_eq_true, decide_eq_true_eq,
            not_or] at hfree
          exact Or.inr ⟨n, s, rfl, rfl, hs, rfl, hfree, rfl, rfl⟩

theorem teamNamed_save {db : Db} {team : Team} (hfree : ∀ t ∈ db.teams.rows, t.id ≠ team.id)
    (name : String) : teamNamed { db with teams := db.teams.save team } name =
      (teamNamed db name).or (if team.name = name then some team else none) := by
  show (db.teams.save team).rows.find? _ = _
  rw [Table.rows_save_of_fresh hfree, List.find?_append, List.find?_singleton]
  simp only [decide_eq_true_eq]
  rfl

/-- What a map has under a name is the team with what the column has of it. -/
theorem findTeam_some {crawl : Crawl} {db : Db} {name : TeamName} {team : Team}
    (h : crawl.findTeam db name = some team) :
    ∃ s, name.column = .ok s ∧ teamNamed db s = some team := by
  have hteam : name.team db = some team := by
    unfold Crawl.findTeam at h
    split at h
    · exact h
    · split at h
      · exact h
      · cases h
  obtain ⟨s, hs, hnamed⟩ := Option.bind_eq_some_iff.1 hteam
  refine ⟨s, ?_, hnamed⟩
  cases hc : name.column with
  | error e =>
    rw [hc] at hs
    cases hs
  | ok s' =>
    rw [hc] at hs
    cases hs
    rfl

theorem findOrInsertTeam_ok {db db' : Db} {found : Option Team} {name : Option TeamName}
    {crawl crawl' : Crawl} {team : Team}
    (hfound : ∀ t, found = some t → ∃ s, name.map TeamName.column = some (.ok s) ∧
      teamNamed db s = some t)
    (h : findOrInsertTeam db found name crawl = .ok (db', team, crawl')) :
    db'.games = db.games ∧ db'.registeredGames = db.registeredGames ∧ KeepsNames db db' ∧
      TeamNamed db' name team.id := by
  rcases findOrInsertTeam_cases h with ⟨hteam, rfl, -⟩ | ⟨n, s, -, rfl, hs, rfl, hfree, rfl, -⟩
  · obtain ⟨s, hs, ht⟩ := hfound team hteam
    exact ⟨rfl, rfl, fun _ _ hn => hn, ⟨s, team, hs, ht, rfl⟩⟩
  · have hnew : ∀ t ∈ db.teams.rows, t.id ≠ (⟨crawl.team, s⟩ : Team).id := fun t ht => (hfree t ht).1
    have hnamed := teamNamed_save hnew
    have hnone : teamNamed db s = none :=
      List.find?_eq_none.2 fun t ht => by simpa using (hfree t ht).2
    refine ⟨rfl, rfl, fun n t hn => ?_, ⟨s, ⟨crawl.team, s⟩, congrArg some hs, ?_, rfl⟩⟩
    · rw [hnamed, hn]
      rfl
    · rw [hnamed, hnone]
      exact if_pos rfl

/-- A stadium that is not known by its name is inserted without a place. -/
theorem findOrInsertStadium_cases {db db' : Db} {name : String} {crawl crawl' : Crawl}
    {stadium : Stadium} (h : findOrInsertStadium db name crawl = .ok (db', stadium, crawl')) :
    (stadiumNamed db name = some stadium ∧ db' = db ∧ crawl' = crawl) ∨
    (stadiumNamed db name = none ∧ IsText name ∧
      stadium = ⟨crawl.stadium, name, "등록되어 있지 않은 경기장", 0, 0⟩ ∧
      (∀ s ∈ db.stadiums.rows, s.id ≠ crawl.stadium ∧ s.name ≠ name) ∧
      db' = { db with stadiums := db.stadiums.save stadium } ∧
      crawl' = { crawl with stadium := crawl.stadium + 1 }) := by
  unfold findOrInsertStadium at h
  split at h
  · next hfound =>
    cases h
    exact Or.inl ⟨hfound, rfl, rfl⟩
  · next hnone =>
    dsimp only at h
    split at h
    · cases h
    · next htext =>
      split at h
      · cases h
      · next hfree =>
        cases h
        simp only [List.any_eq_true, not_exists, not_and, Bool.or_eq_true, decide_eq_true_eq,
          not_or] at hfree
        exact Or.inr ⟨hnone, not_not.1 htext, rfl, hfree, rfl, rfl⟩

theorem findOrInsertStadium_ok {db db' : Db} {name : String} {crawl crawl' : Crawl}
    {stadium : Stadium} (h : findOrInsertStadium db name crawl = .ok (db', stadium, crawl')) :
    db'.games = db.games ∧ db'.registeredGames = db.registeredGames ∧ db'.teams = db.teams := by
  rcases findOrInsertStadium_cases h with ⟨-, rfl, -⟩ | ⟨-, -, -, -, rfl, -⟩
  · exact ⟨rfl, rfl, rfl⟩
  · exact ⟨rfl, rfl, rfl⟩

/-- The game of the other id is gone, but nobody has registered it. -/
theorem deletePreDoubleHeader_ok {db db' : Db} {id : String}
    (h : db.deletePreDoubleHeader id = .ok db') :
    db'.registeredGames = db.registeredGames ∧ db'.teams = db.teams ∧
      (∀ row ∈ db'.games.rows, row ∈ db.games.rows) ∧
      ∀ gameId, (gameId = id ∨ ∃ r ∈ db.registeredGames.rows, r.game = gameId) →
        db'.games.find? gameId = db.games.find? gameId := by
  unfold Db.deletePreDoubleHeader at h
  split at h
  · cases h; exact ⟨rfl, rfl, fun _ hr => hr, fun _ _ => rfl⟩
  · next hzero =>
    unfold Db.deleteGame at h
    split at h
    · cases h
    · next hfree =>
      cases h
      refine ⟨rfl, rfl, fun row hr => (Table.mem_remove.1 hr).1, fun gameId hg => ?_⟩
      have hne : sliceLast id ++ "0" ≠ gameId := by
        rintro rfl
        rcases hg with he | ⟨r, hr, he⟩
        · refine hzero ?_
          rw [← he]
          unfold endsWithZero
          rw [String.toList_append]
          simp
        · exact hfree (List.any_eq_true.2 ⟨r, hr, by simpa using he⟩)
      rw [Db.withGames_games, Table.find?_remove, if_neg hne]

theorem castDateTime_iff {formats : Formats} {data : IGameData} {date : Date} {time : String} :
    castDateTime formats data = .ok (date, time) ↔
      formats.castDate data.date = some date ∧ formats.castTime data.time = some time := by
  unfold castDateTime
  cases formats.castDate data.date with
  | none => simp
  | some d => cases formats.castTime data.time <;> simp

/-- The row an `upsert` of a game with a status leaves over the stored one. -/
def Game.CreateProps.savedRow (props : Game.CreateProps) (stored : Option GameRow) : GameRow where
  id := props.id
  date := props.date
  time := props.time
  status := props.status
  homeTeamScore := props.homeTeamScore
  awayTeamScore := props.awayTeamScore
  homeTeam := props.homeTeam
  awayTeam := props.awayTeam
  stadium := props.stadium
  winningTeam :=
    if props.status = finished then
      GameRow.winnerBy finished props.homeTeamScore props.awayTeamScore props.homeTeam props.awayTeam
    else stored.bind GameRow.winningTeam

theorem Game.CreateProps.upserted_of_id {props : Game.CreateProps} {stored : Option GameRow}
    (hstored : ∀ row, stored = some row → row.id = props.id) :
    props.upserted props.id stored = props.savedRow stored := by
  have hid : stored.elim props.id GameRow.id = props.id := by
    cases stored with
    | none => rfl
    | some row => exact hstored row rfl
  unfold upserted savedRow
  rw [hid]

/-- An `upsert` is rejected for an empty status, for values the columns do not take, or for
another row with the same date, time and stadium. -/
theorem upsertGame_iff {db db' : Db} {props : Game.CreateProps} :
    db.upsertGame (Game.created props) = .ok db' ↔
      props.status ≠ "" ∧
      GameRow.Fits props.status props.homeTeamScore props.awayTeamScore ∧
      (∀ o ∈ db.games.rows, o.id ≠ props.id → ¬ (o.date = props.date ∧ o.time = props.time ∧
        o.stadium = props.stadium)) ∧
      db' = db.withGames (db.games.save (props.savedRow (db.games.find? props.id))) := by
  have hid : (Game.created props).id = props.id := rfl
  unfold Db.upsertGame
  rw [hid, Game.upsertRow_created, Game.CreateProps.upserted_of_id fun row h => Table.find?_key h]
  by_cases hs : props.status = ""
  · rw [if_pos hs]
    exact ⟨(fun h => by cases h), fun h => absurd hs h.1⟩
  rw [if_neg hs]
  rcases (props.savedRow (db.games.find? props.id)).written_cases with ⟨hok, hfits⟩ | ⟨e, he, hfits⟩
  · rw [hok]
    dsimp only [bind, Except.bind]
    split
    · next hany =>
      obtain ⟨o, ho, hclash⟩ := List.any_eq_true.1 hany
      simp only [Bool.and_eq_true, decide_eq_true_eq] at hclash
      obtain ⟨⟨⟨hne, hdate⟩, htime⟩, hstadium⟩ := hclash
      exact ⟨(fun h => by cases h), fun h => absurd ⟨hdate, htime, hstadium⟩ (h.2.2.1 o ho hne)⟩
    · next hany =>
      refine ⟨fun h => ⟨hs, hfits, fun o ho hne hsame => hany ?_, (Except.ok.inj h).symm⟩, fun h => ?_⟩
      · obtain ⟨hdate, htime, hstadium⟩ := hsame
        refine List.any_eq_true.2 ⟨o, ho, ?_⟩
        simp only [Bool.and_eq_true, decide_eq_true_eq]
        exact ⟨⟨⟨hne, hdate⟩, htime⟩, hstadium⟩
      · rw [h.2.2.2]
        rfl
  · rw [he]
    exact ⟨(fun h => by cases h), fun h => absurd h.2.1 hfits⟩

/-- The arguments of `Game.create` in the loop body. -/
def lineProps (data : IGameData) (date : Date) (time : String) (homeTeam awayTeam stadium : Nat) :
    Game.CreateProps where
  id := data.id
  date := date
  time := time
  status := data.status
  homeTeamScore := data.homeScore.map Int.ofNat
  awayTeamScore := data.awayScore.map Int.ofNat
  homeTeam := homeTeam
  awayTeam := awayTeam
  stadium := stadium

/-- The teams and the stadium of the line are found or inserted. -/
def LooksUp (db : Db) (crawl : Crawl) (data : IGameData) (homeTeam awayTeam : Team)
    (stadium : Stadium) (db' : Db) (crawl' : Crawl) : Prop :=
  ∃ db1 crawl1 db2 crawl2,
    findOrInsertTeam db (data.homeTeam.bind (crawl.findTeam db)) data.homeTeam crawl =
      .ok (db1, homeTeam, crawl1) ∧
    findOrInsertTeam db1 (data.awayTeam.bind (crawl.findTeam db)) data.awayTeam crawl1 =
      .ok (db2, awayTeam, crawl2) ∧
    findOrInsertStadium db2 data.stadium crawl2 = .ok (db', stadium, crawl')

/-- The steps of the loop body. -/
theorem saveGameData_iff {formats : Formats} {db db' : Db} {crawl crawl' : Crawl}
    {data : IGameData} :
    saveGameData formats (db, crawl) data = .ok (db', crawl') ↔
      ∃ date time homeTeam awayTeam stadium db3 db4,
        formats.castDate data.date = some date ∧ formats.castTime data.time = some time ∧
        LooksUp db crawl data homeTeam awayTeam stadium db3 crawl' ∧ homeTeam.id ≠ awayTeam.id ∧
        db3.deletePreDoubleHeader data.id = .ok db4 ∧
        db4.upsertGame (Game.created
          (lineProps data date time homeTeam.id awayTeam.id stadium.id)) = .ok db' := by
  unfold saveGameData
  constructor
  · intro h
    obtain ⟨⟨date, time⟩, hcast, h⟩ := bind_eq_ok.1 h
    obtain ⟨⟨db1, homeTeam, crawl1⟩, hhome, h⟩ := bind_eq_ok.1 h
    obtain ⟨⟨db2, awayTeam, crawl2⟩, haway, h⟩ := bind_eq_ok.1 h
    obtain ⟨⟨db3, stadium, crawl3⟩, hstadium, h⟩ := bind_eq_ok.1 h
    obtain ⟨game, hcreate, h⟩ := bind_eq_ok.1 h
    obtain ⟨db4, hdelete, h⟩ := bind_eq_ok.1 h
    obtain ⟨db5, hupsert, h⟩ := bind_eq_ok.1 h
    cases h
    obtain ⟨hdate, htime⟩ := castDateTime_iff.1 hcast
    rw [Game.create_eq] at hcreate
    split at hcreate
    · cases hcreate
    · next hne =>
      obtain rfl := Except.ok.inj hcreate
      exact ⟨date, time, homeTeam, awayTeam, stadium, db3, db4, hdate, htime,
        ⟨db1, crawl1, db2, crawl2, hhome, haway, hstadium⟩, hne, hdelete, hupsert⟩
  · rintro ⟨date, time, homeTeam, awayTeam, stadium, db3, db4, hdate, htime,
      ⟨db1, crawl1, db2, crawl2, hhome, haway, hstadium⟩, hne, hdelete, hupsert⟩
    have hcreate : Game.create (lineProps data date time homeTeam.id awayTeam.id stadium.id) =
        .ok (Game.created (lineProps data date time homeTeam.id awayTeam.id stadium.id)) := by
      rw [Game.create_eq]
      exact if_neg hne
    refine bind_eq_ok.2 ⟨_, castDateTime_iff.2 ⟨hdate, htime⟩, ?_⟩
    refine bind_eq_ok.2 ⟨_, hhome, ?_⟩
    refine bind_eq_ok.2 ⟨_, haway, ?_⟩
    refine bind_eq_ok.2 ⟨_, hstadium, ?_⟩
    refine bind_eq_ok.2 ⟨_, hcreate, ?_⟩
    refine bind_eq_ok.2 ⟨_, hdelete, ?_⟩
    exact bind_eq_ok.2 ⟨_, hupsert, rfl⟩

/-- The teams are then there under their names, and no game has changed. -/
theorem LooksUp.teams {db db' : Db} {crawl crawl' : Crawl} {data : IGameData}
    {homeTeam awayTeam : Team} {stadium : Stadium}
    (h : LooksUp db crawl data homeTeam awayTeam stadium db' crawl') :
    db'.games = db.games ∧ db'.registeredGames = db.registeredGames ∧ KeepsNames db db' ∧
      TeamNamed db' data.homeTeam homeTeam.id ∧ TeamNamed db' data.awayTeam awayTeam.id := by
  obtain ⟨db1, crawl1, db2, crawl2, hhome, haway, hstadium⟩ := h
  have hfound : ∀ {name : Option TeamName} (t : Team), name.bind (crawl.findTeam db) = some t →
      ∃ s, name.map TeamName.column = some (.ok s) ∧ teamNamed db s = some t := by
    intro name t ht
    obtain ⟨n, rfl, hn⟩ := Option.bind_eq_some_iff.1 ht
    obtain ⟨s, hs, hnamed⟩ := findTeam_some hn
    exact ⟨s, congrArg some hs, hnamed⟩
  obtain ⟨hg1, hr1, hk1, hn1⟩ := findOrInsertTeam_ok hfound hhome
  obtain ⟨hg2, hr2, hk2, hn2⟩ := findOrInsertTeam_ok
    (fun t ht => (hfound t ht).imp fun s hs => ⟨hs.1, hk1 s t hs.2⟩) haway
  obtain ⟨hg3, hr3, ht3⟩ := findOrInsertStadium_ok hstadium
  have hk3 : KeepsNames db2 db' := .of_teams ht3
  exact ⟨hg3.trans (hg2.trans hg1), hr3.trans (hr2.trans hr1), (hk1.trans hk2).trans hk3,
    (hn1.mono hk2).mono hk3, hn2.mono hk3⟩

/-- What saving one line leaves: `row` over what was stored under its id. -/
structure SavesLine (db db' : Db) (data : IGameData) (row : GameRow) : Prop where
  registrations : db'.registeredGames = db.registeredGames
  names : KeepsNames db db'
  rows : ∀ r ∈ db'.games.rows, r = row ∨ r ∈ db.games.rows
  found : ∀ gameId, (∃ r ∈ db.registeredGames.rows, r.game = gameId) →
    db'.games.find? gameId = if data.id = gameId then some row else db.games.find? gameId
  id : row.id = data.id
  status : row.status = data.status
  winningTeam : row.winningTeam = if data.status = finished then
      GameRow.winnerBy finished (data.homeScore.map Int.ofNat) (data.awayScore.map Int.ofNat)
        row.homeTeam row.awayTeam
    else (db.games.find? data.id).bind GameRow.winningTeam
  homeTeam : TeamNamed db' data.homeTeam row.homeTeam
  awayTeam : TeamNamed db' data.awayTeam row.awayTeam

theorem saveGameData_ok (formats : Formats) {s s' : Db × Crawl} {data : IGameData}
    (h : saveGameData formats s data = .ok s') : ∃ row, SavesLine s.1 s'.1 data row := by
  obtain ⟨db, crawl⟩ := s
  obtain ⟨db', crawl'⟩ := s'
  obtain ⟨date, time, homeTeam, awayTeam, stadium, db3, db4, -, -, hlooks, -, hdelete, hupsert⟩ :=
    saveGameData_iff.1 h
  obtain ⟨hgames, hregs, hnames, hhome, haway⟩ := hlooks.teams
  obtain ⟨hr4, ht4, hrows4, hfind4⟩ := deletePreDoubleHeader_ok hdelete
  obtain ⟨-, -, -, rfl⟩ := upsertGame_iff.1 hupsert
  have hkeep : ∀ row, KeepsNames db3 (db4.withGames (db4.games.save row)) := fun _ => .of_teams ht4
  have hstored : db4.games.find? data.id = db.games.find? data.id := by
    rw [hfind4 data.id (Or.inl rfl), hgames]
  refine ⟨(lineProps data date time homeTeam.id awayTeam.id stadium.id).savedRow
      (db4.games.find? data.id), hr4.trans hregs, hnames.trans (hkeep _),
    fun r hr => ?_, fun gameId hg => ?_, rfl, rfl, ?_, hhome.mono (hkeep _), haway.mono (hkeep _)⟩
  · rcases Table.mem_save.1 hr with he | ⟨hr, -⟩
    · exact Or.inl he
    · refine Or.inr ?_
      rw [← hgames]
      exact hrows4 r hr
  · rw [Db.withGames_games, Table.find?_save]
    split
    · next hid => exact (if_pos hid).symm
    · next hid =>
      rw [hfind4 gameId (Or.inr (hregs ▸ hg)), hgames]
      exact (if_neg hid).symm
  · rw [← hstored]
    rfl

/-! ## Whole crawls -/

/-- The game's teams are those its id spells, and its winner is one of them. -/
structure GameInv (db : Db) (row : GameRow) : Prop where
  teams : ∃ home away, Spells row.id home away ∧ TeamNamed db (teamName home) row.homeTeam ∧
    TeamNamed db (teamName away) row.awayTeam
  winner : ∀ w, row.winningTeam = some w → w = row.homeTeam ∨ w = row.awayTeam

theorem GameInv.mono {db db' : Db} {row : GameRow} (h : GameInv db row) (hkeep : KeepsNames db db') :
    GameInv db' row := by
  obtain ⟨home, away, hid, hhome, haway⟩ := h.teams
  exact ⟨⟨home, away, hid, hhome.mono hkeep, haway.mono hkeep⟩, h.winner⟩

theorem GameRow.winnerBy_mem {status : String} {homeScore awayScore : Option Int} {home away w : Nat}
    (h : winnerBy status homeScore awayScore home away = some w) : w = home ∨ w = away := by
  unfold winnerBy at h
  split at h
  · split at h
    · split at h
      · cases h
      · obtain rfl := Option.some.inj h
        split
        · exact Or.inl rfl
        · exact Or.inr rfl
    · cases h
  · cases h

theorem TeamNamed.known {db : Db} {name : Option TeamName} {id : Nat} (h : TeamNamed db name id) :
    ∃ v, name = some v := by
  obtain ⟨s, -, hs, -⟩ := h
  obtain ⟨v, hv, -⟩ := Option.map_eq_some_iff.1 hs
  exact ⟨v, hv⟩

/-- The teams of a stored id stay. -/
theorem SavesLine.sameTeams {db db' : Db} {data : IGameData} {row stored : GameRow}
    {home away : String} (h : SavesLine db db' data row) (hnamed : NamedBy data home away)
    (hinv : GameInv db stored) (hstored : stored.id = data.id) :
    row.homeTeam = stored.homeTeam ∧ row.awayTeam = stored.awayTeam := by
  obtain ⟨home', away', hid', hhome', haway'⟩ := hinv.teams
  have hhome := h.homeTeam
  have haway := h.awayTeam
  rw [hnamed.homeTeam] at hhome
  rw [hnamed.awayTeam] at haway
  rw [hstored] at hid'
  obtain ⟨rfl, rfl⟩ := spells_unique hhome.known haway.known hhome'.known haway'.known hnamed.id hid'
  exact ⟨hhome.unique (hhome'.mono h.names), haway.unique (haway'.mono h.names)⟩

/-- Saving one line keeps the games in order, and writes over a stored game what the line
says. -/
theorem SavesLine.games {db db' : Db} {data : IGameData} {row : GameRow} {home away : String}
    (h : SavesLine db db' data row) (hnamed : NamedBy data home away)
    (hinv : ∀ r ∈ db.games.rows, GameInv db r) :
    (∀ r ∈ db'.games.rows, GameInv db' r) ∧
      ∀ stored, db.games.find? data.id = some stored → row.verdict = stored.verdict.crawled data := by
  have hsame : ∀ stored, db.games.find? data.id = some stored →
      row.homeTeam = stored.homeTeam ∧ row.awayTeam = stored.awayTeam := fun stored hs =>
    h.sameTeams hnamed (hinv stored (Table.mem_of_find? hs)) (Table.find?_key hs)
  refine ⟨fun r hr => ?_, fun stored hs => ?_⟩
  · rcases h.rows r hr with rfl | hr
    · refine ⟨⟨home, away, h.id ▸ hnamed.id, hnamed.homeTeam ▸ h.homeTeam,
        hnamed.awayTeam ▸ h.awayTeam⟩, fun w hw => ?_⟩
      rw [h.winningTeam] at hw
      split at hw
      · exact GameRow.winnerBy_mem hw
      · obtain ⟨stored, hs, hw⟩ := Option.bind_eq_some_iff.1 hw
        obtain ⟨hhome, haway⟩ := hsame stored hs
        rw [hhome, haway]
        exact (hinv stored (Table.mem_of_find? hs)).winner w hw
    · exact (hinv r hr).mono h.names
  · obtain ⟨hhome, haway⟩ := hsame stored hs
    unfold GameRow.verdict Verdict.crawled
    rw [h.status, h.winningTeam, hs, hhome, haway]
    rfl

/-- What the lines of a crawl say about one game. -/
def Verdict.afterCrawl (v : Verdict) (gameId : String) (games : List IGameData) : Verdict :=
  games.foldl (fun v data => if data.id = gameId then v.crawled data else v) v

theorem Verdict.afterCrawl_teams (v : Verdict) (gameId : String) (games : List IGameData) :
    (v.afterCrawl gameId games).homeTeam = v.homeTeam ∧
      (v.afterCrawl gameId games).awayTeam = v.awayTeam := by
  unfold afterCrawl
  induction games generalizing v with
  | nil => exact ⟨rfl, rfl⟩
  | cons data games ih =>
    rw [List.foldl_cons]
    split
    · exact ih (v.crawled data)
    · exact ih v

section

variable {formats : Formats} {db db' : Db} {crawl : Crawl} {data : IGameData}
  {games : List IGameData}

/-- The loop of the transaction, from any state of it. -/
def saveGames (formats : Formats) (db : Db) (crawl : Crawl) (games : List IGameData) :
    Except AppError Db := do
  let (db, _) ← games.foldlM (saveGameData formats) (db, crawl)
  return db

theorem upsertMany_eq (ids : Sequences) : upsertMany formats db ids games =
    saveGames formats db ids.begin games := rfl

/-- The lines are saved one after the other. -/
theorem saveGames_cons :
    saveGames formats db crawl (data :: games) = .ok db' ↔
      ∃ s, saveGameData formats (db, crawl) data = .ok s ∧
        saveGames formats s.1 s.2 games = .ok db' := by
  unfold saveGames
  rw [List.foldlM_cons]
  constructor
  · intro h
    obtain ⟨s', hfold, hdb⟩ := bind_eq_ok.1 h
    obtain ⟨s, hline, hrest⟩ := bind_eq_ok.1 hfold
    exact ⟨s, hline, bind_eq_ok.2 ⟨s', hrest, hdb⟩⟩
  · rintro ⟨s, hline, h⟩
    obtain ⟨s', hrest, hdb⟩ := bind_eq_ok.1 h
    exact bind_eq_ok.2 ⟨s', bind_eq_ok.2 ⟨s, hline, hrest⟩, hdb⟩

end

/-- **A crawl.**  What it leaves of a registered game is what its lines say. -/
theorem saveGames_ok (formats : Formats) {db db' : Db} {crawl : Crawl} {games : List IGameData}
    (h : saveGames formats db crawl games = .ok db')
    (hnamed : ∀ data ∈ games, ∃ home away, NamedBy data home away)
    (hinv : ∀ r ∈ db.games.rows, GameInv db r) :
    db'.registeredGames = db.registeredGames ∧ (∀ r ∈ db'.games.rows, GameInv db' r) ∧
      ∀ gameId, (∃ r ∈ db.registeredGames.rows, r.game = gameId) →
        ∀ row, db.games.find? gameId = some row →
          ∃ row', db'.games.find? gameId = some row' ∧
            row'.verdict = row.verdict.afterCrawl gameId games := by
  induction games generalizing db crawl with
  | nil =>
    cases h
    exact ⟨rfl, hinv, fun gameId _ row hrow => ⟨row, hrow, rfl⟩⟩
  | cons data games ih =>
    obtain ⟨⟨db1, crawl1⟩, hline, hrest⟩ := saveGames_cons.1 h
    obtain ⟨home, away, hdata⟩ := hnamed data List.mem_cons_self
    obtain ⟨saved, hsaves⟩ := saveGameData_ok formats hline
    obtain ⟨hinv2, hverdict⟩ := hsaves.games hdata hinv
    obtain ⟨hregs, hinv', hfound⟩ := ih hrest (fun d hd => hnamed d (List.mem_cons_of_mem _ hd)) hinv2
    refine ⟨hregs.trans hsaves.registrations, hinv', fun gameId hg row hrow => ?_⟩
    have hline' := hsaves.found gameId hg
    rw [← hsaves.registrations] at hg
    by_cases hid : data.id = gameId
    · rw [if_pos hid] at hline'
      obtain ⟨row', hrow', hv⟩ := hfound gameId hg saved hline'
      refine ⟨row', hrow', hv.trans ?_⟩
      rw [hverdict row (hid ▸ hrow)]
      unfold Verdict.afterCrawl
      rw [List.foldl_cons, if_pos hid]
    · rw [if_neg hid, hrow] at hline'
      obtain ⟨row', hrow', hv⟩ := hfound gameId hg row hline'
      refine ⟨row', hrow', hv.trans ?_⟩
      unfold Verdict.afterCrawl
      rw [List.foldl_cons, if_neg hid]

theorem upsertMany_ok (formats : Formats) {db db' : Db} {ids : Sequences} {games : List IGameData}
    (h : upsertMany formats db ids games = .ok db')
    (hnamed : ∀ data ∈ games, ∃ home away, NamedBy data home away)
    (hinv : ∀ r ∈ db.games.rows, GameInv db r) :
    db'.registeredGames = db.registeredGames ∧ (∀ r ∈ db'.games.rows, GameInv db' r) ∧
      ∀ gameId, (∃ r ∈ db.registeredGames.rows, r.game = gameId) →
        ∀ row, db.games.find? gameId = some row →
          ∃ row', db'.games.find? gameId = some row' ∧
            row'.verdict = row.verdict.afterCrawl gameId games := by
  rw [upsertMany_eq] at h
  exact saveGames_ok formats h hnamed hinv

end VictoryFairy
