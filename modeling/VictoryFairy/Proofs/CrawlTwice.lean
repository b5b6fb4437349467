import VictoryFairy.Proofs.GameIds
import VictoryFairy.Proofs.Recrawl

/-!
# The same crawl twice

After a crawl that commits, every line finds its teams, its stadium and its own row, and
nothing it would delete.  So the same lines change nothing when they are saved again.  A team
that is no text is the exception: the next crawl does not find it, and inserts its text again.

    saveGameData_settled : what a saved line leaves
    Settled.step         : no later line of the batch undoes it
    saveGameData_again   : saving the line again changes nothing
    crawl_idempotent_iff : the same batch again
-/

namespace VictoryFairy

open Runs Numbering

/-! ## A line that is stored -/

section

variable (formats : Formats)

/-- The row under the id of the line says what saving the line would. -/
def Stored (db : Db) (data : IGameData) (row : GameRow) : Prop :=
  IsGame formats db row data ∧ (data.status = finished → row.winningTeam = row.winnerOf)

/-- Saving the line again is possible and has nothing to do. -/
structure Settled (db : Db) (data : IGameData) : Prop where
  valid : ValidLine formats data
  unregistered : ∀ r ∈ db.registeredGames.rows, ¬ Deletes data r.game
  deleted : ∀ o ∈ db.games.rows, ¬ Deletes data o.id
  stored : ∃ row ∈ db.games.rows, Stored formats db data row ∧ ∀ o ∈ db.games.rows,
    o.date = row.date → o.time = row.time → o.stadium = row.stadium → o = row

end

section

variable {formats : Formats} {db db' : Db} {crawl crawl' : Crawl} {data d : IGameData}

theorem not_deletes_self (data : IGameData) : ¬ Deletes data data.id := by
  rintro ⟨hzero, hid⟩
  have hends : endsWithZero (sliceLast data.id ++ "0") = true := by
    unfold endsWithZero
    rw [String.toList_append]
    simp
  rw [← hid, hzero] at hends
  exact Bool.false_ne_true hends

/-- The winner of a finished game is the one its scores give; another game keeps its own. -/
theorem saveGameData_winner (h : saveGameData formats (db, crawl) data = .ok (db', crawl'))
    {row : GameRow} (hrow : row ∈ db'.games.rows) (hid : row.id = data.id) :
    row.winningTeam = if data.status = finished then row.winnerOf
      else (db.games.find? data.id).bind GameRow.winningTeam := by
  obtain ⟨date, time, homeTeam, awayTeam, stadium, db3, db4, -, -, hlooks, -, hdelete, hupsert⟩ :=
    saveGameData_iff.1 h
  obtain ⟨hgames, -, -, -, -⟩ := hlooks.teams
  obtain ⟨-, -, -, hfind4⟩ := deletePreDoubleHeader_ok hdelete
  obtain ⟨-, -, -, rfl⟩ := upsertGame_iff.1 hupsert
  have hstored : db4.games.find? data.id = db.games.find? data.id := by
    rw [hfind4 data.id (Or.inl rfl), hgames]
  rw [Db.withGames_games] at hrow
  rcases Table.mem_save.1 hrow with rfl | ⟨-, hne⟩
  · rw [← hstored]
    unfold Game.CreateProps.savedRow lineProps GameRow.winnerOf
    dsimp only
    split
    · next hfinished => rw [hfinished]
    · rfl
  · exact absurd hid hne

/-- **What a saved line leaves.** -/
theorem saveGameData_settled (h : saveGameData formats (db, crawl) data = .ok (db', crawl')) :
    Settled formats db' data := by
  obtain ⟨row, hsaves⟩ := saveGameData_saved h
  have hmem : row ∈ db'.games.rows := (hsaves.rows row).2 (Or.inl rfl)
  refine ⟨hsaves.valid, ?_, fun o ho hdel => ?_, row, hmem, ⟨hsaves.isGame, fun hfinished =>
    (saveGameData_winner h hmem hsaves.isGame.id).trans (if_pos hfinished)⟩,
    fun o ho hdate htime hstadium => ?_⟩
  · rw [hsaves.registrations]
    exact hsaves.unregistered
  · rcases (hsaves.rows o).1 ho with rfl | ⟨-, hkept⟩
    · rw [hsaves.isGame.id] at hdel
      exact not_deletes_self data hdel
    · exact hkept (Or.inr hdel)
  · rcases (hsaves.rows o).1 ho with rfl | ⟨hold, hkept⟩
    · rfl
    · exact absurd (hsaves.free o hold ⟨hdate ▸ hsaves.isGame.date, htime ▸ hsaves.isGame.time,
        hstadium ▸ hsaves.isGame.stadium⟩) hkept

/-- A later line that neither replaces the game nor is what it has replaced. -/
theorem Settled.step (hs : Settled formats db d)
    (h : saveGameData formats (db, crawl) data = .ok (db', crawl')) (hkept : ¬ Replaces data d.id)
    (hnew : ¬ Deletes d data.id) : Settled formats db' d := by
  obtain ⟨saved, hsaves⟩ := saveGameData_saved h
  obtain ⟨row, hrow, ⟨hgame, hwinner⟩, hslot⟩ := hs.stored
  rw [← hgame.id] at hkept
  refine ⟨hs.valid, ?_, fun o ho => ?_, row, (hsaves.rows row).2 (Or.inr ⟨hrow, hkept⟩),
    ⟨hgame.mono hsaves.names hsaves.stadiums, hwinner⟩, fun o ho hdate htime hstadium => ?_⟩
  · rw [hsaves.registrations]
    exact hs.unregistered
  · rcases (hsaves.rows o).1 ho with rfl | ⟨hold, -⟩
    · rw [hsaves.isGame.id]
      exact hnew
    · exact hs.deleted o hold
  · rcases (hsaves.rows o).1 ho with rfl | ⟨hold, -⟩
    · -- the new row would stand in the slot of the game
      exact absurd (hsaves.free row hrow ⟨hdate ▸ hsaves.isGame.date, htime ▸ hsaves.isGame.time,
        hstadium ▸ hsaves.isGame.stadium⟩) hkept
    · exact hslot o hold hdate htime hstadium

/-- An `upsert` of the line over its row writes the row. -/
theorem Stored.savedRow {row : GameRow} (h : Stored formats db data row) :
    (lineProps data row.date row.time row.homeTeam row.awayTeam row.stadium).savedRow (some row) =
      row := by
  obtain ⟨hgame, hwinner⟩ := h
  have hwins : (if row.status = finished then GameRow.winnerBy finished row.homeTeamScore
      row.awayTeamScore row.homeTeam row.awayTeam else (some row).bind GameRow.winningTeam) =
      row.winningTeam := by
    split
    · next hf =>
      rw [hwinner (hgame.status ▸ hf)]
      unfold GameRow.winnerOf
      rw [hf]
    · rfl
  unfold Game.CreateProps.savedRow lineProps
  dsimp only
  rw [← hgame.id, ← hgame.status, ← hgame.homeTeamScore, ← hgame.awayTeamScore, hwins]

/-- A text is found where it is stored. -/
theorem TeamNamed.found {name : String} {id : Nat} (h : TeamNamed db (some (.text name)) id)
    (crawl : Crawl) : ∃ team : Team, team.id = id ∧
      findOrInsertTeam db ((some (.text name)).bind (crawl.findTeam db)) (some (.text name)) crawl =
        .ok (db, team, crawl) := by
  obtain ⟨s, team, hs, hteam, hid⟩ := h
  obtain rfl := Except.ok.inj (Option.some.inj hs)
  refine ⟨team, hid, ?_⟩
  rw [Option.bind_some, show crawl.findTeam db (.text name) = teamNamed db name from rfl, hteam]
  rfl

/-- The teams of the line are texts. -/
def TextTeams (data : IGameData) : Prop :=
  ∀ property, data.homeTeam ≠ some (.inherited property) ∧ data.awayTeam ≠ some (.inherited property)

theorem TextTeams.found (htexts : TextTeams data) {row : GameRow} (h : IsGame formats db row data)
    (crawl : Crawl) : ∃ homeTeam awayTeam : Team, homeTeam.id = row.homeTeam ∧
      awayTeam.id = row.awayTeam ∧
      findOrInsertTeam db (data.homeTeam.bind (crawl.findTeam db)) data.homeTeam crawl =
        .ok (db, homeTeam, crawl) ∧
      findOrInsertTeam db (data.awayTeam.bind (crawl.findTeam db)) data.awayTeam crawl =
        .ok (db, awayTeam, crawl) := by
  have htext : ∀ {name : Option TeamName} {id : Nat}, TeamNamed db name id →
      (∀ property, name ≠ some (.inherited property)) → ∃ team : Team, team.id = id ∧
        findOrInsertTeam db (name.bind (crawl.findTeam db)) name crawl = .ok (db, team, crawl) := by
    intro name id hnamed hno
    obtain ⟨n, rfl⟩ := hnamed.known
    cases n with
    | text name => exact hnamed.found crawl
    | inherited property => exact absurd rfl (hno property)
  obtain ⟨homeTeam, hhomeId, hhome⟩ := htext h.homeTeam fun property => (htexts property).1
  obtain ⟨awayTeam, hawayId, haway⟩ := htext h.awayTeam fun property => (htexts property).2
  exact ⟨homeTeam, awayTeam, hhomeId, hawayId, hhome, haway⟩

/-- Two texts with one id are one text. -/
theorem TextTeams.same (htexts : TextTeams data) {id : Nat} (hhome : TeamNamed db data.homeTeam id)
    (haway : TeamNamed db data.awayTeam id) : data.homeTeam = data.awayTeam := by
  have hcolumn := hhome.column_unique haway
  obtain ⟨home, hhomeName⟩ := hhome.known
  obtain ⟨away, hawayName⟩ := haway.known
  rw [hhomeName, hawayName] at hcolumn ⊢
  cases home with
  | inherited property => exact absurd hhomeName (htexts property).1
  | text home =>
    cases away with
    | inherited property => exact absurd hawayName (htexts property).2
    | text away => exact congrArg (some <| TeamName.text ·) (Except.ok.inj (Option.some.inj hcolumn))

/-- **Saving the line again.** -/
theorem saveGameData_again (hs : Settled formats db data) (htexts : TextTeams data) (crawl : Crawl) :
    saveGameData formats (db, crawl) data = .ok (db, crawl) := by
  obtain ⟨row, hrow, ⟨hgame, hwinner⟩, hslot⟩ := hs.stored
  obtain ⟨homeTeam, awayTeam, hhomeId, hawayId, hhome, haway⟩ := htexts.found hgame crawl
  obtain ⟨stadium, hstadium, hstadiumId⟩ := hgame.stadium
  have hlooks : LooksUp db crawl data homeTeam awayTeam stadium db crawl := by
    refine ⟨db, crawl, db, crawl, hhome, haway, ?_⟩
    unfold findOrInsertStadium
    rw [hstadium]
  have hteams : homeTeam.id ≠ awayTeam.id := by
    intro he
    rw [hhomeId, hawayId] at he
    have hhomeNamed := hgame.homeTeam
    have hawayNamed := hgame.awayTeam
    rw [← he] at hawayNamed
    exact hs.valid.teams (htexts.same hhomeNamed hawayNamed)
  have hdelete : db.deletePreDoubleHeader data.id = .ok db := by
    refine deletePreDoubleHeader_iff.2 ⟨hs.unregistered, ?_⟩
    cases hzero : endsWithZero data.id with
    | true => rfl
    | false =>
      rw [if_neg Bool.false_ne_true, Table.remove_of_absent fun o ho he => hs.deleted o ho ⟨hzero, he⟩]
      rfl
  have hfound : db.games.find? data.id = some row := by
    rw [← hgame.id]
    exact Table.find?_of_mem hrow
  have hsaved := Stored.savedRow ⟨hgame, hwinner⟩
  rw [← hhomeId, ← hawayId, ← hstadiumId] at hsaved
  refine saveGameData_iff.2 ⟨row.date, row.time, homeTeam, awayTeam, stadium, db, db, hgame.date,
    hgame.time, hlooks, hteams, hdelete, ?_⟩
  refine upsertGame_iff.2 ⟨hs.valid.status, hs.valid.fits, fun o ho hne hsame => hne ?_, ?_⟩
  · obtain ⟨hdate, htime, hplace⟩ := hsame
    rw [hslot o ho hdate htime (hplace.trans hstadiumId)]
    exact hgame.id
  · show db = db.withGames (db.games.save (Game.CreateProps.savedRow _ (db.games.find? data.id)))
    rw [hfound, hsaved, Table.save_of_find? (Table.find?_of_mem hrow)]
    rfl

end

/-! ## A batch -/

section

variable {formats : Formats} {db db' : Db} {ids : Sequences} {games : List IGameData}

theorem saveGames_settled {s s' : Db × Crawl}
    (h : games.foldlM (saveGameData formats) s = .ok s') (hnodup : (games.map IGameData.id).Nodup)
    (hdeletes : ∀ d ∈ games, ∀ g ∈ games, ¬ Deletes d g.id) :
    (∀ g ∈ games, Settled formats s'.1 g) ∧
      ∀ d, Settled formats s.1 d → (∀ g ∈ games, ¬ Replaces g d.id ∧ ¬ Deletes d g.id) →
        Settled formats s'.1 d := by
  induction games generalizing s with
  | nil =>
    cases h
    exact ⟨fun g hg => absurd hg List.not_mem_nil, fun d hd _ => hd⟩
  | cons data games ih =>
    rw [List.foldlM_cons] at h
    obtain ⟨⟨db1, ids1⟩, hline, hrest⟩ := bind_eq_ok.1 h
    obtain ⟨hfresh, hnodup⟩ := List.nodup_cons.1 hnodup
    obtain ⟨hall, hkeep⟩ := ih hrest hnodup fun d hd g hg =>
      hdeletes d (List.mem_cons_of_mem _ hd) g (List.mem_cons_of_mem _ hg)
    refine ⟨fun g hg => ?_, fun d hd hapart => ?_⟩
    · rcases List.mem_cons.1 hg with rfl | hg
      · refine hkeep g (saveGameData_settled hline) fun e he => ⟨?_, hdeletes g List.mem_cons_self e
          (List.mem_cons_of_mem _ he)⟩
        rintro (hid | hdel)
        · exact hfresh (hid ▸ List.mem_map_of_mem he)
        · exact hdeletes e (List.mem_cons_of_mem _ he) g List.mem_cons_self hdel
      · exact hall g hg
    · obtain ⟨hkept, hnew⟩ := hapart data List.mem_cons_self
      exact hkeep d (hd.step hline hkept hnew) fun g hg => hapart g (List.mem_cons_of_mem _ hg)

theorem upsertMany_again (h : ∀ g ∈ games, Settled formats db g) (htexts : ∀ g ∈ games, TextTeams g)
    (ids : Sequences) : upsertMany formats db ids games = .ok db := by
  have hfold : games.foldlM (saveGameData formats) (db, ids.begin) = .ok (db, ids.begin) := by
    induction games with
    | nil => rfl
    | cons data games ih =>
      rw [List.foldlM_cons]
      exact bind_eq_ok.2 ⟨_, saveGameData_again (h data List.mem_cons_self)
        (htexts data List.mem_cons_self) ids.begin, ih (fun g hg => h g (List.mem_cons_of_mem _ hg))
          fun g hg => htexts g (List.mem_cons_of_mem _ hg)⟩
  exact bind_eq_ok.2 ⟨_, hfold, rfl⟩

/-- A batch that is saved names its teams. -/
theorem upsertMany_known (h : upsertMany formats db ids games = .ok db') :
    ∀ data ∈ games, data.homeTeam ≠ none ∧ data.awayTeam ≠ none := by
  rw [upsertMany_eq] at h
  generalize ids.begin = crawl at h
  induction games generalizing db crawl with
  | nil => exact fun data hd => absurd hd List.not_mem_nil
  | cons first games ih =>
    obtain ⟨⟨db1, crawl1⟩, hline, hrest⟩ := saveGames_cons.1 h
    intro data hd
    rcases List.mem_cons.1 hd with rfl | hd
    · obtain ⟨row, hsaves⟩ := saveGameData_saved hline
      exact hsaves.named
    · exact ih crawl1 hrest data hd

/-- **A team that is no text.**  Once it is saved, no crawl with it commits. -/
theorem inherited_rejected {property s : String}
    (hnames : ∀ n ∈ teamsOf games, IsTeamName n) (hmem : .inherited property ∈ teamsOf games)
    (hs : (TeamName.inherited property).column = .ok s) (hstored : teamNamed db s ≠ none) :
    upsertMany formats db ids games ≠ .ok db' := by
  intro h
  rw [upsertMany_eq] at h
  obtain ⟨hteams, -⟩ := saveGames_inserts hnames h
  have hnew : .inherited property ∈ newTeams db ids.begin (teamsOf games) :=
    mem_newKeys.2 ⟨hmem, rfl⟩
  obtain ⟨s', hs', hnone⟩ := hteams.columns _ hnew
  obtain rfl := Except.ok.inj (hs.symm.trans hs')
  exact hstored hnone

end

/-! ## The ids of a batch -/

section

variable {year : Nat} {schedule : List IGameData}
  (hlines : ∀ data ∈ schedule, ∃ home away, NamedLine year data home away)

include hlines

/-- A game that another one deletes stands before it, and has its teams ten times that day. -/
theorem deletes_place {i j : Nat} {d g : IGameData} (hi : (processDoubleHeader schedule)[i]? = some d)
    (hj : (processDoubleHeader schedule)[j]? = some g) (hdel : Deletes d g.id) :
    j < i ∧ ∃ game ∈ schedule, 10 ≤ schedule.countP (sameMatchup game) := by
  rw [processDoubleHeader_eq hlines, getElem?_numbered] at hi hj
  obtain ⟨game, hgame, rfl⟩ := Option.map_eq_some_iff.1 hi
  obtain ⟨other, hother, rfl⟩ := Option.map_eq_some_iff.1 hj
  obtain ⟨home, away, hline⟩ := hlines game (List.mem_of_getElem? hgame)
  obtain ⟨home', away', hline'⟩ := hlines other (List.mem_of_getElem? hother)
  obtain ⟨hzero, hid⟩ := hdel
  rw [endsWithZero_matchupId, decide_eq_false_iff_not] at hzero
  rw [sliceLast_matchupId] at hid
  obtain ⟨hsame, hplace⟩ := matchupId_inj hline' hline hid
  have hcongr := sameMatchup_congr hsame
  -- the numbers start at one, so the deleted number is not below ten
  have hcount : 1 < schedule.countP (sameMatchup game) := by
    by_contra hfew
    have hnumber : place schedule i game = 0 := if_neg hfew
    rw [hnumber] at hzero
    exact hzero rfl
  have hself : sameMatchup other other = true := sameMatchup_iff.2 ⟨rfl, rfl, rfl⟩
  have hfirst : 0 < place schedule j other := by
    unfold place
    rw [hcongr] at hcount
    rw [if_pos hcount]
    refine List.countP_pos_iff.2 ⟨other, ?_, hself⟩
    exact List.mem_of_getElem? ((List.getElem?_take_of_lt (Nat.lt_succ_self j)).trans hother)
  have hle := place_le schedule i game
  refine ⟨?_, game, List.mem_of_getElem? hgame, by omega⟩
  by_contra hlate
  have hmono : place schedule i game ≤ place schedule j other := by
    unfold place
    rw [← hcongr, if_pos hcount, if_pos hcount]
    exact (List.take_sublist_take_left (by omega)).countP_le
  omega

end

/-- The lines of a table whose games are saved have two known teams. -/
theorem lines_named {formats : Formats} {db db' : Db} {ids : Sequences} {year : Nat}
    {rows : List (List String)} {schedule : List IGameData}
    (hread : refineGamesData formats year "" rows = .ok schedule)
    (h : upsertMany formats db ids (processDoubleHeader schedule) = .ok db') :
    ∀ data ∈ schedule, ∃ home away, NamedLine year data home away := by
  intro data hd
  obtain ⟨home, away, hline⟩ := refineGamesData_fromLine formats hread data hd
  obtain ⟨hhome, haway⟩ := known_of_processed (upsertMany_known h) data hd
  rw [hline.homeTeam] at hhome
  rw [hline.awayTeam] at haway
  exact ⟨home, away, { hline with
    homeKnown := Option.ne_none_iff_exists'.1 hhome
    awayKnown := Option.ne_none_iff_exists'.1 haway }⟩

/-- Numbering keeps the teams. -/
theorem teamsOf_processed (schedule : List IGameData) :
    teamsOf (processDoubleHeader schedule) = teamsOf schedule := by
  unfold teamsOf
  rw [List.flatMap_def, List.flatMap_def, processDoubleHeader_map fun result game hgame => ?_]
  unfold numberGame
  dsimp only
  split <;> rfl

theorem textTeams_iff {games : List IGameData} : (∀ data ∈ games, TextTeams data) ↔
    ∀ property, .inherited property ∉ teamsOf games := by
  unfold TextTeams teamsOf
  constructor
  · intro h property hmem
    obtain ⟨data, hd, hmem⟩ := List.mem_flatMap.1 hmem
    rcases List.mem_append.1 hmem with hmem | hmem
    · exact (h data hd property).1 (Option.mem_toList.1 hmem)
    · exact (h data hd property).2 (Option.mem_toList.1 hmem)
  · intro h data hd property
    refine ⟨fun he => h property ?_, fun he => h property ?_⟩
    · exact List.mem_flatMap.2 ⟨data, hd, List.mem_append_left _ (Option.mem_toList.2 he)⟩
    · exact List.mem_flatMap.2 ⟨data, hd, List.mem_append_right _ (Option.mem_toList.2 he)⟩

/-- **The daily crawl again.**  A batch that commits commits again and changes nothing, whatever
ids the sequences have got to, exactly when all its teams are texts. -/
theorem crawl_idempotent_iff (formats : Formats) (db db' : Db) (ids again : Sequences) (year : Nat)
    (rows : List (List String)) (schedule : List IGameData)
    (hread : refineGamesData formats year "" rows = .ok schedule)
    (hplaces : ∀ game ∈ schedule, schedule.countP (sameMatchup game) ≤ 9)
    (h : upsertMany formats db ids (processDoubleHeader schedule) = .ok db') :
    upsertMany formats db' again (processDoubleHeader schedule) = .ok db' ↔
      ∀ data ∈ schedule, TextTeams data := by
  have hlines := lines_named hread h
  have hnames : ∀ n ∈ teamsOf (processDoubleHeader schedule), IsTeamName n := by
    intro n hn
    rw [teamsOf_processed] at hn
    obtain ⟨data, hd, hn⟩ := List.mem_flatMap.1 hn
    obtain ⟨home, away, hline⟩ := hlines data hd
    rcases List.mem_append.1 hn with hn | hn
    · exact ⟨home, hline.homeTeam.symm.trans (Option.mem_toList.1 hn)⟩
    · exact ⟨away, hline.awayTeam.symm.trans (Option.mem_toList.1 hn)⟩
  rw [textTeams_iff, ← teamsOf_processed]
  constructor
  · intro hagain property hmem
    rw [upsertMany_eq] at h
    obtain ⟨s, team, hs, hteam, -⟩ := (saveGames_numbers hnames h).1 _ hmem
    refine inherited_rejected hnames hmem (Option.some.inj hs) ?_ hagain
    rw [hteam]
    exact nofun
  · intro htexts
    have hdeletes : ∀ d ∈ processDoubleHeader schedule, ∀ g ∈ processDoubleHeader schedule,
        ¬ Deletes d g.id := by
      intro d hd g hg hdel
      obtain ⟨i, hi⟩ := List.mem_iff_getElem?.1 hd
      obtain ⟨j, hj⟩ := List.mem_iff_getElem?.1 hg
      obtain ⟨-, game, hgame, hten⟩ := deletes_place hlines hi hj hdel
      exact absurd (hplaces game hgame) (by omega)
    have hnodup : ((processDoubleHeader schedule).map IGameData.id).Nodup := by
      refine @ids_nodup year schedule fun data hd => ?_
      obtain ⟨home, away, hline⟩ := hlines data hd
      exact ⟨home, away, hline.toFromLine, hline.homeKnown, hline.awayKnown⟩
    obtain ⟨s, hfold, hdb⟩ := bind_eq_ok.1 h
    obtain rfl := Except.ok.inj hdb
    exact upsertMany_again (saveGames_settled hfold hnodup hdeletes).1 (textTeams_iff.2 htexts) again

/-- The two lines of the double header, before they are numbered. -/
def doubleLines : List IGameData :=
  doubleHeader.map fun data => { data with id := "20250601LGOB0" }

theorem crawl_idempotent_doubleHeader : ∃ db',
    upsertMany doubleHeaderFormats fanDb ⟨1, 1⟩ doubleHeader = .ok db' ∧
      (upsertMany doubleHeaderFormats db' ⟨3, 2⟩ doubleHeader = .ok db' ↔
        ∀ data ∈ doubleLines, TextTeams data) := by
  have hnumbered : processDoubleHeader doubleLines = doubleHeader := by decide +kernel
  have hread : refineGamesData doubleHeaderFormats 2025 "" (doubleTable.map extractTextFromHtml) =
      .ok doubleLines := by decide +kernel
  have hcommits : (upsertMany doubleHeaderFormats fanDb ⟨1, 1⟩ doubleHeader).isOk = true := by
    decide +kernel
  cases hfirst : upsertMany doubleHeaderFormats fanDb ⟨1, 1⟩ doubleHeader with
  | error e =>
    rw [hfirst] at hcommits
    cases hcommits
  | ok db' =>
    rw [← hnumbered] at hfirst
    have hagain := crawl_idempotent_iff doubleHeaderFormats fanDb db' ⟨1, 1⟩ ⟨3, 2⟩ 2025
      (doubleTable.map extractTextFromHtml) doubleLines hread (by decide +kernel) hfirst
    rw [hnumbered] at hagain
    exact ⟨db', rfl, hagain⟩

/-- A day whose away team is what every object inherits from. -/
def protoTable : List (List String) :=
  [["06.01(일)", "<b>14:00</b>", "<span>__proto__</span><em>vs</em><span>LG</span>", "<a>프리뷰</a>",
    "", "", "", "잠실", "-"]]

/-- Its one game. -/
def protoLines : List IGameData :=
  [{ id := "20250601[object Object]LG0", date := "2025-06-01", time := "14:00",
     homeTeam := some (.text "LG 트윈스"), awayTeam := some (.inherited "__proto__"), stadium := "잠실",
     status := preGame, homeScore := none, awayScore := none }]

/-- The day is saved with a team of the name of an empty object, and is not saved again. -/
theorem protoTable_rolledBack :
    refineGamesData doubleHeaderFormats 2025 "" (protoTable.map extractTextFromHtml) =
        .ok protoLines ∧
      (∀ game ∈ protoLines, protoLines.countP (sameMatchup game) ≤ 9) ∧
      ∃ db', upsertMany doubleHeaderFormats fanDb ⟨1, 1⟩ (processDoubleHeader protoLines) = .ok db' ∧
        upsertMany doubleHeaderFormats db' ⟨3, 2⟩ (processDoubleHeader protoLines) ≠ .ok db' := by
  refine ⟨by decide +kernel, by decide +kernel, ?_⟩
  have hagain : ((upsertMany doubleHeaderFormats fanDb ⟨1, 1⟩ (processDoubleHeader protoLines)).map
      fun db' => (upsertMany doubleHeaderFormats db' ⟨3, 2⟩ (processDoubleHeader protoLines)).isOk) =
        .ok false := by
    decide +kernel
  cases hfirst : upsertMany doubleHeaderFormats fanDb ⟨1, 1⟩ (processDoubleHeader protoLines) with
  | error e =>
    rw [hfirst] at hagain
    cases hagain
  | ok db' =>
    refine ⟨db', rfl, fun hok => ?_⟩
    rw [hfirst] at hagain
    have hrejected := Except.ok.inj hagain
    dsimp only at hrejected
    rw [hok] at hrejected
    cases hrejected

end VictoryFairy
