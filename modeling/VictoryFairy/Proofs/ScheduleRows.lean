import VictoryFairy.Proofs.DoubleHeader

/-!
# The rows of a table

A row of a game has nine columns, and only the first row of a day has a cell for the first
of them, the date.  The other rows of the day take it over.

    scheduleEntry_columns    : the columns that are read
    refineGamesData_append   : a table in two parts
    schedule_rows_dated      : the game of each row
-/

namespace VictoryFairy

/-! ## Columns -/

/-- A column of a row; the later rows of a day lack column 0. -/
def column (cells : List String) (k : Nat) : String := cells.getD (k + cells.length - 9) ""

/-- The first row of a day. -/
def isDayRow (cells : List String) : Bool := cells.length = 9

def isGameRow (cells : List String) : Bool := cells.length = 8 || isDayRow cells

/-- The columns that are read; the others are the videos and the channels. -/
def rowEntry (cells : List String) : ScheduleEntry where
  date := if isDayRow cells then some (column cells 0) else none
  time := column cells 1
  game := column cells 2
  review := column cells 3
  stadium := column cells 7
  status := column cells 8

theorem scheduleEntry_columns {cells : List String} (h : isGameRow cells = true) :
    scheduleEntry cells = some (rowEntry cells) := by
  have hlength : cells.length = 8 ∨ cells.length = 9 := by
    simpa [isGameRow, isDayRow] using h
  rcases hlength with h8 | h9
  · obtain ⟨time, game, review, a, b, c, stadium, status, rfl⟩ :
        ∃ time game review a b c stadium status,
          cells = [time, game, review, a, b, c, stadium, status] := by
      match cells, h8 with
      | [time, game, review, a, b, c, stadium, status], _ =>
        exact ⟨time, game, review, a, b, c, stadium, status, rfl⟩
    rfl
  · obtain ⟨date, time, game, review, a, b, c, stadium, status, rfl⟩ :
        ∃ date time game review a b c stadium status,
          cells = [date, time, game, review, a, b, c, stadium, status] := by
      match cells, h9 with
      | [date, time, game, review, a, b, c, stadium, status], _ =>
        exact ⟨date, time, game, review, a, b, c, stadium, status, rfl⟩
    rfl

theorem scheduleEntry_other {cells : List String} (h : isGameRow cells = false) :
    scheduleEntry cells = none := by
  unfold scheduleEntry
  split
  · cases h
  · cases h
  · rfl

/-! ## The date that is carried on -/

section

variable (formats : Formats) (year : Nat)

/-- The current date after the rows. -/
def dateAfter (currentDate : String) (rows : List (List String)) : String :=
  rows.foldl (fun date cells => (scheduleEntry cells).elim date (nextDate formats year date))
    currentDate

theorem dateAfter_row {cells : List String} {entry : ScheduleEntry}
    (h : scheduleEntry cells = some entry) (currentDate : String) (rows : List (List String)) :
    dateAfter formats year currentDate (cells :: rows) =
      dateAfter formats year (nextDate formats year currentDate entry) rows := by
  unfold dateAfter
  rw [List.foldl_cons, h]
  rfl

theorem dateAfter_skip {cells : List String} (h : scheduleEntry cells = none) (currentDate : String)
    (rows : List (List String)) :
    dateAfter formats year currentDate (cells :: rows) = dateAfter formats year currentDate rows := by
  unfold dateAfter
  rw [List.foldl_cons, h]
  rfl

theorem refineGamesData_skip {cells : List String} (h : scheduleEntry cells = none)
    (currentDate : String) (rows : List (List String)) :
    refineGamesData formats year currentDate (cells :: rows) =
      refineGamesData formats year currentDate rows := by
  conv => lhs; unfold refineGamesData
  rw [h]

/-- A row without a date yet, or with a cell that is no matchup, or a game. -/
theorem refineGamesData_row {cells : List String} {entry : ScheduleEntry}
    (h : scheduleEntry cells = some entry) (currentDate : String) (rows : List (List String)) :
    refineGamesData formats year currentDate (cells :: rows) =
      if nextDate formats year currentDate entry = "" then
        refineGamesData formats year (nextDate formats year currentDate entry) rows
      else
        match getTeamAndScore entry.game with
        | none => .error .typeError
        | some (homeTeam, awayTeam) =>
          (refineGamesData formats year (nextDate formats year currentDate entry) rows).map
            (gameData (nextDate formats year currentDate entry) entry homeTeam awayTeam :: ·) := by
  conv => lhs; unfold refineGamesData
  rewrite [h]
  rfl

theorem refineGamesData_append (currentDate : String) (rows later : List (List String)) :
    refineGamesData formats year currentDate (rows ++ later) = do
      let games ← refineGamesData formats year currentDate rows
      let others ← refineGamesData formats year (dateAfter formats year currentDate rows) later
      return games ++ others := by
  induction rows generalizing currentDate with
  | nil =>
    rw [List.nil_append]
    show _ = (refineGamesData formats year currentDate later).bind fun others => .ok others
    cases refineGamesData formats year currentDate later <;> rfl
  | cons cells rows ih =>
    rw [List.cons_append]
    cases hentry : scheduleEntry cells with
    | none =>
      rw [refineGamesData_skip formats year hentry, refineGamesData_skip formats year hentry,
        dateAfter_skip formats year hentry]
      exact ih currentDate
    | some entry =>
      rw [refineGamesData_row formats year hentry, refineGamesData_row formats year hentry,
        dateAfter_row formats year hentry, ih]
      split
      · rfl
      · split
        · rfl
        · cases refineGamesData formats year (nextDate formats year currentDate entry) rows with
          | error e => rfl
          | ok games =>
            dsimp only [bind, Except.bind, Except.map, pure, Except.pure]
            cases refineGamesData formats year _ later <;> rfl

/-- Rows of other lengths are passed over. -/
theorem refineGamesData_filter (currentDate : String) (rows : List (List String)) :
    refineGamesData formats year currentDate (rows.filter isGameRow) =
      refineGamesData formats year currentDate rows := by
  induction rows generalizing currentDate with
  | nil => rfl
  | cons cells rows ih =>
    cases hrow : isGameRow cells with
    | false =>
      rw [List.filter_cons_of_neg (by rw [hrow]; exact Bool.false_ne_true), ih,
        refineGamesData_skip formats year (scheduleEntry_other hrow)]
    | true =>
      rw [List.filter_cons_of_pos hrow,
        refineGamesData_row formats year (scheduleEntry_columns hrow),
        refineGamesData_row formats year (scheduleEntry_columns hrow), ih]

end

/-! ## The game of each row -/

/-- The first row of the day of the row with this index: the nearest one up to it. -/
def dayRow (rows : List (List String)) (i : Nat) : Option (List String) :=
  ((rows.take (i + 1)).filter isDayRow).getLast?

/-- The rows of games, each with the first row of its day. -/
def gameRows (rows : List (List String)) : List (List String × List String) :=
  rows.zipIdx.filterMap fun (cells, i) =>
    if isGameRow cells then (dayRow rows i).map fun day => (day, cells) else none

/-- The game has the date of the first row of its day, and the values of its own row. -/
structure GameOfRow (year : Nat) (day cells : List String) (data : IGameData) : Prop where
  date : ∃ s, convertDateFormat (column day 0) = some s ∧ data.date = toString year ++ "-" ++ s
  time : data.time = column cells 1
  teams : ∃ home away, getTeamAndScore (column cells 2) = some (home, away) ∧
    data.homeTeam = (TTeam.lookup home.name).map .text ∧
    data.awayTeam = (TTeam.lookup away.name).map .text ∧
    data.homeScore = (if column cells 3 = "리뷰" then home.score else none) ∧
    data.awayScore = (if column cells 3 = "리뷰" then away.score else none)
  stadium : data.stadium = column cells 7
  status : data.status = if column cells 3 = "리뷰" then finished
    else if column cells 3 = "프리뷰" then preGame else column cells 8

section

variable (formats : Formats) (year : Nat)

/-- The current date after a day's first row. -/
def dayDate : Option (List String) → String
  | none => ""
  | some day => toString year ++ "-" ++ jsString (convertDateFormat (column day 0))

theorem dayDate_ne_empty (day : List String) : dayDate year (some day) ≠ "" := by
  intro h
  have hlist := congrArg String.toList h
  unfold dayDate at hlist
  rw [String.toList_append, String.toList_append] at hlist
  exact List.append_ne_nil_of_left_ne_nil
    (List.append_ne_nil_of_right_ne_nil _ (by decide)) _ hlist

/-- The first row of the day once this row is read. -/
theorem lastDay_concat (before : List (List String)) (cells : List String) :
    ((before ++ [cells]).filter isDayRow).getLast? =
      if isDayRow cells then some cells else (before.filter isDayRow).getLast? := by
  rw [List.filter_append, List.filter_singleton]
  cases isDayRow cells with
  | true => exact List.getLast?_concat
  | false => exact congrArg List.getLast? (List.append_nil _)

theorem nextDate_dayDate {cells : List String} (day : Option (List String))
    (hdate : isDayRow cells = true →
      (convertDateFormat (column cells 0)).isSome ∧ formats.isNotTimeFormat (column cells 0) = true) :
    nextDate formats year (dayDate year day) (rowEntry cells) =
      dayDate year (if isDayRow cells then some cells else day) := by
  unfold nextDate rowEntry
  cases hday : isDayRow cells with
  | false => rfl
  | true =>
    obtain ⟨hsome, hformat⟩ := hdate hday
    have hne : column cells 0 ≠ "" := by
      intro he
      rw [he] at hsome
      exact absurd hsome (by decide)
    rw [if_pos rfl, if_pos rfl]
    exact if_pos ⟨hne, hformat⟩

variable {formats year}

/-- The row of a game on a known day is the next game. -/
theorem refineGamesData_dated {day cells : List String} {rows : List (List String)}
    {date : String} {games : List IGameData} {home away : ITeamAndScore}
    (hrow : isGameRow cells = true)
    (hnext : nextDate formats year date (rowEntry cells) = dayDate year (some day))
    (hday : (convertDateFormat (column day 0)).isSome)
    (hteams : getTeamAndScore (column cells 2) = some (home, away))
    (hhome : (TTeam.lookup home.name).isSome) (haway : (TTeam.lookup away.name).isSome)
    (hok : refineGamesData formats year (dayDate year (some day)) rows = .ok games) :
    ∃ data, refineGamesData formats year date (cells :: rows) = .ok (data :: games) ∧
      GameOfRow year day cells data := by
  have hparse : getTeamAndScore (rowEntry cells).game = some (home, away) := hteams
  rw [refineGamesData_row formats year (scheduleEntry_columns hrow), hnext,
    if_neg (dayDate_ne_empty year day), hparse]
  dsimp only
  rw [hok]
  refine ⟨_, rfl, ?_, rfl, ⟨home, away, hteams, teamName_own hhome, teamName_own haway, rfl, rfl⟩,
    rfl, rfl⟩
  obtain ⟨s, hs⟩ := Option.isSome_iff_exists.1 hday
  refine ⟨s, hs, ?_⟩
  show dayDate year (some day) = _
  unfold dayDate
  dsimp only
  rw [hs]
  rfl

theorem refineGamesData_rows {all before rows : List (List String)} (hall : all = before ++ rows)
    (hdates : ∀ cells ∈ rows, isDayRow cells = true →
      (convertDateFormat (column cells 0)).isSome ∧ formats.isNotTimeFormat (column cells 0) = true)
    (hgames : ∀ cells ∈ rows, isGameRow cells = true →
      ∃ home away, getTeamAndScore (column cells 2) = some (home, away) ∧
        (TTeam.lookup home.name).isSome ∧ (TTeam.lookup away.name).isSome)
    (hbefore : ∀ day ∈ (before.filter isDayRow).getLast?, (convertDateFormat (column day 0)).isSome) :
    ∃ games, refineGamesData formats year (dayDate year (before.filter isDayRow).getLast?) rows =
        .ok games ∧
      List.Forall₂ (fun row data => GameOfRow year row.1 row.2 data)
        ((rows.zipIdx before.length).filterMap fun (cells, i) =>
          if isGameRow cells then (dayRow all i).map fun day => (day, cells) else none) games := by
  induction rows generalizing before with
  | nil => exact ⟨[], rfl, .nil⟩
  | cons cells rows ih =>
    have hdate := hdates cells List.mem_cons_self
    have hlast := lastDay_concat before cells
    have hday : dayRow all before.length = ((before ++ [cells]).filter isDayRow).getLast? := by
      unfold dayRow
      rw [hall, List.take_append, List.take_of_length_le (Nat.le_succ _), Nat.add_sub_cancel_left]
      rfl
    have hdated : ∀ day ∈ ((before ++ [cells]).filter isDayRow).getLast?,
        (convertDateFormat (column day 0)).isSome := by
      rw [hlast]
      split
      · next hd =>
        intro day hmem
        obtain rfl := Option.some.inj hmem
        exact (hdate hd).1
      · exact hbefore
    have hall' : all = (before ++ [cells]) ++ rows := by
      rw [hall, List.append_assoc]
      rfl
    obtain ⟨games, hok, hrows⟩ := ih hall'
      (fun c hc => hdates c (List.mem_cons_of_mem _ hc))
      (fun c hc => hgames c (List.mem_cons_of_mem _ hc)) hdated
    rw [List.length_append, List.length_singleton] at hrows
    rw [List.zipIdx_cons]
    cases hrow : isGameRow cells with
    | false =>
      have hnoDay : isDayRow cells = false := by
        unfold isGameRow at hrow
        exact (Bool.or_eq_false_iff.1 hrow).2
      rw [hlast, hnoDay, if_neg Bool.false_ne_true] at hok
      rw [refineGamesData_skip formats year (scheduleEntry_other hrow), List.filterMap_cons_none]
      · exact ⟨games, hok, hrows⟩
      · dsimp only
        rw [hrow, if_neg Bool.false_ne_true]
    | true =>
      have hnext := nextDate_dayDate formats year (before.filter isDayRow).getLast? hdate
      rw [← hlast] at hnext
      cases hopen : ((before ++ [cells]).filter isDayRow).getLast? with
      | none =>
        rw [hopen] at hok hday hnext
        rw [refineGamesData_row formats year (scheduleEntry_columns hrow), hnext,
          List.filterMap_cons_none]
        · exact ⟨games, hok, hrows⟩
        · dsimp only
          rw [hday, Option.map_none, ite_self]
      | some day =>
        rw [hopen] at hok hday hnext
        obtain ⟨home, away, hteams, hhome, haway⟩ := hgames cells List.mem_cons_self hrow
        obtain ⟨data, hread, hgame⟩ :=
          refineGamesData_dated hrow hnext (hdated day hopen) hteams hhome haway hok
        refine ⟨data :: games, hread, ?_⟩
        rw [List.filterMap_cons_some (b := (day, cells))]
        · exact .cons hgame hrows
        · dsimp only
          rw [hrow, if_pos rfl, hday]
          rfl

/-- **The rows of a table.**  Each row of a game from the first day on is one game, in order;
the other rows change nothing. -/
theorem schedule_rows_dated (formats : Formats) (year : Nat) (rows : List (List String))
    (hdates : ∀ cells ∈ rows, isDayRow cells = true →
      (convertDateFormat (column cells 0)).isSome ∧ formats.isNotTimeFormat (column cells 0) = true)
    (hgames : ∀ cells ∈ rows, isGameRow cells = true →
      ∃ home away, getTeamAndScore (column cells 2) = some (home, away) ∧
        (TTeam.lookup home.name).isSome ∧ (TTeam.lookup away.name).isSome) :
    ∃ games, refineGamesData formats year "" rows = .ok games ∧
      List.Forall₂ (fun row data => GameOfRow year row.1 row.2 data) (gameRows rows) games ∧
      refineGamesData formats year "" (rows.filter isGameRow) = .ok games := by
  obtain ⟨games, hok, hrows⟩ := @refineGamesData_rows formats year rows [] rows rfl hdates hgames
    (fun day hday => nomatch hday)
  refine ⟨games, hok, hrows, ?_⟩
  rw [refineGamesData_filter]
  exact hok

end

/-- A clock time is `18:30` here. -/
def eveningFormats : Formats where
  isNotTimeFormat value := value ≠ "18:30"
  castDate _ := none
  castTime _ := none

def eveningRow : List String := ["18:30", "LG3vs5두산", "리뷰", "", "", "", "잠실", "-"]

def firstRow : List String := ["06.01(일)", "14:00", "KTvs한화", "프리뷰", "", "", "", "대전(신)", "-"]

theorem schedule_rows_dated_day : ∃ games,
    refineGamesData eveningFormats 2025 "" [eveningRow, firstRow, ["-"], eveningRow] = .ok games ∧
      List.Forall₂ (fun row data => GameOfRow 2025 row.1 row.2 data)
        [(firstRow, firstRow), (firstRow, eveningRow)] games := by
  obtain ⟨games, hok, hrows, -⟩ := schedule_rows_dated eveningFormats 2025
    [eveningRow, firstRow, ["-"], eveningRow] (by decide +kernel) (by
      intro cells hc hrow
      have hcells : cells = eveningRow ∨ cells = firstRow := by
        simp only [List.mem_cons, List.not_mem_nil, or_false] at hc
        rcases hc with rfl | rfl | rfl | rfl
        · exact Or.inl rfl
        · exact Or.inr rfl
        · cases hrow
        · exact Or.inl rfl
      rcases hcells with rfl | rfl
      · exact ⟨⟨"두산", some 5⟩, ⟨"LG", some 3⟩, by decide +kernel⟩
      · exact ⟨⟨"한화", none⟩, ⟨"KT", none⟩, by decide +kernel⟩)
  exact ⟨games, hok, hrows⟩

end VictoryFairy
