import VictoryFairy.Model.GameQuery
import VictoryFairy.Proofs.Recrawl

/-!
# Ids and their readers

`matchupId` is what the id of a game is meant to be: the date, the codes of the away and the
home team, and a number.  `place` is that number: `0` for the only game of the two teams on
that day, else how many there are up to it.

    processDoubleHeader_eq : the ids of a table are these
    gameType_of_id, teamKey_of_id, deletedId_of_id
                           : what the readers find in such an id
    gameIds_decoded        : all together, for a table of known teams and dates
-/

namespace VictoryFairy

/-! ## What an id says -/

/-- The code of a team by its full name; what is inherited has its text for a code. -/
def codeOf : Option TeamName → String
  | some (.text team) =>
    jsString ((TTeam.find? fun p => p.2 = team).bind fun p => teamNameToTeamId.lookup p.1)
  | some (.inherited property) => jsString ((objectPrototype.lookup property).map Inherited.text)
  | none => jsString none

/-- The id without its number. -/
def matchupBase (data : IGameData) : String :=
  String.ofList (dateDigits data.date) ++ codeOf data.awayTeam ++ codeOf data.homeTeam

def matchupId (data : IGameData) (number : Nat) : String := matchupBase data ++ toString number

/-- The same teams on the same day, at the same place. -/
def sameMatchup (data other : IGameData) : Bool :=
  other.date = data.date && other.awayTeam = data.awayTeam && other.homeTeam = data.homeTeam

/-- The number of the game with this index: its place among the games of its teams on its day. -/
def place (schedule : List IGameData) (i : Nat) (game : IGameData) : Nat :=
  if 1 < schedule.countP (sameMatchup game) then (schedule.take (i + 1)).countP (sameMatchup game)
  else 0

/-- A line of a table whose teams are known. -/
structure NamedLine (year : Nat) (data : IGameData) (home away : String) : Prop
    extends FromLine year data home away where
  homeKnown : ∃ v, teamName home = some v
  awayKnown : ∃ v, teamName away = some v

/-- A line of a table whose teams are known, with a date that has a month and a day. -/
structure KnownLine (year : Nat) (data : IGameData) (home away : String) : Prop
    extends FromLine year data home away where
  monthAndDay : ∃ s, IsMonthAndDay s ∧ data.date = toString year ++ "-" ++ s
  homeKnown : ∃ v, teamName home = some v
  awayKnown : ∃ v, teamName away = some v

theorem codeOf_teamName : ∀ name ∈ tableNames, codeOf (teamName name) = teamCode name := by
  decide +kernel

theorem codeOf_known {name : String} (h : ∃ v, teamName name = some v) :
    codeOf (teamName name) = teamCode name :=
  codeOf_teamName name (mem_tableNames h)

section

variable {year : Nat} {data other : IGameData} {home away home' away' : String}

theorem KnownLine.named (h : KnownLine year data home away) : NamedLine year data home away :=
  { h with }

/-- The codes in the base. -/
theorem NamedLine.matchupBase_toList (h : NamedLine year data home away) :
    (matchupBase data).toList = dateDigits data.date ++ spelled home away := by
  unfold matchupBase spelled codeLetters
  rw [h.homeTeam, h.awayTeam, codeOf_known h.homeKnown, codeOf_known h.awayKnown,
    String.toList_append, String.toList_append, String.toList_ofList, List.append_assoc]

theorem NamedLine.base_eq (h : NamedLine year data home away) :
    sliceLast data.id = matchupBase data :=
  String.toList_injective (h.base.trans h.matchupBase_toList.symm)

/-- A line without its number is the first of its kind. -/
theorem NamedLine.id_eq_matchupId (h : NamedLine year data home away) :
    data.id = matchupId data 0 := by
  unfold matchupId
  rw [← h.base_eq]
  exact h.id_eq

theorem sameMatchup_iff : sameMatchup data other = true ↔
    other.date = data.date ∧ other.awayTeam = data.awayTeam ∧ other.homeTeam = data.homeTeam := by
  unfold sameMatchup
  simp [and_assoc]

/-- The base tells day and teams. -/
theorem matchupBase_inj (h : NamedLine year data home away) (h' : NamedLine year other home' away') :
    matchupBase other = matchupBase data ↔ sameMatchup data other = true := by
  rw [sameMatchup_iff]
  constructor
  · intro he
    have hids : sliceLast data.id ++ toString 0 = sliceLast other.id ++ toString 0 := by
      rw [h.base_eq, h'.base_eq, he]
    have hid := h.numbered 0
    rw [hids] at hid
    obtain ⟨hdate, rfl, rfl⟩ := hid.unique (h'.numbered 0) h.homeKnown h.awayKnown h'.homeKnown
      h'.awayKnown
    exact ⟨hdate.symm, h'.awayTeam.trans h.awayTeam.symm, h'.homeTeam.trans h.homeTeam.symm⟩
  · rintro ⟨hdate, haway, hhome⟩
    unfold matchupBase
    rw [hdate, haway, hhome]

/-- A numbered game starts like a line exactly when day and teams are the same. -/
theorem prefix_iff (h : NamedLine year data home away) (h' : NamedLine year other home' away')
    (number : Nat) :
    (sliceLast data.id).toList.isPrefixOf (matchupId other number).toList = true ↔
      sameMatchup data other = true := by
  rw [List.isPrefixOf_iff_prefix, ← matchupBase_inj h h']
  unfold matchupId
  rw [String.toList_append, ← h'.base_eq]
  constructor
  · intro hstarts
    have hsame := base_prefix h.toFromLine h'.toFromLine h.homeKnown h.awayKnown h'.homeKnown
      h'.awayKnown hstarts
    rw [← h.base_eq]
    exact hsame.symm
  · intro he
    rw [he, ← h.base_eq]
    exact List.prefix_append _ _

/-- An id tells the matchup and the number. -/
theorem matchupId_inj (h : NamedLine year data home away) (h' : NamedLine year other home' away')
    {m n : Nat} (heq : matchupId data m = matchupId other n) :
    sameMatchup data other = true ∧ m = n := by
  have hsame : sameMatchup data other = true := by
    rw [← prefix_iff h h' n, ← heq, h.base_eq, List.isPrefixOf_iff_prefix]
    unfold matchupId
    rw [String.toList_append]
    exact List.prefix_append _ _
  refine ⟨hsame, ?_⟩
  unfold matchupId at heq
  rw [(matchupBase_inj h h').2 hsame] at heq
  have hlists := congrArg String.toList heq
  rw [String.toList_append, String.toList_append] at hlists
  exact toString_injective (String.toList_injective (List.append_cancel_left hlists))

theorem sameMatchup_congr (h : sameMatchup data other = true) :
    sameMatchup other = sameMatchup data := by
  obtain ⟨hdate, haway, hhome⟩ := sameMatchup_iff.1 h
  unfold sameMatchup
  rw [hdate, haway, hhome]

end

/-! ## The numbers of a table -/

/-- The games a table is turned into. -/
def numbered (schedule games : List IGameData) : List IGameData :=
  games.mapIdx fun i game => { game with id := matchupId game (place schedule i game) }

section

variable {year : Nat} {schedule : List IGameData}
  (hlines : ∀ data ∈ schedule, ∃ home away, NamedLine year data home away)

include hlines

theorem count_base {game : IGameData} (hgame : game ∈ schedule) :
    (schedule.countP fun g => endsWithZero g.id && sliceLast g.id = sliceLast game.id) =
      schedule.countP (sameMatchup game) := by
  obtain ⟨home, away, hline⟩ := hlines game hgame
  refine List.countP_congr fun g hg => ?_
  obtain ⟨home', away', hline'⟩ := hlines g hg
  rw [hline'.endsWithZero, Bool.true_and, decide_eq_true_eq, hline'.base_eq, hline.base_eq]
  exact matchupBase_inj hline hline'

/-- Among the games so far, those that start like a line are those of its day and teams. -/
theorem count_numbered {done rest : List IGameData} {game : IGameData}
    (hschedule : schedule = done ++ game :: rest) :
    ((numbered schedule done).countP fun g => (sliceLast game.id).toList.isPrefixOf g.id.toList) =
      done.countP (sameMatchup game) := by
  obtain ⟨home, away, hline⟩ := hlines game (by rw [hschedule]; simp)
  unfold numbered
  rw [List.mapIdx_eq_zipIdx_map, List.countP_map]
  have hfst : done.countP (sameMatchup game) =
      (done.zipIdx).countP (sameMatchup game ∘ Prod.fst) := by
    rw [← List.countP_map, List.zipIdx_map_fst]
  rw [hfst]
  refine List.countP_congr fun p hp => ?_
  obtain ⟨home', away', hline'⟩ := hlines p.1 (by
    rw [hschedule]
    exact List.mem_append_left _ (List.fst_mem_of_mem_zipIdx hp))
  exact prefix_iff hline hline' _

theorem numberGame_eq {done rest : List IGameData} {game : IGameData}
    (hschedule : schedule = done ++ game :: rest) :
    numberGame schedule (numbered schedule done) game =
      { game with id := matchupId game (place schedule done.length game) } := by
  have hgame : game ∈ schedule := by rw [hschedule]; simp
  obtain ⟨home, away, hline⟩ := hlines game hgame
  have htake : schedule.take (done.length + 1) = done ++ [game] := by
    rw [hschedule, List.take_append, List.take_of_length_le (Nat.le_succ _)]
    simp
  unfold numberGame place
  dsimp only
  rw [count_base hlines hgame, count_numbered hlines hschedule, htake]
  by_cases hcount : 1 < schedule.countP (sameMatchup game)
  · have hself : sameMatchup game game = true := sameMatchup_iff.2 ⟨rfl, rfl, rfl⟩
    rw [if_pos ⟨hline.endsWithZero, hcount⟩, if_pos hcount, List.countP_append,
      List.countP_singleton, if_pos hself, hline.base_eq]
    rfl
  · rw [if_neg fun h => hcount h.2, if_neg hcount, ← hline.id_eq_matchupId]

/-- **The ids of a table.**  Every game keeps its place and its other fields. -/
theorem processDoubleHeader_eq : processDoubleHeader schedule = numbered schedule schedule := by
  have hfold : ∀ games done : List IGameData, schedule = done ++ games →
      games.foldl (fun result game => result ++ [numberGame schedule result game])
        (numbered schedule done) = numbered schedule schedule := by
    intro games
    induction games with
    | nil =>
      intro done hschedule
      rw [List.foldl_nil]
      exact congrArg (numbered schedule) (hschedule.trans (List.append_nil _)).symm
    | cons game games ih =>
      intro done hschedule
      have hstep : numbered schedule done ++ [numberGame schedule (numbered schedule done) game] =
          numbered schedule (done ++ [game]) := by
        rw [numberGame_eq hlines hschedule]
        exact List.mapIdx_concat.symm
      rw [List.foldl_cons, hstep]
      exact ih (done ++ [game]) (by rw [hschedule, List.append_assoc]; rfl)
  exact hfold schedule [] rfl

end

/-! ## The readers -/

theorem toString_small {n : Nat} (h : n < 10) : (toString n).toList = [n.digitChar] := by
  rw [(toString_digits n).1, Nat.toDigits_of_lt_base h]

/-- A number of one character is the last of the id. -/
theorem matchupId_toList {data : IGameData} {n : Nat} (h : n < 10) :
    (matchupId data n).toList = (matchupBase data).toList ++ [n.digitChar] := by
  unfold matchupId
  rw [String.toList_append, toString_small h]

theorem gameType_of_id (data : IGameData) {n : Nat} (h : n ≤ 2) :
    getGameType (matchupId data n) = n := by
  unfold getGameType
  rw [matchupId_toList (by omega), List.getLast?_concat]
  obtain rfl | rfl | rfl : n = 0 ∨ n = 1 ∨ n = 2 := by omega
  all_goals decide

/-- The digits of a number are those of its tenth and the last one. -/
theorem toString_lastDigit (n : Nat) : (toString n).toList =
    (if n < 10 then [] else (toString (n / 10)).toList) ++ [(n % 10).digitChar] := by
  rw [(toString_digits n).1]
  split
  · next h =>
    rw [Nat.toDigits_of_lt_base h, Nat.mod_eq_of_lt h]
    rfl
  · next h => rw [Nat.toDigits_of_base_le (by decide) (Nat.le_of_not_lt h), (toString_digits _).1]

theorem toString_round (n : Nat) :
    (toString n).toList.dropLast ++ ['0'] = (toString (n - n % 10)).toList := by
  have hround : (n - n % 10) / 10 = n / 10 := by omega
  have hlast : (n - n % 10) % 10 = 0 := by omega
  rw [toString_lastDigit n, toString_lastDigit (n - n % 10), List.dropLast_concat, hlast, hround]
  split
  · next h =>
    rw [if_pos (by omega)]
    rfl
  · next h =>
    rw [if_neg (by omega)]
    rfl

theorem digitChar_zero : ∀ d < 10, (d.digitChar = '0' ↔ d = 0) := by
  decide

theorem endsWithZero_matchupId (data : IGameData) (n : Nat) :
    endsWithZero (matchupId data n) = decide (n % 10 = 0) := by
  unfold endsWithZero matchupId
  rw [String.toList_append, toString_lastDigit, ← List.append_assoc, List.getLast?_concat]
  simp [digitChar_zero (n % 10) (Nat.mod_lt n (by decide))]

/-- The id `upsertMany` deletes for a numbered game. -/
theorem sliceLast_matchupId (data : IGameData) (n : Nat) :
    sliceLast (matchupId data n) ++ "0" = matchupId data (n - n % 10) := by
  refine String.toList_injective ?_
  have hne : (toString n).toList ≠ [] := by
    rw [(toString_digits n).1]
    exact Nat.toDigits_ne_nil
  unfold sliceLast matchupId
  rw [String.toList_append, String.toList_ofList, String.toList_append, String.toList_append,
    List.dropLast_append_of_ne_nil hne, ← toString_round, List.append_assoc]
  rfl

theorem length_year {year : Nat} (h : 1000 ≤ year ∧ year ≤ 9999) : (toString year).toList.length = 4 := by
  have hle : (Nat.toDigits 10 year).length ≤ 4 := (Nat.length_toDigits_le_iff (by decide) (by decide)).2 (by omega)
  have hgt : ¬ (Nat.toDigits 10 year).length ≤ 3 := fun hc =>
    absurd ((Nat.length_toDigits_le_iff (by decide) (by decide)).1 hc) (by omega)
  rw [(toString_digits year).1]
  omega

section

variable {year : Nat} {data other : IGameData} {home away home' away' : String}

/-- The date of a line of a four-digit year takes eight characters. -/
theorem KnownLine.length_dateDigits (h : KnownLine year data home away)
    (hyear : 1000 ≤ year ∧ year ≤ 9999) : (dateDigits data.date).length = 8 := by
  obtain ⟨s, ⟨a, b, c, d, hs, hdigits⟩, hdate⟩ := h.monthAndDay
  have hkept : (toString year).toList.filter (· ≠ '-') = (toString year).toList :=
    List.filter_eq_self.2 fun c hc => by simpa using digit_ne_hyphen ((toString_digits year).2 c hc)
  have hne : ∀ x ∈ [a, b, c, d], x ≠ '-' := fun x hx => digit_ne_hyphen (hdigits x hx)
  have hhyphen : "-".toList.filter (· ≠ '-') = [] := by decide
  unfold dateDigits
  rw [hdate, String.toList_append, String.toList_append, List.filter_append, List.filter_append,
    hkept, hhyphen, hs, List.append_nil, List.length_append, length_year hyear]
  simp [hne a, hne b, hne c, hne d]

theorem teamKey_of_id (h : KnownLine year data home away) (hyear : 1000 ≤ year ∧ year ≤ 9999)
    {n : Nat} (hn : n < 10) : teamKey (matchupId data n) = String.ofList (spelled home away) := by
  unfold teamKey
  rw [matchupId_toList hn, h.named.matchupBase_toList, List.append_assoc,
    List.drop_left' (h.length_dateDigits hyear), List.dropLast_concat]

/-- The key of a game tells its teams. -/
theorem teamKey_inj (h : KnownLine year data home away) (h' : KnownLine year other home' away')
    (hyear : 1000 ≤ year ∧ year ≤ 9999) {m n : Nat} (hm : m < 10) (hn : n < 10) :
    teamKey (matchupId data m) = teamKey (matchupId other n) ↔
      data.awayTeam = other.awayTeam ∧ data.homeTeam = other.homeTeam := by
  rw [teamKey_of_id h hyear hm, teamKey_of_id h' hyear hn]
  constructor
  · intro he
    have hspells : Spells (String.ofList (spelled home away)) home away :=
      ⟨[], [], by rw [String.toList_ofList]; simp, fun c hc => by cases hc⟩
    have hspells' : Spells (String.ofList (spelled home away)) home' away' :=
      ⟨[], [], by rw [he, String.toList_ofList]; simp, fun c hc => by cases hc⟩
    obtain ⟨rfl, rfl⟩ := spells_unique h.homeKnown h.awayKnown h'.homeKnown h'.awayKnown hspells
      hspells'
    exact ⟨h.awayTeam.trans h'.awayTeam.symm, h.homeTeam.trans h'.homeTeam.symm⟩
  · rintro ⟨haway, hhome⟩
    have hcodes : spelled home away = spelled home' away' := by
      unfold spelled codeLetters
      rw [← codeOf_known h.homeKnown, ← codeOf_known h.awayKnown, ← codeOf_known h'.homeKnown,
        ← codeOf_known h'.awayKnown, ← h.homeTeam, ← h.awayTeam, ← h'.homeTeam, ← h'.awayTeam, haway,
        hhome]
    rw [hcodes]

end

/-! ## Tables of known teams -/

/-- The line is a game of two teams with a code, and a date cell has a month and a day. -/
structure KnownEntry (formats : Formats) (entry : ScheduleEntry) : Prop where
  teams : ∃ homeTeam awayTeam, getTeamAndScore entry.game = some (homeTeam, awayTeam) ∧
    (teamNameToTeamId.lookup homeTeam.name).isSome = true ∧
    (teamNameToTeamId.lookup awayTeam.name).isSome = true
  date : ∀ date, entry.date = some date → date ≠ "" → formats.isNotTimeFormat date = true →
    convertDateFormat date ≠ none

/-- The teams with a code are those with a full name. -/
theorem team_of_code : ∀ p ∈ teamNameToTeamId, ∃ v, TTeam.lookup p.1 = some v := by
  have hall : ∀ p ∈ teamNameToTeamId, (TTeam.lookup p.1).isSome = true := by decide +kernel
  exact fun p hp => Option.isSome_iff_exists.1 (hall p hp)

theorem known_of_code {name : String} (h : (teamNameToTeamId.lookup name).isSome = true) :
    ∃ v, teamName name = some v := by
  obtain ⟨code, hcode⟩ := Option.isSome_iff_exists.1 h
  obtain ⟨v, hv⟩ := team_of_code _ (mem_of_lookup hcode)
  unfold teamName
  rw [hv]
  exact ⟨.text v, rfl⟩

/-- The text is of this year, with a month and a day. -/
def HasMonthAndDay (year : Nat) (text : String) : Prop :=
  ∃ s, IsMonthAndDay s ∧ text = toString year ++ "-" ++ s

theorem nextDate_known {formats : Formats} {year : Nat} {date : String} {entry : ScheduleEntry}
    (hentry : KnownEntry formats entry) (h : date ≠ "" → HasMonthAndDay year date) :
    nextDate formats year date entry ≠ "" →
      HasMonthAndDay year (nextDate formats year date entry) := by
  unfold nextDate
  split
  · exact h
  · next text htext =>
    split
    · next hused =>
      intro _
      cases hfound : convertDateFormat text with
      | none => exact absurd hfound (hentry.date text htext hused.1 hused.2)
      | some s => exact ⟨s, findMonthAndDay_some hfound, rfl⟩
    · exact h

/-- A table of known teams and dates is read. -/
theorem refineGamesData_known (formats : Formats) {year : Nat} {rawData : List (List String)}
    (hrows : ∀ cells ∈ rawData, ∀ entry, scheduleEntry cells = some entry → KnownEntry formats entry)
    {currentDate : String} (hdate : currentDate ≠ "" → HasMonthAndDay year currentDate) :
    ∃ games, refineGamesData formats year currentDate rawData = .ok games ∧
      ∀ data ∈ games, ∃ home away, KnownLine year data home away := by
  induction rawData generalizing currentDate with
  | nil => exact ⟨[], rfl, fun data hd => by cases hd⟩
  | cons cells rawData ih =>
    have hrest := fun c hc => hrows c (List.mem_cons_of_mem cells hc)
    unfold refineGamesData
    split
    · exact ih hrest hdate
    · next entry hentry =>
      have hknown := hrows cells List.mem_cons_self entry hentry
      have hnext := nextDate_known hknown hdate
      dsimp only
      split
      · exact ih hrest hnext
      · next hempty =>
        obtain ⟨homeTeam, awayTeam, hteams, hhome, haway⟩ := hknown.teams
        obtain ⟨games, hgames, hlines⟩ := ih hrest hnext
        rw [hteams, hgames]
        refine ⟨_, rfl, fun data hd => ?_⟩
        rcases List.mem_cons.1 hd with rfl | hd
        · obtain ⟨s, hs, htext⟩ := hnext hempty
          refine ⟨homeTeam.name, awayTeam.name, ⟨⟨some s, fun t ht => ?_, htext⟩, ?_, rfl, rfl⟩,
            ⟨s, hs, htext⟩, known_of_code hhome, known_of_code haway⟩
          · exact Option.some.inj ht ▸ hs
          · unfold gameData spelled codeLetters dateDigits
            simp
        · exact hlines data hd

/-- A game without its id. -/
def IGameData.withoutId (data : IGameData) : IGameData := { data with id := "" }

section

variable {schedule : List IGameData} {i : Nat} {game : IGameData}

theorem place_le (schedule : List IGameData) (i : Nat) (game : IGameData) :
    place schedule i game ≤ schedule.countP (sameMatchup game) := by
  unfold place
  split
  · exact (List.take_sublist _ _).countP_le
  · exact Nat.zero_le _

theorem getElem?_numbered (games : List IGameData) :
    (numbered schedule games)[i]? = (games[i]?).map fun game =>
      { game with id := matchupId game (place schedule i game) } := by
  unfold numbered
  rw [List.getElem?_mapIdx]

end

/-- What the readers find in the id of the game `data` that was numbered `n`. -/
structure Decoded (games : List IGameData) (data : IGameData) (n : Nat) : Prop where
  gameType : getGameType data.id = n
  key : ∀ other ∈ games, teamKey other.id = teamKey data.id ↔
    other.awayTeam = data.awayTeam ∧ other.homeTeam = data.homeTeam
  deleted : n ≠ 0 → endsWithZero data.id = false ∧ sliceLast data.id ++ "0" = matchupId data 0

/-- **Ids encode what their readers read.**  For a table of known teams and dates: the ids
differ, games keep their order and their other fields, and the number of an id is the place of
the game.  With at most two games of two teams a day, every reader finds what was written. -/
theorem gameIds_decoded (formats : Formats) (year : Nat) (rows : List (List String))
    (hyear : 1000 ≤ year ∧ year ≤ 9999)
    (hrows : ∀ cells ∈ rows, ∀ entry, scheduleEntry cells = some entry → KnownEntry formats entry) :
    ∃ schedule, refineGamesData formats year "" rows = .ok schedule ∧
      ((processDoubleHeader schedule).map IGameData.id).Nodup ∧
      (processDoubleHeader schedule).map IGameData.withoutId = schedule.map IGameData.withoutId ∧
      (∀ i game, schedule[i]? = some game → game.id = matchupId game 0 ∧
        (processDoubleHeader schedule)[i]? =
          some { game with id := matchupId game (place schedule i game) }) ∧
      ((∀ game ∈ schedule, schedule.countP (sameMatchup game) ≤ 2) →
        ∀ i data, (processDoubleHeader schedule)[i]? = some data →
          Decoded (processDoubleHeader schedule) data (place schedule i data)) := by
  have hread : ∃ schedule, refineGamesData formats year "" rows = .ok schedule ∧
      ∀ data ∈ schedule, ∃ home away, KnownLine year data home away :=
    refineGamesData_known formats hrows (absurd rfl)
  obtain ⟨schedule, hok, hlines⟩ := hread
  have hknown : ∀ data ∈ schedule, ∃ home away, FromLine year data home away ∧
      (∃ v, teamName home = some v) ∧ ∃ v, teamName away = some v := by
    intro data hd
    obtain ⟨home, away, hline⟩ := hlines data hd
    exact ⟨home, away, hline.toFromLine, hline.homeKnown, hline.awayKnown⟩
  have hids := processDoubleHeader_eq fun data hd =>
    (hlines data hd).imp fun _ h => h.imp fun _ hline => hline.named
  have hindex : ∀ {i : Nat} {data : IGameData}, (processDoubleHeader schedule)[i]? = some data →
      ∃ game, schedule[i]? = some game ∧
        data = { game with id := matchupId game (place schedule i game) } := by
    intro i data hdata
    rw [hids, getElem?_numbered] at hdata
    obtain ⟨game, hgame, he⟩ := Option.map_eq_some_iff.1 hdata
    exact ⟨game, hgame, he.symm⟩
  refine ⟨schedule, hok, ids_nodup hknown, ?_, ?_, ?_⟩
  · refine processDoubleHeader_map fun result game _ => ?_
    unfold numberGame IGameData.withoutId
    dsimp only
    split <;> rfl
  · intro i game hgame
    obtain ⟨home, away, hline⟩ := hlines game (List.mem_of_getElem? hgame)
    rw [hids, getElem?_numbered, hgame]
    exact ⟨hline.named.id_eq_matchupId, rfl⟩
  · intro htwice i data hdata
    obtain ⟨game, hgame, rfl⟩ := hindex hdata
    have hmem := List.mem_of_getElem? hgame
    obtain ⟨home, away, hline⟩ := hlines game hmem
    have hplace := Nat.le_trans (place_le schedule i game) (htwice game hmem)
    refine ⟨gameType_of_id game hplace, fun other hother => ?_, fun hn => ⟨?_, ?_⟩⟩
    · obtain ⟨j, hj⟩ := List.mem_iff_getElem?.1 hother
      obtain ⟨game', hgame', rfl⟩ := hindex hj
      have hmem' := List.mem_of_getElem? hgame'
      obtain ⟨home', away', hline'⟩ := hlines game' hmem'
      have hplace' := Nat.le_trans (place_le schedule j game') (htwice game' hmem')
      exact teamKey_inj hline' hline hyear (by omega) (by omega)
    · rw [endsWithZero_matchupId, Nat.mod_eq_of_lt (by omega)]
      exact decide_eq_false hn
    · rw [sliceLast_matchupId, Nat.mod_eq_of_lt (by omega), Nat.sub_self]
      rfl

/-- A double header: its games are told apart, and the other readers see one matchup. -/
theorem gameIds_decoded_double : ∃ schedule,
    refineGamesData doubleHeaderFormats 2025 "" (doubleTable.map extractTextFromHtml) = .ok schedule ∧
      ((processDoubleHeader schedule).map IGameData.id).Nodup := by
  have hgame : ∀ entry : ScheduleEntry, entry.game = "LGvs두산" →
      (entry.date = none ∨ entry.date = some "06.01(일)") → KnownEntry doubleHeaderFormats entry := by
    intro entry hgame hdate
    refine ⟨⟨⟨"두산", none⟩, ⟨"LG", none⟩, ?_, by decide, by decide⟩, fun date hd _ _ => ?_⟩
    · rw [hgame]
      decide +kernel
    · rcases hdate with he | he
      · rw [he] at hd
        cases hd
      · obtain rfl := Option.some.inj (he.symm.trans hd)
        decide +kernel
  obtain ⟨schedule, hok, hnodup, -⟩ := gameIds_decoded doubleHeaderFormats 2025
    (doubleTable.map extractTextFromHtml) (by decide) (by
      have hentries : ∀ entry ∈ (doubleTable.map extractTextFromHtml).filterMap scheduleEntry,
          entry.game = "LGvs두산" ∧ (entry.date = none ∨ entry.date = some "06.01(일)") := by
        decide +kernel
      intro cells hc entry he
      obtain ⟨hg, hd⟩ := hentries entry (List.mem_filterMap.2 ⟨cells, hc, he⟩)
      exact hgame entry hg hd)
  exact ⟨schedule, hok, hnodup⟩

end VictoryFairy
