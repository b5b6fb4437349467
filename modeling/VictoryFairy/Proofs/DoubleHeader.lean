import VictoryFairy.Proofs.Schedule

/-!
# The ids of a table

The id of a game is its day, the codes of its teams and a number: `0` for the only game of
the two teams on that day, and the place among them for the others.

    CrawledId.unique   : the id tells the text of the date and the teams
    base_prefix        : of two games of a table, the id of one only starts like the other's
                         when day and teams are the same
    scheduledGames_crawled, scheduledGames_nodup
                       : so a batch has one id for each game, which tells its day and teams
-/

namespace VictoryFairy

/-! ## Dates -/

/-- A month and a day as `convertDateFormat` writes them. -/
def IsMonthAndDay (s : String) : Prop :=
  ∃ a b c d : Char, s.toList = [a, b, '-', c, d] ∧ ∀ x ∈ [a, b, c, d], x.isDigit = true

/-- The date of a line: the year, and a month and a day or `undefined`. -/
def IsDateText (year : Nat) (text : String) : Prop :=
  ∃ monthAndDay : Option String, (∀ s, monthAndDay = some s → IsMonthAndDay s) ∧
    text = toString year ++ "-" ++ jsString monthAndDay

/-- The date in an id. -/
def dateDigits (text : String) : List Char := text.toList.filter (· ≠ '-')

theorem findMonthAndDay_some {cs : List Char} {s : String} (h : findMonthAndDay cs = some s) :
    IsMonthAndDay s := by
  induction cs with
  | nil => cases h
  | cons a cs ih =>
    unfold findMonthAndDay at h
    split at h
    · next b dot c d rest =>
      split at h
      · next hmatch =>
        cases h
        simp only [Bool.and_eq_true, decide_eq_true_eq] at hmatch
        obtain ⟨⟨⟨⟨ha, hb⟩, -⟩, hc⟩, hd⟩ := hmatch
        refine ⟨a, b, c, d, String.toList_ofList, fun x hx => ?_⟩
        simp only [List.mem_cons, List.not_mem_nil, or_false] at hx
        rcases hx with rfl | rfl | rfl | rfl <;> assumption
      · exact ih h
    · exact ih h

/-- The current date is empty until the first date of the table. -/
theorem nextDate_isDateText (formats : Formats) {year : Nat} {date : String} (entry : ScheduleEntry)
    (h : date ≠ "" → IsDateText year date) :
    nextDate formats year date entry ≠ "" → IsDateText year (nextDate formats year date entry) := by
  unfold nextDate
  split
  · exact h
  · split
    · exact fun _ => ⟨_, fun s hs => findMonthAndDay_some hs, rfl⟩
    · exact h

theorem toString_digits (n : Nat) :
    (toString n).toList = Nat.toDigits 10 n ∧ ∀ c ∈ (toString n).toList, c.isDigit = true := by
  have hdigits : (toString n).toList = Nat.toDigits 10 n := String.toList_ofList
  refine ⟨hdigits, fun c hc => ?_⟩
  rw [hdigits] at hc
  exact Nat.isDigit_of_mem_toDigits (by decide) (by decide) hc

theorem toString_injective {m n : Nat} (h : toString m = toString n) : m = n := by
  have hdigits : Nat.toDigits 10 m = Nat.toDigits 10 n := by
    rw [← (toString_digits m).1, ← (toString_digits n).1, h]
  rw [← Nat.ofDigitChars_toDigits (b := 10) (n := m) (by decide) (by decide), hdigits]
  exact Nat.ofDigitChars_toDigits (by decide) (by decide)

/-- What follows the year in an id. -/
def IsDaySuffix (s : List Char) : Prop :=
  s = "undefined".toList ∨ ∃ a b c d : Char, s = [a, b, c, d] ∧ ∀ x ∈ [a, b, c, d], x.isDigit = true

/-- What follows the year in the text. -/
def dayText : List Char → List Char
  | [a, b, c, d] => [a, b, '-', c, d]
  | s => s

theorem digit_ne_hyphen {c : Char} (h : c.isDigit = true) : c ≠ '-' := by
  rintro rfl
  cases h

theorem IsDateText.digits {year : Nat} {text : String} (h : IsDateText year text) :
    ∃ s, IsDaySuffix s ∧ dateDigits text = (toString year).toList ++ s ∧
      text.toList = (toString year).toList ++ '-' :: dayText s := by
  obtain ⟨monthAndDay, hday, rfl⟩ := h
  have hyear : (toString year).toList.filter (· ≠ '-') = (toString year).toList :=
    List.filter_eq_self.2 fun c hc => by simpa using digit_ne_hyphen ((toString_digits year).2 c hc)
  have hhyphen : "-".toList.filter (· ≠ '-') = [] := by decide
  unfold dateDigits
  rw [String.toList_append, String.toList_append, List.filter_append, List.filter_append, hyear,
    hhyphen, List.append_nil]
  cases monthAndDay with
  | none => exact ⟨"undefined".toList, Or.inl rfl, rfl, List.append_assoc ..⟩
  | some s =>
    obtain ⟨a, b, c, d, hs, hdigits⟩ := hday s rfl
    have hne : ∀ x ∈ [a, b, c, d], x ≠ '-' := fun x hx => digit_ne_hyphen (hdigits x hx)
    refine ⟨[a, b, c, d], Or.inr ⟨a, b, c, d, rfl, hdigits⟩, ?_, ?_⟩
    · show _ ++ s.toList.filter _ = _
      rw [hs]
      simp [hne a, hne b, hne c, hne d]
    · show _ ++ _ ++ s.toList = _
      rw [hs]
      simp [dayText]

/-- The suffix is found at the end. -/
theorem daySuffix_unique {ys ys' s s' : List Char} (hs : IsDaySuffix s) (hs' : IsDaySuffix s')
    (h : ys ++ s = ys' ++ s') : ys = ys' ∧ s = s' := by
  have hmixed : ∀ {ys ys' : List Char} {a b c d : Char}, d.isDigit = true →
      ys ++ "undefined".toList ≠ ys' ++ [a, b, c, d] := by
    intro ys ys' a b c d hd he
    have hlast := congrArg List.getLast? he
    rw [List.getLast?_append, List.getLast?_append] at hlast
    obtain rfl : 'd' = d := Option.some.inj hlast
    cases hd
  rcases hs with rfl | ⟨a, b, c, d, rfl, hdigits⟩ <;>
    rcases hs' with rfl | ⟨a', b', c', d', rfl, hdigits'⟩
  · exact List.append_inj' h rfl
  · exact absurd h (hmixed (hdigits' d' (by simp)))
  · exact absurd h.symm (hmixed (hdigits d (by simp)))
  · exact List.append_inj' h rfl

theorem dateDigits_inj {year year' : Nat} {text text' : String} (h : IsDateText year text)
    (h' : IsDateText year' text') (he : dateDigits text = dateDigits text') : text = text' := by
  obtain ⟨s, hs, hdigits, htext⟩ := h.digits
  obtain ⟨s', hs', hdigits', htext'⟩ := h'.digits
  rw [hdigits, hdigits'] at he
  obtain ⟨hyear, rfl⟩ := daySuffix_unique hs hs' he
  exact String.toList_injective (by rw [htext, htext', hyear])

/-! ## Ids -/

/-- The id is the day of the text, the codes of the two teams and a number. -/
structure CrawledId (id text home away : String) : Prop where
  date : ∃ year, IsDateText year text
  id : ∃ number : List Char, id.toList = dateDigits text ++ spelled home away ++ number ∧
    ∀ c ∈ number, c.isDigit = true

/-- An id tells the text of its date, and its teams if they are known. -/
theorem CrawledId.unique {id text home away text' home' away' : String}
    (h : CrawledId id text home away) (h' : CrawledId id text' home' away')
    (hhome : ∃ v, teamName home = some v) (haway : ∃ v, teamName away = some v)
    (hhome' : ∃ v, teamName home' = some v) (haway' : ∃ v, teamName away' = some v) :
    text = text' ∧ home = home' ∧ away = away' := by
  obtain ⟨⟨year, hdate⟩, number, hid, hnumber⟩ := h
  obtain ⟨⟨year', hdate'⟩, number', hid', hnumber'⟩ := h'
  obtain ⟨hstart, rfl, rfl⟩ := spelled_unique hhome haway hhome' haway'
    ((dropNumber hhome haway hid hnumber).symm.trans (dropNumber hhome' haway' hid' hnumber'))
  exact ⟨dateDigits_inj hdate hdate' hstart, rfl, rfl⟩

/-! ## The games of a table -/

/-- The game is read from a line of a table of this year. -/
structure FromLine (year : Nat) (data : IGameData) (home away : String) : Prop where
  date : IsDateText year data.date
  id : data.id.toList = dateDigits data.date ++ spelled home away ++ ['0']
  homeTeam : data.homeTeam = teamName home
  awayTeam : data.awayTeam = teamName away

theorem refineGamesData_fromLine (formats : Formats) {year : Nat} {rawData : List (List String)}
    {games : List IGameData} (h : refineGamesData formats year "" rawData = .ok games) :
    ∀ data ∈ games, ∃ home away, FromLine year data home away := by
  refine refineGamesData_forall formats (D := fun date => date ≠ "" → IsDateText year date)
    (fun date entry hdate => nextDate_isDateText formats entry hdate) ?_ h (absurd rfl)
  intro date entry homeTeam awayTeam hne hdate
  refine ⟨homeTeam.name, awayTeam.name, hdate hne, ?_, rfl, rfl⟩
  unfold gameData spelled codeLetters dateDigits
  simp

section

variable {year : Nat} {data other : IGameData} {home away home' away' : String}

/-- The id without its number. -/
theorem FromLine.base (h : FromLine year data home away) :
    (sliceLast data.id).toList = dateDigits data.date ++ spelled home away := by
  unfold sliceLast
  rw [String.toList_ofList, h.id, List.dropLast_concat]

theorem FromLine.id_eq (h : FromLine year data home away) : data.id = sliceLast data.id ++ "0" := by
  refine String.toList_injective ?_
  rw [String.toList_append, h.base, h.id]
  rfl

theorem FromLine.endsWithZero (h : FromLine year data home away) : endsWithZero data.id = true := by
  unfold VictoryFairy.endsWithZero
  rw [h.id]
  simp

theorem FromLine.numbered (h : FromLine year data home away) (n : Nat) :
    CrawledId (sliceLast data.id ++ toString n) data.date home away := by
  refine ⟨⟨year, h.date⟩, (toString n).toList, ?_, (toString_digits n).2⟩
  rw [String.toList_append, h.base]

/-- Of two games of a table, one only starts like the other when day and teams are the same. -/
theorem base_prefix (h : FromLine year data home away) (h' : FromLine year other home' away')
    (hhome : ∃ v, teamName home = some v) (haway : ∃ v, teamName away = some v)
    (hhome' : ∃ v, teamName home' = some v) (haway' : ∃ v, teamName away' = some v)
    {number : List Char}
    (hstarts : (sliceLast data.id).toList <+: (sliceLast other.id).toList ++ number) :
    sliceLast data.id = sliceLast other.id := by
  obtain ⟨s, hs, hdigits, -⟩ := h.date.digits
  obtain ⟨s', hs', hdigits', -⟩ := h'.date.digits
  rw [h.base, h'.base, hdigits, hdigits', List.append_assoc, List.append_assoc, List.append_assoc,
    List.prefix_append_right_inj] at hstarts
  -- with suffixes of one length, the days are the same and the codes are compared
  have hsame : s.length = s'.length → sliceLast data.id = sliceLast other.id := by
    intro hl
    have hday : s = s' := (List.prefix_of_prefix_length_le ((List.prefix_append _ _).trans hstarts)
      (List.prefix_append _ _) (Nat.le_of_eq hl)).eq_of_length hl
    rw [hday, List.prefix_append_right_inj] at hstarts
    obtain ⟨rfl, rfl⟩ := spelled_prefix hhome haway hhome' haway' hstarts
    exact String.toList_injective (by rw [h.base, h'.base, hdigits, hdigits', hday])
  rcases hs with rfl | ⟨a, b, c, d, rfl, hd⟩ <;> rcases hs' with rfl | ⟨a', b', c', d', rfl, hd'⟩
  · exact hsame rfl
  · have hhead : 'u' = a' := (List.cons_prefix_cons.1 hstarts).1
    have hdigit := hd' a' (by simp)
    rw [← hhead] at hdigit
    cases hdigit
  · have hhead : a = 'u' := (List.cons_prefix_cons.1 hstarts).1
    have hdigit := hd a (by simp)
    rw [hhead] at hdigit
    cases hdigit
  · exact hsame rfl

end

/-! ## Numbers -/

/-- The game is one of two known teams on the day its id says. -/
structure CrawledGame (data : IGameData) (home away : String) : Prop where
  id : CrawledId data.id data.date home away
  homeTeam : data.homeTeam = teamName home
  awayTeam : data.awayTeam = teamName away

/-- The number of a game: `0` for the only one, else one more than the games before it. -/
theorem numberGame_cases {year : Nat} {game : IGameData} {home away : String}
    (h : FromLine year game home away) (schedule result : List IGameData) :
    (numberGame schedule result game = { game with id := sliceLast game.id ++ toString 0 } ∧
      (schedule.countP fun g => endsWithZero g.id && sliceLast g.id = sliceLast game.id) ≤ 1) ∨
    numberGame schedule result game =
      { game with
        id := sliceLast game.id ++ toString ((result.countP fun g =>
          (sliceLast game.id).toList.isPrefixOf g.id.toList) + 1) } := by
  unfold numberGame
  dsimp only
  by_cases hcount : 1 < schedule.countP fun g => endsWithZero g.id && sliceLast g.id = sliceLast game.id
  · rw [if_pos ⟨h.endsWithZero, hcount⟩]
    exact Or.inr rfl
  · rw [if_neg fun hc => hcount hc.2]
    refine Or.inl ⟨?_, Nat.le_of_not_lt hcount⟩
    rw [show (toString 0 : String) = "0" from rfl, ← h.id_eq]

theorem processDoubleHeader_crawled {year : Nat} {schedule : List IGameData}
    (h : ∀ data ∈ schedule, ∃ home away, FromLine year data home away) :
    ∀ data ∈ processDoubleHeader schedule, ∃ home away, CrawledGame data home away := by
  refine processDoubleHeader_forall fun game hgame result => ?_
  obtain ⟨home, away, hline⟩ := h game hgame
  refine ⟨home, away, ?_⟩
  rcases numberGame_cases hline schedule result with ⟨he, -⟩ | he
  · rw [he]
    exact ⟨hline.numbered 0, hline.homeTeam, hline.awayTeam⟩
  · rw [he]
    exact ⟨hline.numbered _, hline.homeTeam, hline.awayTeam⟩

theorem processDoubleHeader_map {β : Type} {schedule : List IGameData} {f : IGameData → β}
    (hf : ∀ result, ∀ game ∈ schedule, f (numberGame schedule result game) = f game) :
    (processDoubleHeader schedule).map f = schedule.map f := by
  have hfold : ∀ (games result : List IGameData), (∀ game ∈ games, game ∈ schedule) →
      (games.foldl (fun result game => result ++ [numberGame schedule result game]) result).map f =
        result.map f ++ games.map f := by
    intro games
    induction games with
    | nil => exact fun result _ => (List.append_nil _).symm
    | cons game games ih =>
      intro result hgames
      rw [List.foldl_cons, ih _ fun g hg => hgames g (List.mem_cons_of_mem _ hg), List.map_append,
        List.append_assoc, List.map_singleton, hf result game (hgames game List.mem_cons_self)]
      rfl
  exact hfold schedule [] fun _ => id

/-- Numbering keeps the teams. -/
theorem known_of_processed {schedule : List IGameData}
    (h : ∀ data ∈ processDoubleHeader schedule, data.homeTeam ≠ none ∧ data.awayTeam ≠ none) :
    ∀ data ∈ schedule, data.homeTeam ≠ none ∧ data.awayTeam ≠ none := by
  intro data hd
  have hteams : (data.homeTeam, data.awayTeam) ∈
      (processDoubleHeader schedule).map fun g => (g.homeTeam, g.awayTeam) := by
    rw [processDoubleHeader_map fun result game hgame => ?_]
    · exact List.mem_map_of_mem hd
    · unfold numberGame
      dsimp only
      split <;> rfl
  obtain ⟨g, hg, he⟩ := List.mem_map.1 hteams
  obtain ⟨hh, ha⟩ := Prod.mk.inj he
  obtain ⟨hhome, haway⟩ := h g hg
  exact ⟨hh ▸ hhome, ha ▸ haway⟩

/-- The games numbered so far: each has the number of an earlier line, at most the games that
start like it, and all ids differ. -/
structure Numbered (done result : List IGameData) : Prop where
  number : ∀ r ∈ result, ∃ g ∈ done, ∃ n : Nat, r.id = sliceLast g.id ++ toString n ∧
    n ≤ result.countP fun r => (sliceLast g.id).toList.isPrefixOf r.id.toList
  nodup : (result.map IGameData.id).Nodup

section

variable {year : Nat} {schedule : List IGameData}
  (hlines : ∀ data ∈ schedule, ∃ home away, FromLine year data home away ∧
    (∃ v, teamName home = some v) ∧ ∃ v, teamName away = some v)

include hlines

/-- A number that no game with this start has makes a new id. -/
theorem Numbered.fresh {done rest result : List IGameData} {game : IGameData}
    (h : Numbered done result) (hschedule : schedule = done ++ game :: rest) (n : Nat)
    (hn : ∀ g ∈ done, sliceLast g.id = sliceLast game.id →
      (result.countP fun r => (sliceLast game.id).toList.isPrefixOf r.id.toList) < n) :
    sliceLast game.id ++ toString n ∉ result.map IGameData.id := by
  intro hmem
  obtain ⟨r, hr, hid⟩ := List.mem_map.1 hmem
  obtain ⟨g, hg, m, hm, hle⟩ := h.number r hr
  have hstrings : sliceLast game.id ++ toString n = sliceLast g.id ++ toString m := hid.symm.trans hm
  obtain ⟨home, away, hline, hhome, haway⟩ := hlines game (by rw [hschedule]; simp)
  obtain ⟨home', away', hline', hhome', haway'⟩ := hlines g (by rw [hschedule]; simp [hg])
  have hstarts : (sliceLast game.id).toList <+: (sliceLast g.id).toList ++ (toString m).toList := by
    rw [← String.toList_append, ← hstrings, String.toList_append]
    exact List.prefix_append _ _
  have hsame := base_prefix hline hline' hhome haway hhome' haway' hstarts
  rw [hsame] at hstrings hn
  have hlists := congrArg String.toList hstrings
  rw [String.toList_append, String.toList_append] at hlists
  obtain rfl := toString_injective (String.toList_injective (List.append_cancel_left hlists))
  exact absurd (hn g hg rfl) (Nat.not_lt.2 hle)

theorem Numbered.step {done rest result : List IGameData} {game : IGameData}
    (h : Numbered done result) (hschedule : schedule = done ++ game :: rest) :
    Numbered (done ++ [game]) (result ++ [numberGame schedule result game]) := by
  obtain ⟨home, away, hline, -⟩ := hlines game (by rw [hschedule]; simp)
  -- whatever the number is, it is fresh and at most the games that now start like it
  have hadd : ∀ n, sliceLast game.id ++ toString n ∉ result.map IGameData.id →
      n ≤ (result.countP fun r => (sliceLast game.id).toList.isPrefixOf r.id.toList) + 1 →
      Numbered (done ++ [game]) (result ++ [{ game with id := sliceLast game.id ++ toString n }]) := by
    intro n hfresh hle
    refine ⟨fun r hr => ?_, ?_⟩
    · rcases List.mem_append.1 hr with hr | hr
      · obtain ⟨g, hg, m, hm, hmle⟩ := h.number r hr
        refine ⟨g, List.mem_append_left _ hg, m, hm, Nat.le_trans hmle ?_⟩
        rw [List.countP_append]
        exact Nat.le_add_right _ _
      · rw [List.mem_singleton.1 hr]
        refine ⟨game, List.mem_append_right _ List.mem_cons_self, n, rfl, ?_⟩
        rw [List.countP_append, List.countP_singleton, if_pos]
        · exact hle
        · rw [List.isPrefixOf_iff_prefix, String.toList_append]
          exact List.prefix_append _ _
    · rw [List.map_append, List.map_singleton]
      exact List.nodup_append.2 ⟨h.nodup, List.nodup_singleton _, fun a ha b hb => by
        rw [List.mem_singleton.1 hb]
        rintro rfl
        exact hfresh ha⟩
  rcases numberGame_cases hline schedule result with ⟨he, hcount⟩ | he
  · rw [he]
    refine hadd 0 (h.fresh hlines hschedule 0 fun g hg hsame => ?_) (Nat.zero_le _)
    -- an earlier game with the same start would be counted too
    rw [hschedule, List.countP_append, List.countP_cons_of_pos (by simp [hline.endsWithZero])] at hcount
    obtain ⟨home', away', hline', -⟩ := hlines g (by rw [hschedule]; simp [hg])
    have hpos : 0 < done.countP fun g => endsWithZero g.id && sliceLast g.id = sliceLast game.id :=
      List.countP_pos_iff.2 ⟨g, hg, by simp [hline'.endsWithZero, hsame]⟩
    omega
  · rw [he]
    exact hadd _ (h.fresh hlines hschedule _ fun _ _ _ => Nat.lt_succ_self _) (Nat.le_refl _)

/-- The games of a table of known teams have different ids. -/
theorem ids_nodup : ((processDoubleHeader schedule).map IGameData.id).Nodup := by
  have hfold : ∀ (games done result : List IGameData), schedule = done ++ games →
      Numbered done result → Numbered schedule
        (games.foldl (fun result game => result ++ [numberGame schedule result game]) result) := by
    intro games
    induction games with
    | nil =>
      intro done result hschedule h
      rw [hschedule, List.append_nil]
      exact h
    | cons game games ih =>
      intro done result hschedule h
      exact ih (done ++ [game]) _ (by rw [hschedule, List.append_assoc]; rfl)
        (h.step hlines hschedule)
  exact (hfold schedule [] [] rfl ⟨fun r hr => (by cases hr), List.nodup_nil⟩).nodup

end

/-- The games of a table are on the day their id says. -/
theorem scheduledGames_crawled (formats : Formats) {year : Nat} {rows : List (List String)}
    {games : List IGameData} (h : scheduledGames formats year rows = .ok games) :
    ∀ data ∈ games, ∃ home away, CrawledGame data home away := by
  obtain ⟨schedule, hrefined, rfl⟩ := scheduledGames_ok h
  exact processDoubleHeader_crawled (refineGamesData_fromLine formats hrefined)

/-- When all their teams are known, no two games of a table have one id. -/
theorem scheduledGames_nodup (formats : Formats) {year : Nat} {rows : List (List String)}
    {games : List IGameData} (h : scheduledGames formats year rows = .ok games)
    (hknown : ∀ data ∈ games, data.homeTeam ≠ none ∧ data.awayTeam ≠ none) :
    (games.map IGameData.id).Nodup := by
  obtain ⟨schedule, hrefined, rfl⟩ := scheduledGames_ok h
  have hlines : ∀ data ∈ schedule, ∃ home away, FromLine year data home away ∧
      (∃ v, teamName home = some v) ∧ ∃ v, teamName away = some v := by
    intro data hd
    obtain ⟨home, away, hline⟩ := refineGamesData_fromLine formats hrefined data hd
    obtain ⟨hhome, haway⟩ := known_of_processed hknown data hd
    rw [hline.homeTeam] at hhome
    rw [hline.awayTeam] at haway
    exact ⟨home, away, hline, Option.ne_none_iff_exists'.1 hhome,
      Option.ne_none_iff_exists'.1 haway⟩
  exact ids_nodup hlines

end VictoryFairy
