import Mathlib.Data.List.Sort
import VictoryFairy.Model.Calendar
import VictoryFairy.Proofs.Commits
import VictoryFairy.Proofs.RankRows

/-!
# The calendar and the record

The lists of the months share out a user's registrations by the day of their game, so over a
year they hold what the rank rows of the year count.

    between_month        : the days between the first and the last one are those of the month
    commit_keepsSides    : what a request does to the registrations
    calendar_views_agree : every registration is in one list, and the views agree on it
    calendar_adds_up     : the twelve lists of a year add up to the rank row

The year of a request has four digits and its month is one of the twelve: so `moment` parses
them, and of others it makes another day or none.
-/

namespace VictoryFairy

open Runs

/-! ## Months -/

theorem Date.le_iff {a b : Date} : a.le b = true ↔
    a.year < b.year ∨ a.year = b.year ∧
      (a.month < b.month ∨ a.month = b.month ∧ a.day ≤ b.day) := by
  simp [Date.le]

theorem Date.le_total (a b : Date) : (a.le b || b.le a) = true := by
  rw [Bool.or_eq_true, Date.le_iff, Date.le_iff]
  omega

theorem Date.le_trans {a b c : Date} (hab : a.le b = true) (hbc : b.le c = true) :
    a.le c = true := by
  rw [Date.le_iff] at *
  omega

/-- The days of a month are those between its first and its last one. -/
theorem between_month {d : Date} (h : d.Valid) {year month : Nat} :
    d.between (startDate year month) (endDate year month) = true ↔
      d.year = year ∧ d.month = month := by
  obtain ⟨hfirst, hlast⟩ := h.day
  unfold Date.between
  rw [Bool.and_eq_true, Date.le_iff, Date.le_iff]
  unfold startDate endDate
  constructor
  · rintro ⟨hlo, hhi⟩
    dsimp only at hlo hhi
    omega
  · rintro ⟨rfl, rfl⟩
    exact ⟨Or.inr ⟨rfl, Or.inr ⟨rfl, hfirst⟩⟩, Or.inr ⟨rfl, Or.inr ⟨rfl, hlast⟩⟩⟩

/-! ## What a month's list holds -/

/-- The registrations' games and teams exist, and games are on days of the calendar. -/
structure CalendarInv (db : Db) : Prop where
  ledger : LedgerInv db
  rows : ∀ r ∈ db.registeredGames.rows, db.Takes r
  dates : ∀ game ∈ db.games.rows, game.date.Valid

section

variable {db : Db} {year month userId : Nat}

theorem inMonth_eq_some {r : RegisteredGame} {p : RegisteredGame × GameRow} :
    inMonth db year month userId r = some p ↔ p.1 = r ∧ db.games.find? r.game = some p.2 ∧
      r.user = userId ∧ p.2.date.between (startDate year month) (endDate year month) = true := by
  obtain ⟨r', game⟩ := p
  unfold inMonth
  cases db.games.find? r.game with
  | none => simp
  | some game' =>
    dsimp only
    rw [Option.ite_none_right_eq_some, Option.some.injEq, Option.some.injEq, Prod.mk.injEq]
    constructor
    · rintro ⟨⟨hu, hm⟩, rfl, rfl⟩
      exact ⟨rfl, rfl, hu, hm⟩
    · rintro ⟨rfl, rfl, hu, hm⟩
      exact ⟨⟨hu, hm⟩, rfl, rfl⟩

/-- The list in another order. -/
theorem getAllMonthly_perm (db : Db) (year month userId : Nat) :
    (getAllMonthly db year month userId).Perm
      ((db.registeredGames.rows.filter fun r => (inMonth db year month userId r).isSome).map
        (toEntry db)) := by
  unfold getAllMonthly
  refine ((List.mergeSort_perm _ _).map _).trans (List.Perm.of_eq ?_)
  induction db.registeredGames.rows with
  | nil => rfl
  | cons r rows ih =>
    cases hin : inMonth db year month userId r with
    | none =>
      rw [List.filterMap_cons_none hin, List.filter_cons_of_neg (by simp [hin])]
      exact ih
    | some p =>
      rw [List.filterMap_cons_some hin, List.filter_cons_of_pos (by simp [hin]), List.map_cons,
        List.map_cons, ih, (inMonth_eq_some.1 hin).1]

theorem mem_getAllMonthly {e : RegisteredGameEntry} : e ∈ getAllMonthly db year month userId ↔
    ∃ r ∈ db.registeredGames.rows, toEntry db r = e ∧ r.user = userId ∧
      ∃ game, db.games.find? r.game = some game ∧
        game.date.between (startDate year month) (endDate year month) = true := by
  rw [(getAllMonthly_perm db year month userId).mem_iff, List.mem_map]
  constructor
  · rintro ⟨r, hr, rfl⟩
    obtain ⟨hmem, hin⟩ := List.mem_filter.1 hr
    obtain ⟨p, hp⟩ := Option.isSome_iff_exists.1 hin
    obtain ⟨-, hgame, hu, hm⟩ := inMonth_eq_some.1 hp
    exact ⟨r, hmem, rfl, hu, p.2, hgame, hm⟩
  · rintro ⟨r, hmem, rfl, hu, game, hgame, hm⟩
    refine ⟨r, List.mem_filter.2 ⟨hmem, Option.isSome_iff_exists.2 ⟨(r, game), ?_⟩⟩, rfl⟩
    exact inMonth_eq_some.2 ⟨rfl, hgame, hu, hm⟩

theorem newestFirst_trans (a b c : RegisteredGame × GameRow) (hab : newestFirst a b = true)
    (hbc : newestFirst b c = true) : newestFirst a c = true :=
  Date.le_trans hbc hab

theorem newestFirst_total (a b : RegisteredGame × GameRow) :
    (newestFirst a b || newestFirst b a) = true :=
  Date.le_total b.2.date a.2.date

/-- The newest come first. -/
theorem getAllMonthly_sorted (db : Db) (year month userId : Nat) :
    (getAllMonthly db year month userId).Pairwise fun a b => ∀ ga gb, a.game = some ga →
      b.game = some gb → gb.date.le ga.date = true := by
  have hsorted : ((db.registeredGames.rows.filterMap (inMonth db year month userId)).mergeSort
      newestFirst).Pairwise fun a b => newestFirst a b = true :=
    List.pairwise_mergeSort newestFirst_trans newestFirst_total _
  unfold getAllMonthly
  rw [List.pairwise_map]
  refine hsorted.imp_of_mem fun ha hb hle ga gb hga hgb => ?_
  have hgame : ∀ p ∈ (db.registeredGames.rows.filterMap (inMonth db year month userId)).mergeSort
      newestFirst, ∀ g, (toEntry db p.1).game = some g →
        g.date = p.2.date := by
    intro p hp g hg
    rw [List.mem_mergeSort] at hp
    obtain ⟨r, -, hr⟩ := List.mem_filterMap.1 hp
    obtain ⟨rfl, hfind, -⟩ := inMonth_eq_some.1 hr
    unfold toEntry at hg
    rw [hfind] at hg
    cases hg
    rfl
  rw [hgame _ ha _ hga, hgame _ hb _ hgb]
  exact hle

/-- No registration is listed twice. -/
theorem getAllMonthly_nodup (db : Db) (year month userId : Nat) :
    ((getAllMonthly db year month userId).map RegisteredGameEntry.id).Nodup := by
  refine (((getAllMonthly_perm db year month userId).map _).nodup_iff).2 ?_
  rw [List.map_map]
  exact db.registeredGames.nodup.sublist (List.filter_sublist.map RegisteredGame.id)

end

/-! ## A year -/

section

variable {db : Db}

theorem tally_eq_countP (db : Db) (k : RankKey) (s : RegisteredGameStatus) :
    db.tally k s = db.registeredGames.rows.countP (db.counts k s) := by
  unfold Db.tally Table.total
  induction db.registeredGames.rows with
  | nil => rfl
  | cons r rows ih =>
    rw [List.map_cons, List.sum_cons, List.countP_cons, ih, Nat.add_comm]

/-- What is shared out over distinct classes is as much as there was in them. -/
theorem sum_countP {α κ : Type} [DecidableEq κ] {ms : List κ} (hms : ms.Nodup) (p : α → Bool)
    (q : κ → α → Bool) (f : α → κ) (l : List α)
    (h : ∀ a ∈ l, p a = true → ∀ m ∈ ms, q m a = decide (f a = m)) :
    (ms.map fun m => l.countP fun a => q m a && p a).sum =
      l.countP fun a => decide (f a ∈ ms) && p a := by
  induction l with
  | nil => simp
  | cons a l ih =>
    simp only [List.countP_cons, List.sum_map_add]
    rw [ih fun b hb => h b (List.mem_cons_of_mem a hb)]
    congr 1
    cases hp : p a with
    | false => simp
    | true =>
      simp only [Bool.and_true]
      have hq : ∀ m ∈ ms, (if q m a = true then 1 else 0) = if f a = m then 1 else 0 := by
        intro m hm
        rw [h a List.mem_cons_self hp m hm]
        simp
      rw [List.map_congr_left hq]
      clear hq h ih
      induction ms with
      | nil => rfl
      | cons m ms ih =>
        obtain ⟨hm, hms⟩ := List.nodup_cons.1 hms
        rw [List.map_cons, List.sum_cons, ih hms]
        by_cases he : f a = m
        · simp [he, hm]
        · simp [he]

/-- The month of a user's registration in a year, or zero. -/
def monthOf (db : Db) (year u : Nat) (r : RegisteredGame) : Nat :=
  (db.games.find? r.game).elim 0 fun game =>
    if r.user = u ∧ game.date.year = year then game.date.month else 0

/-- A list of a month, counted by team and result. -/
theorem countP_getAllMonthly (h : CalendarInv db) (year month u t : Nat)
    (s : RegisteredGameStatus) :
    ((getAllMonthly db year month u).countP fun e =>
        e.cheeringTeam.map Team.id = some t && e.status = some s) =
      db.registeredGames.rows.countP fun r => (inMonth db year month u r).isSome &&
        (r.cheeringTeam = t && r.status = some s) := by
  rw [(getAllMonthly_perm db year month u).countP_eq, List.countP_map, List.countP_filter]
  refine List.countP_congr fun r hr => ?_
  obtain ⟨team, hteam⟩ := Option.isSome_iff_exists.1 ((h.rows r hr).2)
  have hid : team.id = r.cheeringTeam := Table.find?_key hteam
  simp [toEntry, hteam, hid, and_comm, and_assoc]

/-- The months of a year share out what a rank row counts. -/
theorem sum_months (h : CalendarInv db) (u t year : Nat) (s : RegisteredGameStatus) :
    ((List.range' 1 12).map fun month => (getAllMonthly db year month u).countP fun e =>
        e.cheeringTeam.map Team.id = some t && e.status = some s).sum =
      db.recorded ⟨u, t, year⟩ (GameResultColumnMap s) := by
  simp only [countP_getAllMonthly h]
  rw [sum_countP List.nodup_range' _ _ (monthOf db year u), h.ledger.ledger, tally_eq_countP]
  · refine List.countP_congr fun r hr => ?_
    obtain ⟨game, hgame⟩ := Option.isSome_iff_exists.1 (h.ledger.game r hr)
    obtain ⟨hlo, hhi⟩ := (h.dates game (Table.mem_of_find? hgame)).month
    unfold monthOf Db.counts Db.yearOf Date.getFullYear
    simp only [hgame, Option.map_some, Option.elim_some]
    by_cases hu : r.user = u
    · by_cases hy : game.date.year = year
      · simp [hu, hy]
        omega
      · simp [hy]
    · simp [hu]
  · intro r hr _ month hmonth
    obtain ⟨game, hgame⟩ := Option.isSome_iff_exists.1 (h.ledger.game r hr)
    have hvalid := h.dates game (Table.mem_of_find? hgame)
    have hpos : 1 ≤ month := by
      have := List.mem_range'_1.1 hmonth
      omega
    unfold monthOf inMonth
    simp only [hgame, between_month hvalid, Option.elim_some]
    by_cases hu : r.user = u
    · by_cases hy : game.date.year = year
      · by_cases hm : game.date.month = month <;> simp [hu, hy, hm]
      · simp [hy]
        omega
    · simp [hu]
      omega

end

/-! ## What a request does to the registrations -/

/-- What the crawler wrote stays, and the table took a new or changed registration. -/
structure KeepsSides (db db' : Db) : Prop where
  teams : db'.teams = db.teams
  games : db'.games = db.games
  stadiums : db'.stadiums = db.stadiums
  rows : ∀ r ∈ db'.registeredGames.rows,
    r ∈ db.registeredGames.rows ∨ db.Takes r

section

variable {db db1 db' : Db}

theorem KeepsSides.of_same (hteams : db'.teams = db.teams) (hgames : db'.games = db.games)
    (hstadiums : db'.stadiums = db.stadiums)
    (hrows : db'.registeredGames = db.registeredGames) : KeepsSides db db' :=
  ⟨hteams, hgames, hstadiums, fun _ hr => Or.inl (hrows ▸ hr)⟩

theorem KeepsSides.refl (db : Db) : KeepsSides db db := .of_same rfl rfl rfl rfl

theorem KeepsSides.rankWrites (h : KeepsSides db db1) {rows : List Rank}
    (hw : RankWrites db1 db' rows) : KeepsSides db db' := by
  rw [hw.eq]
  exact ⟨h.teams, h.games, h.stadiums, h.rows⟩

theorem KeepsSides.inserted (h : KeepsSides db db1) {k : RankKey}
    (hins : insertRankIfAbsent db1 k = .ok db') : KeepsSides db db' := by
  obtain ⟨rows, hw, -⟩ := insertRankIfAbsent_ok hins
  exact h.rankWrites hw

theorem insertUserTerms_stadiums {terms : List UserTerm} (h : insertUserTerms db terms = .ok db') :
    db'.stadiums = db.stadiums := by
  refine foldlM_of_step (I := fun d : Db => d.stadiums = db.stadiums) (fun d term d' h hd => ?_) h rfl
  unfold Db.insertUserTerm at h
  split at h
  · cases h
  · split at h
    · cases h
    · cases h; exact hd

theorem createLocalUser_keepsSides {dto : CreateLocalUserDto} {termIds : List String}
    {env : SignUpEnv} {user : User} (h : createLocalUser db dto termIds env = .ok (db', user)) :
    KeepsSides db db' := by
  have hs := (createLocalUser_ok h).1
  obtain ⟨nickname, terms, d1, d2, rfl, h1, h2, h3⟩ := createLocalUser_steps h
  have hterms := insertUserTerms_stadiums h3
  obtain rfl := insertUser_eq h1
  obtain rfl := insertLocalAuth_ok h2
  exact .of_same hs.teams hs.games hterms hs.registeredGames

theorem createSocialUser_keepsSides {email sub provider providerEmail : String} {isPrimary : Bool}
    {termIds : List String} {env : SignUpEnv} {user : User}
    (h : createSocialUser db email sub provider providerEmail isPrimary termIds env =
      .ok (db', user)) : KeepsSides db db' := by
  have hs := createSocialUser_ok h
  obtain ⟨nickname, auth, terms, d1, d2, rfl, -, h1, h2, h3⟩ := createSocialUser_steps h
  have hterms := insertUserTerms_stadiums h3
  obtain rfl := insertUser_eq h1
  obtain ⟨-, rfl⟩ := insertSocialAuth_ok h2
  exact .of_same hs.teams hs.games hterms hs.registeredGames

theorem Saves.keepsSides (h : Saves db db') : KeepsSides db db' := by
  cases h with
  | nothing => exact .refl db
  | registrations registeredGames ranks hrows => exact ⟨rfl, rfl, rfl, hrows⟩
  | profile user ranks hfind hid hemail => exact .of_same rfl rfl rfl rfl

theorem commit_keepsSides (db : Db) (op : Op) : KeepsSides db (db.commit op) := by
  have h := commit_cases db op
  generalize db.commit op = db' at h
  cases h with
  | saved h => exact h.keepsSides
  | localSignUp hcreate hins => exact (createLocalUser_keepsSides hcreate).inserted hins
  | socialSignUp hcreate hins => exact (createSocialUser_keepsSides hcreate).inserted hins
  | deleted => exact ⟨rfl, rfl, rfl, fun r hr => Or.inl (Table.mem_reject.1 hr).1⟩

end

/-! ## Histories -/

/-- A new game is on a day of the calendar. -/
def OnCalendar : Event → Prop
  | .newGame game => game.date.Valid
  | _ => True

section

variable (extractKeyFromUrl : String → Option String)

/-- Teams and stadiums are there from the start. -/
theorem next_league (w : World) (e : Event) :
    (w.next extractKeyFromUrl e).db.teams = w.db.teams ∧
      (w.next extractKeyFromUrl e).db.stadiums = w.db.stadiums := by
  cases e with
  | request op =>
    have hkeeps := commit_keepsSides w.db op
    rw [← World.step_db extractKeyFromUrl] at hkeeps
    exact ⟨hkeeps.teams, hkeeps.stadiums⟩
  | outcomes f => exact ⟨rfl, rfl⟩
  | newGame game =>
    show (w.db.insertGame game).teams = w.db.teams ∧ (w.db.insertGame game).stadiums = w.db.stadiums
    rcases insertGame_cases w.db game with he | ⟨-, he⟩ <;> rw [he] <;> exact ⟨rfl, rfl⟩

/-- The team of a registration stays stored. -/
theorem next_takes {w : World} (h : ∀ r ∈ w.db.registeredGames.rows, w.db.Takes r) (e : Event) :
    ∀ r ∈ (w.next extractKeyFromUrl e).db.registeredGames.rows,
      (w.next extractKeyFromUrl e).db.Takes r := by
  unfold Db.Takes
  rw [(next_league extractKeyFromUrl w e).1]
  cases e with
  | request op =>
    show ∀ r ∈ (w.step extractKeyFromUrl op).db.registeredGames.rows, _
    rw [World.step_db]
    exact fun r hr => ((commit_keepsSides w.db op).rows r hr).elim (h r) id
  | outcomes f => exact h
  | newGame game =>
    show ∀ r ∈ (w.db.insertGame game).registeredGames.rows, _
    rcases insertGame_cases w.db game with he | ⟨-, he⟩ <;> rw [he] <;> exact h

/-- What holds of every game, whatever its outcome, holds of them later when it holds of a new
game whose teams are stored. -/
theorem next_games {w : World} {P : GameRow → Prop}
    (houtcome : ∀ game o, P game → P (game.withOutcome o)) (h : ∀ game ∈ w.db.games.rows, P game)
    (e : Event)
    (hnew : ∀ game, e = .newGame game → (w.db.teams.find? game.homeTeam).isSome →
      (w.db.teams.find? game.awayTeam).isSome → P game) :
    ∀ game ∈ (w.next extractKeyFromUrl e).db.games.rows, P game := by
  cases e with
  | request op =>
    show ∀ game ∈ (w.step extractKeyFromUrl op).db.games.rows, P game
    rw [World.step_db, (commit_keepsSides w.db op).games]
    exact h
  | outcomes f =>
    intro game hgame
    obtain ⟨old, hold, rfl⟩ := List.mem_map.1 hgame
    exact houtcome old (f old) (h old hold)
  | newGame new =>
    show ∀ game ∈ (w.db.insertGame new).games.rows, P game
    rcases insertGame_cases w.db new with hdb | ⟨⟨hhome, haway⟩, hdb⟩ <;> rw [hdb]
    · exact h
    · intro game hgame
      rcases Table.mem_save.1 hgame with rfl | ⟨hgame, -⟩
      · exact hnew game rfl hhome haway
      · exact h game hgame

theorem CalendarInv.next {w : World} (h : CalendarInv w.db) (e : Event) (he : OnCalendar e) :
    CalendarInv (w.next extractKeyFromUrl e).db where
  ledger := nextOrFail_ledgerInv extractKeyFromUrl w (.event e) h.ledger
  rows := next_takes extractKeyFromUrl h.rows e
  dates := next_games extractKeyFromUrl (fun _ _ hgame => hgame) h.dates e
    fun _ hnew _ _ => by rwa [hnew] at he

variable (teams : Table Team.id) (stadiums : Table Stadium.id) (games : Table GameRow.id)
  (terms : Table Term.id)

/-- What the calendar rests on holds throughout. -/
theorem always_calendarInv (hdates : ∀ game ∈ games.rows, game.date.Valid) (history : List Event)
    (hnew : ∀ e ∈ history, OnCalendar e) :
    Always (World.next extractKeyFromUrl) (fun w => CalendarInv w.db)
      (World.start teams stadiums games terms) history := by
  have hstart : CalendarInv (World.start teams stadiums games terms).db := by
    refine ⟨⟨fun _ _ => rfl, ?_⟩, ?_, hdates⟩
    · exact fun r hr => absurd hr List.not_mem_nil
    · exact fun r hr => absurd hr List.not_mem_nil
  exact always_of_guarded (I := fun w : World => CalendarInv w.db)
    (fun w e h he => h.next extractKeyFromUrl e he) hstart (guarded_of_forall hnew)

/-- **The year adds up.**  After every event of a history, the twelve lists of a year hold as many
registrations of a user for a team, with a result, as the rank row of the year counts. -/
theorem calendar_adds_up (hdates : ∀ game ∈ games.rows, game.date.Valid) (history : List Event)
    (hnew : ∀ e ∈ history, OnCalendar e) :
    Always (World.next extractKeyFromUrl)
      (fun w => ∀ u t year s,
        ((List.range' 1 12).map fun month => (getAllMonthly w.db year month u).countP fun e =>
            e.cheeringTeam.map Team.id = some t && e.status = some s).sum =
          w.db.recorded ⟨u, t, year⟩ (GameResultColumnMap s))
      (World.start teams stadiums games terms) history :=
  (always_calendarInv extractKeyFromUrl teams stadiums games terms hdates history hnew).imp
    fun _ h u t year s => sum_months h u t year s

/-- The views agree on the registrations of a user. -/
structure ViewsAgree (db : Db) (u : Nat) : Prop where
  listed : ∀ r ∈ db.registeredGames.rows, r.user = u →
    ∃! month : Nat × Nat, toEntry db r ∈ getAllMonthly db month.1 month.2 u
  once : ∀ year month, ((getAllMonthly db year month u).map RegisteredGameEntry.id).Nodup
  sorted : ∀ year month, (getAllMonthly db year month u).Pairwise fun a b => ∀ ga gb,
    a.game = some ga → b.game = some gb → gb.date.le ga.date = true
  single : ∀ id e, getOne db id u = .ok e ↔
    e.id = id ∧ ∃ year month, e ∈ getAllMonthly db year month u
  daily : ∀ date gameId, gameId ∈ (getDailyGamesWithUserRegistration db date u).registeredGameIds ↔
    ∃ e ∈ getAllMonthly db date.year date.month u, ∃ game, e.game = some game ∧
      game.id = gameId ∧ game.date = date

/-- The month of the list that holds a registration is that of its game. -/
theorem mem_month {db : Db} (h : CalendarInv db) {r : RegisteredGame}
    (hr : r ∈ db.registeredGames.rows) {year month u : Nat} :
    toEntry db r ∈ getAllMonthly db year month u ↔ r.user = u ∧
      ∃ game, db.games.find? r.game = some game ∧ game.date.year = year ∧ game.date.month = month := by
  rw [mem_getAllMonthly]
  constructor
  · rintro ⟨r', hr', he, hu, game, hgame, hm⟩
    obtain rfl : r' = r := Table.eq_of_key hr' hr (congrArg RegisteredGameEntry.id he)
    exact ⟨hu, game, hgame, (between_month (h.dates game (Table.mem_of_find? hgame))).1 hm⟩
  · rintro ⟨hu, game, hgame, hm⟩
    exact ⟨r, hr, rfl, hu, game, hgame,
      (between_month (h.dates game (Table.mem_of_find? hgame))).2 hm⟩

theorem viewsAgree {db : Db} (h : CalendarInv db) (u : Nat) : ViewsAgree db u where
  listed r hr hu := by
    obtain ⟨game, hgame⟩ := Option.isSome_iff_exists.1 (h.ledger.game r hr)
    refine ⟨(game.date.year, game.date.month), (mem_month h hr).2 ⟨hu, game, hgame, rfl, rfl⟩, ?_⟩
    rintro ⟨year, month⟩ hlisted
    obtain ⟨-, game', hgame', rfl, rfl⟩ := (mem_month h hr).1 hlisted
    obtain rfl := Option.some.inj (hgame.symm.trans hgame')
    rfl
  once year month := getAllMonthly_nodup db year month u
  sorted year month := getAllMonthly_sorted db year month u
  single id e := by
    unfold getOne
    constructor
    · intro hone
      split at hone
      · cases hone
      · next r hfind =>
        have hr := Table.mem_of_find? hfind
        split at hone
        · next hu =>
          cases hone
          obtain ⟨game, hgame⟩ := Option.isSome_iff_exists.1 (h.ledger.game r hr)
          have hid : r.id = id := Table.find?_key hfind
          exact ⟨hid, game.date.year, game.date.month,
            (mem_month h hr).2 ⟨hu, game, hgame, rfl, rfl⟩⟩
        · cases hone
    · rintro ⟨rfl, year, month, he⟩
      obtain ⟨r, hr, rfl, hu, -⟩ := mem_getAllMonthly.1 he
      have hfind : db.registeredGames.find? (toEntry db r).id = some r := Table.find?_of_mem hr
      rw [hfind]
      exact if_pos hu
  daily date gameId := by
    unfold getDailyGamesWithUserRegistration
    simp only [List.mem_map, List.mem_filter, List.any_eq_true, Bool.and_eq_true, decide_eq_true_eq]
    constructor
    · rintro ⟨game, ⟨⟨hgame, rfl⟩, r, hr, hid, hu⟩, rfl⟩
      have hfind : db.games.find? r.game = some game := hid ▸ Table.find?_of_mem hgame
      refine ⟨toEntry db r, (mem_month h hr).2 ⟨hu, game, hfind, rfl, rfl⟩, toGameResDto db game,
        ?_, rfl, rfl⟩
      unfold toEntry
      rw [hfind]
      rfl
    · rintro ⟨e, he, dto, hdto, rfl, rfl⟩
      obtain ⟨r, hr, rfl, hu, game, hfind, -⟩ := mem_getAllMonthly.1 he
      unfold toEntry at hdto
      rw [hfind] at hdto
      cases hdto
      exact ⟨game, ⟨⟨Table.mem_of_find? hfind, rfl⟩, r, hr, (Table.find?_key hfind).symm, hu⟩, rfl⟩

/-- **The views agree.**  After every event of a history, a registration of a user is in the list of
exactly one month, the lists are sorted and hold nothing twice, the single view finds what is
listed, and a day marks the games that its month lists for it. -/
theorem calendar_views_agree (hdates : ∀ game ∈ games.rows, game.date.Valid) (history : List Event)
    (hnew : ∀ e ∈ history, OnCalendar e) :
    Always (World.next extractKeyFromUrl) (fun w => ∀ u, ViewsAgree w.db u)
      (World.start teams stadiums games terms) history :=
  (always_calendarInv extractKeyFromUrl teams stadiums games terms hdates history hnew).imp
    fun _ h u => viewsAgree h u

end

/-- A fan signs up, registers a game, changes sides and deletes it again. -/
def inAndOut : List Event :=
  [.newGame wonGame,
   .request (.registerLocalUser ⟨"fan@test", "pw", "", "fan", 1⟩ ⟨7, "hash", fun _ => 0⟩ 2025),
   .request (.register ⟨none, "A1", "good", wonGame.id, 1⟩ 7 1),
   .request (.update 1 ⟨2, "A1", "good", none⟩ 7),
   .request (.delete 1 7)]

theorem inAndOut_onCalendar : ∀ e ∈ inAndOut, OnCalendar e := by
  intro e he
  simp only [inAndOut, List.mem_cons, List.not_mem_nil, or_false] at he
  rcases he with rfl | rfl | rfl | rfl | rfl
  · exact ⟨by decide, by decide⟩
  all_goals trivial

theorem calendar_adds_up_inAndOut :
    Always (World.next some)
      (fun w => ∀ u t year s,
        ((List.range' 1 12).map fun month => (getAllMonthly w.db year month u).countP fun e =>
            e.cheeringTeam.map Team.id = some t && e.status = some s).sum =
          w.db.recorded ⟨u, t, year⟩ (GameResultColumnMap s))
      (World.start twoTeams leagueDb.stadiums .empty .empty) inAndOut :=
  calendar_adds_up some twoTeams leagueDb.stadiums .empty .empty
    (fun _ h => absurd h List.not_mem_nil) inAndOut inAndOut_onCalendar

theorem calendar_views_agree_inAndOut :
    Always (World.next some) (fun w => ∀ u, ViewsAgree w.db u)
      (World.start twoTeams leagueDb.stadiums .empty .empty) inAndOut :=
  calendar_views_agree some twoTeams leagueDb.stadiums .empty .empty
    (fun _ h => absurd h List.not_mem_nil) inAndOut inAndOut_onCalendar

end VictoryFairy
