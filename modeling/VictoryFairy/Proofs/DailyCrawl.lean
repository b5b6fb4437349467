import VictoryFairy.Lib.Past
import VictoryFairy.Model.DailyCrawl
import VictoryFairy.Proofs.Polls

/-!
# The games of the day

What a daily run finds it sets up, whatever came of its crawls, and a game is polled only
because of that.

    next_cases       : an event is one of the scheduler, a set-up by a run, or none
    today_is_watched : a game that a run finds is watched until it ends
    poll_was_due     : a game that is polled was found on its date, and has started
-/

namespace VictoryFairy

open Runs

namespace DailyCrawls

section

variable {formats : Formats} {triggerTime : GameRow → Nat} {getTodayDate : Nat → Date}
variable {s : DailyCrawls}

/-! ## What an event does -/

theorem mem_findGamesByDate {db : Db} {date : Date} {game : GameRow} :
    game ∈ findGamesByDate db date ↔ game ∈ db.games.rows ∧ game.date = date := by
  simp [findGamesByDate]

theorem getElem?_setRun {i j : Nat} {phase : DailyPhase} :
    (s.setRun i phase).runs[j]? =
      (s.runs[j]?).map fun r => if j = i then { r with phase } else r := by
  show (s.runs.modify i _)[j]? = _
  rw [List.getElem?_modify]
  by_cases h : i = j
  · simp [h]
  · simp [h, Ne.symm h]

/-- A run keeps the date it was begun on. -/
theorem todayDate_setRun {i j : Nat} {phase : DailyPhase} {r : DailyRun}
    (h : (s.setRun i phase).runs[j]? = some r) :
    ∃ old, s.runs[j]? = some old ∧ r.todayDate = old.todayDate := by
  rw [getElem?_setRun] at h
  obtain ⟨old, hold, rfl⟩ := Option.map_eq_some_iff.1 h
  refine ⟨old, hold, ?_⟩
  split <;> rfl

/-- How a run goes on. -/
inductive GoesOn (s : DailyCrawls) (r : DailyRun) : DailyPhase → Prop where
  | crawled (h : r.phase = .thisMonth ∨ r.phase = .nextMonth) {phase : DailyPhase}
      (hp : phase = .nextMonth ∨ phase = .findGames) : GoesOn s r phase
  | found (h : r.phase = .findGames) :
      GoesOn s r (.setup (findGamesByDate s.jobs.db r.todayDate))
  | rejected (h : r.phase = .findGames) : GoesOn s r .rejected
  | finished {games : List GameRow} (h : r.phase = .setup games) : GoesOn s r .done

/-- An event is one of the scheduler, begins a run, lets a run crawl or find its games, or is
the set-up of a run. -/
theorem next_cases (formats : Formats) (triggerTime : GameRow → Nat)
    (getTodayDate : Nat → Date) (s : DailyCrawls) (e : DailyEvent) :
    (s.next formats triggerTime getTodayDate e = s) ∨
    (∃ j, e = .job j ∧ (∀ games, j ≠ .setup games) ∧
      s.next formats triggerTime getTodayDate e = { s with jobs := s.jobs.step triggerTime j }) ∨
    (e = .begin ∧ s.next formats triggerTime getTodayDate e =
      { s with runs := s.runs ++ [⟨getTodayDate s.jobs.time, .thisMonth⟩] }) ∨
    (∃ i r phase db, s.runs[i]? = some r ∧ GoesOn s r phase ∧ phase ≠ .done ∧
      (∀ games, phase = .setup games → e = .resume i) ∧
      s.next formats triggerTime getTodayDate e =
        { s with jobs := s.jobs.step triggerTime (.write db) }.setRun i phase) ∨
    (∃ i date games, s.runs[i]? = some ⟨date, .setup games⟩ ∧
      s.next formats triggerTime getTodayDate e =
        { s with jobs := s.jobs.step triggerTime (.setup games) }.setRun i .done) := by
  cases e with
  | job j =>
    cases j with
    | setup games => exact Or.inl rfl
    | elapse ms | fire job | tick job | answer i currentStatus | advance i | write db =>
      exact Or.inr (Or.inl ⟨_, rfl, fun _ => JobEvent.noConfusion, rfl⟩)
  | begin => exact Or.inr (Or.inr (Or.inl ⟨rfl, rfl⟩))
  | crawl i ids response retry =>
    unfold next crawl
    dsimp only
    split
    · next date hi =>
      exact Or.inr (Or.inr (Or.inr (Or.inl ⟨i, _, .nextMonth, _, hi,
        .crawled (Or.inl rfl) (Or.inl rfl), DailyPhase.noConfusion, fun _ => DailyPhase.noConfusion,
        rfl⟩)))
    · next date hi =>
      exact Or.inr (Or.inr (Or.inr (Or.inl ⟨i, _, .findGames, _, hi,
        .crawled (Or.inr rfl) (Or.inr rfl), DailyPhase.noConfusion, fun _ => DailyPhase.noConfusion,
        rfl⟩)))
    · exact Or.inl rfl
  | resume i =>
    unfold next resume
    dsimp only
    split
    · next date hi =>
      exact Or.inr (Or.inr (Or.inr (Or.inl ⟨i, _, _, s.jobs.db, hi, .found rfl,
        DailyPhase.noConfusion, fun _ _ => rfl, rfl⟩)))
    · next date games hi => exact Or.inr (Or.inr (Or.inr (Or.inr ⟨i, date, games, hi, rfl⟩)))
    · exact Or.inl rfl
  | reject i =>
    unfold next reject
    dsimp only
    split
    · next date hi =>
      exact Or.inr (Or.inr (Or.inr (Or.inl ⟨i, _, .rejected, s.jobs.db, hi, .rejected rfl,
        DailyPhase.noConfusion, fun _ => DailyPhase.noConfusion, rfl⟩)))
    · exact Or.inl rfl

/-! ## From the query to the last poll -/

/-- No poll of the game is terminal. -/
def StillPlayed (gameId : String) (s : DailyCrawls) : DailyEvent → Prop
  | .job e => GameJobs.StillPlayed gameId s.jobs e
  | _ => True

/-- The scheduler makes at most one step, which is no terminal poll. -/
theorem jobs_next (formats : Formats) (triggerTime : GameRow → Nat) (getTodayDate : Nat → Date)
    {gameId : String} {e : DailyEvent} (he : StillPlayed gameId s e) :
    (s.next formats triggerTime getTodayDate e).jobs = s.jobs ∨
      ∃ j, GameJobs.StillPlayed gameId s.jobs j ∧
        (s.next formats triggerTime getTodayDate e).jobs = s.jobs.step triggerTime j := by
  rcases next_cases formats triggerTime getTodayDate s e with h | ⟨j, rfl, -, h⟩ | ⟨-, h⟩ |
    ⟨i, r, phase, db, -, -, -, -, h⟩ | ⟨i, date, games, -, h⟩
  · rw [h]
    exact Or.inl rfl
  · rw [h]
    exact Or.inr ⟨j, he, rfl⟩
  · rw [h]
    exact Or.inl rfl
  · rw [h]
    exact Or.inr ⟨.write db, trivial, rfl⟩
  · rw [h]
    exact Or.inr ⟨.setup games, trivial, rfl⟩

/-- The registry is consistent, and no poll of the game was terminal. -/
structure Playing (gameId : String) (s : DailyCrawls) : Prop where
  consistent : s.jobs.Consistent
  none : s.jobs.NoneTerminal gameId

theorem Playing.next {gameId : String} (h : Playing gameId s) {e : DailyEvent}
    (he : StillPlayed gameId s e) :
    Playing gameId (s.next formats triggerTime getTodayDate e) := by
  rcases jobs_next formats triggerTime getTodayDate he with heq | ⟨j, hj, heq⟩
  · exact ⟨heq ▸ h.consistent, heq ▸ h.none⟩
  · exact ⟨heq ▸ GameJobs.step_consistent h.consistent j, heq ▸ h.none.step hj⟩

theorem watched_next {game : GameRow} (h : Playing game.id s) (hw : s.jobs.Watched game.id)
    {e : DailyEvent} (he : StillPlayed game.id s e) :
    (s.next formats triggerTime getTodayDate e).jobs.Watched game.id := by
  rcases jobs_next formats triggerTime getTodayDate he with heq | ⟨j, hj, heq⟩
  · rw [heq]
    exact hw
  · rw [heq]
    exact hw.step h.consistent h.none j

/-- The run has found the game and is going to set it up, or the game is watched. -/
def Pursued (i : Nat) (game : GameRow) (s : DailyCrawls) : Prop :=
  (∃ date games, s.runs[i]? = some ⟨date, .setup games⟩ ∧ game ∈ games) ∨
    ((∃ date, s.runs[i]? = some ⟨date, .done⟩) ∧ s.jobs.Watched game.id)

theorem pursued_next {i : Nat} {game : GameRow} (h : Playing game.id s) (hp : Pursued i game s)
    {e : DailyEvent} (he : StillPlayed game.id s e) :
    Pursued i game (s.next formats triggerTime getTodayDate e) := by
  -- the run stays where it is
  have hkeep : (s.next formats triggerTime getTodayDate e).runs[i]? = s.runs[i]? →
      Pursued i game (s.next formats triggerTime getTodayDate e) := by
    intro heq
    refine hp.imp (fun hsetup => heq ▸ hsetup) fun ⟨hdone, hw⟩ => ⟨heq ▸ hdone, ?_⟩
    exact watched_next h hw he
  rcases next_cases formats triggerTime getTodayDate s e with heq | ⟨j, -, -, heq⟩ | ⟨-, heq⟩ |
    ⟨j, r, phase, db, hj, hgoes, hdone, -, heq⟩ | ⟨j, date, games, hj, heq⟩
  · exact hkeep (by rw [heq])
  · exact hkeep (by rw [heq])
  · refine hkeep ?_
    rw [heq]
    have hlt : i < s.runs.length := by
      rcases hp with ⟨date, games, hi, -⟩ | ⟨⟨date, hi⟩, -⟩ <;>
        exact (List.getElem?_eq_some_iff.1 hi).1
    exact List.getElem?_append_left hlt
  · refine hkeep ?_
    have hji : j ≠ i := by
      rintro rfl
      rcases hp with ⟨date, games, hi, -⟩ | ⟨⟨date, hi⟩, -⟩ <;>
        obtain rfl := Option.some.inj (hj.symm.trans hi)
      · cases hgoes with
        | crawled h => rcases h with h | h <;> cases h
        | found h | rejected h => cases h
        | finished => exact hdone rfl
      · cases hgoes with
        | crawled h => rcases h with h | h <;> cases h
        | found h | rejected h | finished h => cases h
    rw [heq, getElem?_setRun]
    simp [Ne.symm hji]
  · by_cases hji : j = i
    · subst hji
      rcases hp with ⟨date', games', hi, hmem⟩ | ⟨⟨date', hi⟩, -⟩
      · cases hj.symm.trans hi
        refine Or.inr ⟨⟨date, ?_⟩, ?_⟩
        · rw [heq, getElem?_setRun, hj]
          simp
        · rw [heq]
          show (GameJobs.settle
            (s.jobs.setupTriggerForGameScoreCrawlingJob triggerTime games)).Watched game.id
          rw [GameJobs.setup_eq]
          exact GameJobs.watched_setup h.consistent games (Or.inr ⟨game, hmem, rfl⟩)
      · cases hj.symm.trans hi
    · refine hkeep ?_
      rw [heq, getElem?_setRun]
      simp [Ne.symm hji]

end

/-- **The games of the day.**  When a daily run has ended, a game that its query found is
watched from then on, as long as no poll of it was terminal: whatever came of the crawls, and
whatever timers, polls, requests and other runs came in between. -/
theorem today_is_watched (formats : Formats) (triggerTime : GameRow → Nat)
    (getTodayDate : Nat → Date) (time : Nat) (db : Db) (before between after : List DailyEvent)
    (i : Nat) (date : Date) (game : GameRow)
    (hfind : (run (next formats triggerTime getTodayDate) (start time db) before).runs[i]? =
      some ⟨date, .findGames⟩)
    (hgame : game ∈ (run (next formats triggerTime getTodayDate) (start time db)
      before).jobs.db.games.rows)
    (hdate : game.date = date)
    (hended : (run (next formats triggerTime getTodayDate) (start time db)
      (before ++ .resume i :: between)).runs[i]? = some ⟨date, .done⟩)
    (hplayed : Guarded (next formats triggerTime getTodayDate) (StillPlayed game.id) (start time db)
      (before ++ .resume i :: (between ++ after))) :
    Always (next formats triggerTime getTodayDate) (fun s => s.jobs.Watched game.id)
      (run (next formats triggerTime getTodayDate) (start time db)
        (before ++ .resume i :: between)) after := by
  have hstart : Playing game.id (start time db) :=
    ⟨GameJobs.start_consistent time db, fun c hmem => by cases hmem⟩
  obtain ⟨hbefore, hresume, hrest⟩ := (guarded_append _ _ _).1 hplayed
  obtain ⟨hbetween, hafter⟩ := (guarded_append _ _ _).1 hrest
  have hs := (always_of_guarded (fun _ _ h he => h.next he) hstart hbefore).last
  generalize hsdef : run (next formats triggerTime getTodayDate) (start time db) before = s at *
  have hfound : Pursued i game (s.next formats triggerTime getTodayDate (.resume i)) := by
    refine Or.inl ⟨date, findGamesByDate s.jobs.db date, ?_, mem_findGamesByDate.2 ⟨hgame, hdate⟩⟩
    unfold next resume
    dsimp only
    rw [hfind]
    dsimp only
    rw [getElem?_setRun, hfind]
    simp
  have hstep : ∀ s' e, Playing game.id s' ∧ Pursued i game s' → StillPlayed game.id s' e →
      Playing game.id (s'.next formats triggerTime getTodayDate e) ∧
        Pursued i game (s'.next formats triggerTime getTodayDate e) :=
    fun s' e h he => ⟨h.1.next he, pursued_next h.1 h.2 he⟩
  have hend := (always_of_guarded hstep ⟨hs.next hresume, hfound⟩ hbetween).last
  rw [run_append, hsdef, run_cons] at hended ⊢
  have hw : (run (next formats triggerTime getTodayDate)
      (s.next formats triggerTime getTodayDate (.resume i)) between).jobs.Watched game.id := by
    rcases hend.2 with ⟨date', games, hi, -⟩ | ⟨-, hw⟩
    · cases hended.symm.trans hi
    · exact hw
  exact (always_of_guarded (C := StillPlayed game.id)
    (I := fun s' => Playing game.id s' ∧ s'.jobs.Watched game.id)
    (fun s' e h he => ⟨h.1.next he, watched_next h.1 h.2 he⟩) ⟨hend.1, hw⟩ hafter).imp
    fun s' h => h.2

def noFormats : Formats := ⟨fun _ => false, fun _ => none, fun _ => none⟩

/-- A day on which the schedule page does not answer. -/
theorem today_is_watched_noAnswer :
    Always (next noFormats (fun _ => 0) fun _ => wonGame.date) (fun s => s.jobs.Watched wonGame.id)
      (run (next noFormats (fun _ => 0) fun _ => wonGame.date)
        (start 1 (leagueDb.insertGame wonGame))
        [.begin, .crawl 0 ⟨3, 2⟩ none none, .crawl 0 ⟨3, 2⟩ none none, .resume 0, .resume 0])
      [.job (.elapse 60000), .begin] :=
  today_is_watched noFormats (fun _ => 0) (fun _ => wonGame.date) 1 (leagueDb.insertGame wonGame)
    [.begin, .crawl 0 ⟨3, 2⟩ none none, .crawl 0 ⟨3, 2⟩ none none] [.resume 0]
    [.job (.elapse 60000), .begin] 0 wonGame.date wonGame rfl List.mem_cons_self rfl rfl
    ⟨trivial, trivial, trivial, trivial, trivial, trivial, trivial, trivial⟩

/-! ## Why a game is polled -/

section

variable (formats : Formats) (triggerTime : GameRow → Nat) (getTodayDate : Nat → Date)
variable (time : Nat) (db : Db)

/-- The run was begun on the date. -/
def Began (i : Nat) (date : Date) (events : List DailyEvent) : Prop :=
  Occurs (fun before e => e = .begin ∧
    (run (next formats triggerTime getTodayDate) (start time db) before).runs.length = i ∧
    getTodayDate (run (next formats triggerTime getTodayDate) (start time db) before).jobs.time =
      date) events

/-- The row was stored when a run that was begun on the date of the game made its query. -/
def Found (row : GameRow) (events : List DailyEvent) : Prop :=
  Occurs (fun before e => ∃ i, e = .resume i ∧
    (run (next formats triggerTime getTodayDate) (start time db) before).runs[i]? =
      some ⟨row.date, .findGames⟩ ∧
    Began formats triggerTime getTodayDate time db i row.date before ∧
    row ∈ (run (next formats triggerTime getTodayDate) (start time db) before).jobs.db.games.rows)
    events

/-- The game was found, and by what was found it has started. -/
def Due (gameId : String) (now : Nat) (events : List DailyEvent) : Prop :=
  ∃ row, row.id = gameId ∧ triggerTime row ≤ now ∧
    Found formats triggerTime getTodayDate time db row events

/-- What a job is there for. -/
def Allowed (now : Nat) (events : List DailyEvent) : CronTask → Prop
  | .crawling => True
  | .trigger row => Found formats triggerTime getTodayDate time db row events
  | .score gameId => Due formats triggerTime getTodayDate time db gameId now events

/-- The runs and the jobs are there for a reason. -/
structure Traced (events : List DailyEvent) (s : DailyCrawls) : Prop where
  dates : ∀ i r, s.runs[i]? = some r →
    Began formats triggerTime getTodayDate time db i r.todayDate events
  setups : ∀ r ∈ s.runs, ∀ games, r.phase = .setup games → ∀ row ∈ games,
    Found formats triggerTime getTodayDate time db row events
  jobs : s.jobs.Active (Allowed formats triggerTime getTodayDate time db s.jobs.time events)

variable {formats triggerTime getTodayDate time db} {events : List DailyEvent}

theorem Began.concat {i : Nat} {date : Date}
    (h : Began formats triggerTime getTodayDate time db i date events) (e : DailyEvent) :
    Began formats triggerTime getTodayDate time db i date (events ++ [e]) :=
  occurs_concat.2 (Or.inl h)

theorem Found.concat {row : GameRow} (h : Found formats triggerTime getTodayDate time db row events)
    (e : DailyEvent) : Found formats triggerTime getTodayDate time db row (events ++ [e]) :=
  occurs_concat.2 (Or.inl h)

theorem Due.later {gameId : String} {now now' : Nat} (hle : now ≤ now') (e : DailyEvent)
    (h : Due formats triggerTime getTodayDate time db gameId now events) :
    Due formats triggerTime getTodayDate time db gameId now' (events ++ [e]) := by
  obtain ⟨row, hid, ht, hfound⟩ := h
  exact ⟨row, hid, Nat.le_trans ht hle, hfound.concat e⟩

theorem Allowed.later {task : CronTask} {now now' : Nat} (hle : now ≤ now') (e : DailyEvent)
    (h : Allowed formats triggerTime getTodayDate time db now events task) :
    Allowed formats triggerTime getTodayDate time db now' (events ++ [e]) task := by
  cases task with
  | crawling => trivial
  | trigger row => exact Found.concat h e
  | score gameId => exact Due.later hle e h

/-- A job of the scheduler comes from one that was there, or from games that were found. -/
theorem allowed_step {s : GameJobs} {j : JobEvent} {e : DailyEvent}
    (h : s.Active (Allowed formats triggerTime getTodayDate time db s.time events))
    (hsetup : ∀ games, j = .setup games → ∀ row ∈ games,
      Found formats triggerTime getTodayDate time db row events) :
    (s.step triggerTime j).Active (Allowed formats triggerTime getTodayDate time db
      (s.step triggerTime j).time (events ++ [e])) := by
  have hle := GameJobs.time_step triggerTime s j
  have hlater : s.Active (Allowed formats triggerTime getTodayDate time db
      (s.step triggerTime j).time (events ++ [e])) :=
    fun i job hjob ha => (h i job hjob ha).later hle e
  refine hlater.step (fun games hj row hrow => ?_) fun row hrow ht => ?_
  · have hfound := (hsetup games hj row hrow).concat e
    split
    · next ht => exact ⟨row, rfl, Nat.le_trans (Nat.le_of_lt ht) hle, hfound⟩
    · exact hfound
  · exact ⟨row, rfl, Nat.le_trans ht hle, hrow⟩

/-- An event keeps the reasons. -/
theorem Traced.next (e : DailyEvent)
    (h : Traced formats triggerTime getTodayDate time db events
      (run (next formats triggerTime getTodayDate) (start time db) events)) :
    Traced formats triggerTime getTodayDate time db (events ++ [e])
      (run (DailyCrawls.next formats triggerTime getTodayDate) (start time db) (events ++ [e])) := by
  rw [run_concat]
  generalize hs : run (DailyCrawls.next formats triggerTime getTodayDate) (start time db) events = s at *
  have hdates := fun i r hr => (h.dates i r hr).concat e
  have hsetups := fun r hr games hp row hrow => (h.setups r hr games hp row hrow).concat e
  rcases next_cases formats triggerTime getTodayDate s e with heq | ⟨j, rfl, hj, heq⟩ | ⟨rfl, heq⟩ |
    ⟨i, r, phase, db', hi, hgoes, hdone, hresume, heq⟩ | ⟨i, date, games, hi, heq⟩
  · rw [heq]
    exact ⟨hdates, hsetups, fun i job hjob ha => (h.jobs i job hjob ha).later (Nat.le_refl _) e⟩
  · rw [heq]
    exact ⟨hdates, hsetups, allowed_step h.jobs fun games hg => absurd hg (hj games)⟩
  · rw [heq]
    refine ⟨fun i r hi => ?_, fun r hr games hp => ?_,
      fun i job hjob ha => (h.jobs i job hjob ha).later (Nat.le_refl _) .begin⟩
    · rcases Nat.lt_or_ge i s.runs.length with hlt | hge
      · rw [List.getElem?_append_left hlt] at hi
        exact hdates i r hi
      · -- the run that begins is the last one
        rw [List.getElem?_append_right hge, List.getElem?_singleton] at hi
        split at hi
        · next hzero =>
          cases hi
          exact occurs_concat.2 (Or.inr ⟨rfl, by rw [hs]; omega, by rw [hs]⟩)
        · cases hi
    · rcases List.mem_append.1 hr with hr | hr
      · exact hsetups r hr games hp
      · rw [List.mem_singleton.1 hr] at hp
        cases hp
  · rw [heq]
    have hmem := List.mem_of_getElem? hi
    refine ⟨fun j r' hj => ?_, fun r' hr' games hp row hrow => ?_, ?_⟩
    · obtain ⟨old, hold, hdate⟩ := todayDate_setRun hj
      rw [hdate]
      exact hdates j old hold
    · obtain ⟨j, hj⟩ := List.getElem?_of_mem hr'
      rw [getElem?_setRun] at hj
      obtain ⟨old, hold, rfl⟩ := Option.map_eq_some_iff.1 hj
      by_cases hji : j = i
      · rw [if_pos hji] at hp
        subst hji
        obtain rfl : old = r := Option.some.inj (hold.symm.trans hi)
        subst hp
        cases hgoes with
        | crawled _ hp => rcases hp with hp | hp <;> cases hp
        | found hphase =>
          obtain ⟨hgame, hdate⟩ := mem_findGamesByDate.1 hrow
          obtain ⟨todayDate, phase⟩ := old
          dsimp only at hphase hdate
          subst hphase hdate
          refine occurs_concat.2 (Or.inr ⟨j, hresume _ rfl, ?_, h.dates j _ hi, ?_⟩)
          · rw [hs]
            exact hi
          · rw [hs]
            exact hgame
      · rw [if_neg hji] at hp
        exact hsetups old (List.mem_of_getElem? hold) games hp row hrow
    · exact allowed_step h.jobs fun games hg => JobEvent.noConfusion hg
  · rw [heq]
    refine ⟨fun j r' hj => ?_, fun r' hr' games' hp row hrow => ?_, ?_⟩
    · obtain ⟨old, hold, hdate⟩ := todayDate_setRun hj
      rw [hdate]
      exact hdates j old hold
    · rcases mem_modify_cases hr' with hold | ⟨old, hold, rfl⟩
      · exact hsetups r' hold games' hp row hrow
      · cases hp
    · refine allowed_step h.jobs ?_
      rintro _ ⟨⟩ row hrow
      exact h.setups _ (List.mem_of_getElem? hi) games rfl row hrow

theorem traced (events : List DailyEvent) :
    Traced formats triggerTime getTodayDate time db events
      (run (DailyCrawls.next formats triggerTime getTodayDate) (start time db) events) := by
  induction events using List.reverseRecOn with
  | nil =>
    refine ⟨fun i r hr => absurd (List.mem_of_getElem? hr) List.not_mem_nil,
      fun r hr => absurd hr List.not_mem_nil, ?_⟩
    intro i job hjob _
    cases i with
    | zero => cases hjob; trivial
    | succ i => cases hjob
  | append_singleton events e ih => exact ih.next e

/-- The polls of a game after an event, where none of its score jobs is active. -/
theorem pollsOf_next {s : DailyCrawls} {gameId : String}
    (h : s.jobs.Active fun task => task ≠ .score gameId) (e : DailyEvent) :
    (s.next formats triggerTime getTodayDate e).jobs.pollsOf gameId = s.jobs.pollsOf gameId := by
  rcases next_cases formats triggerTime getTodayDate s e with heq | ⟨j, -, -, heq⟩ | ⟨-, heq⟩ |
    ⟨i, r, phase, db', -, -, -, -, heq⟩ | ⟨i, date, games, -, heq⟩
  · rw [heq]
  · rw [heq]
    exact GameJobs.pollsOf_step h j
  · rw [heq]
  · rw [heq]
    rfl
  · rw [heq]
    exact GameJobs.pollsOf_step h (.setup games)

theorem time_next (s : DailyCrawls) (e : DailyEvent) :
    s.jobs.time ≤ (s.next formats triggerTime getTodayDate e).jobs.time := by
  rcases next_cases formats triggerTime getTodayDate s e with heq | ⟨j, -, -, heq⟩ | ⟨-, heq⟩ |
    ⟨i, r, phase, db', -, -, -, -, heq⟩ | ⟨i, date, games, -, heq⟩ <;> rw [heq]
  · exact GameJobs.time_step triggerTime s.jobs j
  · exact GameJobs.time_step triggerTime s.jobs (.write db')
  · exact GameJobs.time_step triggerTime s.jobs (.setup games)

end

/-- **Why a game is polled.**  A game of which a poll was started has begun, by a row that a daily
run of its date has found. -/
theorem poll_was_due (formats : Formats) (triggerTime : GameRow → Nat) (getTodayDate : Nat → Date)
    (time : Nat) (db : Db) (events : List DailyEvent) (gameId : String)
    (hpolled : 0 < (run (next formats triggerTime getTodayDate) (start time db)
      events).jobs.pollsOf gameId) :
    Due formats triggerTime getTodayDate time db gameId
      (run (next formats triggerTime getTodayDate) (start time db) events).jobs.time events := by
  induction events using List.reverseRecOn with
  | nil => cases hpolled
  | append_singleton events e ih =>
    rw [run_concat] at hpolled ⊢
    by_cases hdue : Due formats triggerTime getTodayDate time db gameId
        (run (next formats triggerTime getTodayDate) (start time db) events).jobs.time events
    · exact hdue.later (time_next _ e) e
    · -- no score job of the game is active
      have hnone : (run (next formats triggerTime getTodayDate) (start time db)
          events).jobs.Active fun task => task ≠ .score gameId := by
        rintro i ⟨_, isActive⟩ hjob ha rfl
        exact hdue ((traced events).jobs i _ hjob ha)
      rw [pollsOf_next hnone] at hpolled
      exact absurd (ih hpolled) hdue

/-- The first poll of the day's game. -/
def firstPoll : List DailyEvent :=
  [.begin, .crawl 0 ⟨3, 2⟩ none none, .crawl 0 ⟨3, 2⟩ none none, .resume 0, .resume 0,
   .job (.tick 1)]

theorem poll_was_due_firstPoll :
    Due noFormats (fun _ => 0) (fun _ => wonGame.date) 1 (leagueDb.insertGame wonGame) wonGame.id
      (run (next noFormats (fun _ => 0) fun _ => wonGame.date)
        (start 1 (leagueDb.insertGame wonGame)) firstPoll).jobs.time firstPoll :=
  poll_was_due noFormats (fun _ => 0) (fun _ => wonGame.date) 1 (leagueDb.insertGame wonGame)
    firstPoll wonGame.id (by decide +kernel)

end DailyCrawls

end VictoryFairy
