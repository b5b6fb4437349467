import VictoryFairy.Model.GameJobs
import VictoryFairy.Proofs.RegisterRace

/-!
# One polling job for each game

Every step of the registry is one of three: a job is launched under the name of its task
(what had the name is deleted first), a name is deleted, a job is stopped.  `Consistent`
is kept by each of them, and they tell whether a game is still watched.

    handleGameTriggerJob_eq, setup_eq, runTrigger_eq : the services are launches
    step_effect, Effect.frame : what an event does, and does to the callbacks
    step_consistent        : every event keeps the registry consistent
    cron_jobs_consistent   : so a game has one job, and `addCronJob` never throws
-/

namespace VictoryFairy

open Runs

/-! ## Names -/

/-- A name tells what kind of job it is and of which game. -/
theorem CronTask.jobName_inj {t t' : CronTask} (h : t.jobName = t'.jobName) :
    t.gameId = t'.gameId ∧ (t = .crawling ↔ t' = .crawling) ∧
      ((∃ g, t = .score g) ↔ ∃ g, t' = .score g) := by
  have hlist := congrArg String.toList h
  cases t <;> cases t' <;>
    simp [jobName, gameId, SCHEDULER_NAME.CRAWLING_JOB_1AM, SCHEDULER_NAME.GAME_TRIGGER,
      SCHEDULER_NAME.UPDATE_GAME_SCORE, String.toList_append] at hlist ⊢
  all_goals exact String.toList_injective hlist

namespace GameJobs

/-! ## The three steps -/

/-- A job of the task is made, takes the name and runs. -/
def launch (s : GameJobs) (task : CronTask) : GameJobs :=
  let s := s.deleteExistingCronJob task.jobName
  { s with
    jobs := s.jobs ++ [⟨task, true⟩]
    cronJobs := Function.update s.cronJobs task.jobName (some s.jobs.length) }

theorem deleteExisting_none {s : GameJobs} {name : String} (h : s.cronJobs name = none) :
    s.deleteExistingCronJob name = s := by
  unfold deleteExistingCronJob doesExist
  rw [h]
  rfl

theorem deleteExisting_some {s : GameJobs} {name : String} {job : Nat}
    (h : s.cronJobs name = some job) :
    s.deleteExistingCronJob name =
      { s.setActive job false with cronJobs := Function.update s.cronJobs name none } := by
  unfold deleteExistingCronJob deleteCronJob doesExist
  rw [h]
  rfl

/-- The name is free afterwards. -/
@[simp] theorem cronJobs_deleteExisting (s : GameJobs) (name name' : String) :
    (s.deleteExistingCronJob name).cronJobs name' =
      if name' = name then none else s.cronJobs name' := by
  cases h : s.cronJobs name with
  | none =>
    rw [deleteExisting_none h]
    split
    · next he => rw [he, h]
    · rfl
  | some job =>
    rw [deleteExisting_some h]
    exact Function.update_apply s.cronJobs name none name'

/-- A job is as it was, or it is the one the step is about. -/
theorem getElem?_setActive {s : GameJobs} {i h : Nat} {isActive : Bool} {job : CronJob} :
    (s.setActive i isActive).jobs[h]? = some job ↔
      ∃ old, s.jobs[h]? = some old ∧ job = if h = i then { old with isActive } else old := by
  unfold setActive
  dsimp only
  rw [List.getElem?_modify]
  cases s.jobs[h]? with
  | none => simp
  | some old =>
    by_cases he : i = h
    · simp [he, eq_comm]
    · simp [he, Ne.symm he, eq_comm]

theorem register_eq (s : GameJobs) (task : CronTask) (isActive : Bool)
    (h : s.cronJobs task.jobName = none) :
    (s.newCronJob task isActive).register task =
      ({ s with
          jobs := s.jobs ++ [⟨task, true⟩]
          cronJobs := Function.update s.cronJobs task.jobName (some s.jobs.length) }, .ok ()) := by
  have hfree : (s.newCronJob task isActive).doesExist task.jobName = false := by
    unfold doesExist newCronJob
    dsimp only
    rw [h]
    rfl
  unfold register addCronJob
  rw [hfree]
  simp [newCronJob, setActive, modify_concat]

theorem handleGameTriggerJob_eq (s : GameJobs) (gameId : String) :
    s.handleGameTriggerJob gameId = (s.launch (.score gameId), .ok ()) :=
  register_eq _ _ _ (by simp)

section

variable (triggerTime : GameRow → Nat)

/-- What is set up for one game: its polling when it should have started, else its trigger. -/
def armed (s : GameJobs) (game : GameRow) : GameJobs :=
  if triggerTime game < s.time then
    (s.deleteExistingCronJob (CronTask.trigger game).jobName).launch (.score game.id)
  else s.launch (.trigger game)

theorem setupTrigger_eq (s : GameJobs) (game : GameRow) :
    s.setupTrigger triggerTime game = (s.armed triggerTime game, .ok ()) := by
  have htime : (s.deleteExistingCronJob (CronTask.trigger game).jobName).time = s.time := by
    unfold deleteExistingCronJob deleteCronJob
    split
    · split <;> rfl
    · rfl
  unfold setupTrigger armed
  dsimp only
  rw [htime]
  split
  · exact handleGameTriggerJob_eq _ game.id
  · exact register_eq _ _ _ (by simp)

theorem setup_eq (s : GameJobs) (games : List GameRow) :
    s.setupTriggerForGameScoreCrawlingJob triggerTime games =
      (games.foldl (armed triggerTime) s, .ok ()) := by
  induction games generalizing s with
  | nil => rfl
  | cons game games ih =>
    unfold setupTriggerForGameScoreCrawlingJob
    rw [setupTrigger_eq]
    exact ih _

theorem runTrigger_eq (s : GameJobs) (game : GameRow) :
    s.runTrigger game =
      ((s.launch (.score game.id)).deleteExistingCronJob (CronTask.trigger game).jobName,
        .ok ()) := by
  unfold runTrigger
  rw [handleGameTriggerJob_eq]

end

/-! ## The registry -/

/-- A name is that of its job, an active job has its name, the crawl goes on, and a callback
belongs to a score job of its game. -/
structure Consistent (s : GameJobs) : Prop where
  named : ∀ name h, s.cronJobs name = some h →
    ∃ job, s.jobs[h]? = some job ∧ job.task.jobName = name
  active : ∀ (h : Nat) job, s.jobs[h]? = some job → job.isActive = true →
    s.cronJobs job.task.jobName = some h
  crawling : s.jobs[0]? = some ⟨.crawling, true⟩
  callbacks : ∀ c ∈ s.callbacks, ∃ isActive, s.jobs[c.intervalJob]? = some ⟨.score c.gameId, isActive⟩

theorem start_consistent (time : Nat) (db : Db) : Consistent (start time db) := by
  refine ⟨fun name h hname => ?_, fun h job hjob hactive => ?_, rfl, fun c hc => by cases hc⟩
  · unfold start at hname
    dsimp only at hname
    rw [Function.update_apply] at hname
    split at hname
    · next he =>
      cases hname
      exact ⟨⟨.crawling, true⟩, rfl, he.symm⟩
    · cases hname
  · cases h with
    | zero =>
      cases hjob
      simp [start]
    | succ h => cases hjob

section

variable {s : GameJobs}

/-- Only the jobs and the names matter. -/
theorem Consistent.congr {s' : GameJobs} (hc : Consistent s) (hj : s'.jobs = s.jobs)
    (hn : s'.cronJobs = s.cronJobs)
    (hcallbacks : ∀ c ∈ s'.callbacks, ∃ c' ∈ s.callbacks,
      c.intervalJob = c'.intervalJob ∧ c.gameId = c'.gameId) : Consistent s' where
  named := by rw [hj, hn]; exact hc.named
  active := by rw [hj, hn]; exact hc.active
  crawling := by rw [hj]; exact hc.crawling
  callbacks := by
    intro c hmem
    obtain ⟨c', hmem', hjob, hgame⟩ := hcallbacks c hmem
    rw [hj, hjob, hgame]
    exact hc.callbacks c' hmem'

/-- The task of a job stays what it is. -/
theorem callback_setActive (hc : Consistent s) (i : Nat) (b : Bool) :
    ∀ c ∈ s.callbacks, ∃ isActive,
      (s.setActive i b).jobs[c.intervalJob]? = some ⟨.score c.gameId, isActive⟩ := by
  intro c hmem
  obtain ⟨isActive, hjob⟩ := hc.callbacks c hmem
  by_cases he : c.intervalJob = i
  · exact ⟨b, getElem?_setActive.2 ⟨_, hjob, by rw [if_pos he]⟩⟩
  · exact ⟨isActive, getElem?_setActive.2 ⟨_, hjob, by rw [if_neg he]⟩⟩

theorem named_setActive (hc : Consistent s) (i : Nat) (b : Bool) :
    ∀ name h, s.cronJobs name = some h →
      ∃ job, (s.setActive i b).jobs[h]? = some job ∧ job.task.jobName = name := by
  intro name h hname
  obtain ⟨job, hjob, htask⟩ := hc.named name h hname
  refine ⟨if h = i then { job with isActive := b } else job,
    getElem?_setActive.2 ⟨job, hjob, rfl⟩, ?_⟩
  split <;> exact htask

/-- Stopping a job other than the crawl. -/
theorem Consistent.stop (hc : Consistent s) {i : Nat} (hi : i ≠ 0) :
    Consistent (s.setActive i false) where
  named := named_setActive hc i false
  active := by
    intro h job hjob hactive
    obtain ⟨old, hold, rfl⟩ := getElem?_setActive.1 hjob
    by_cases he : h = i
    · rw [if_pos he] at hactive
      cases hactive
    · rw [if_neg he] at hactive ⊢
      exact hc.active h old hold hactive
  crawling := getElem?_setActive.2 ⟨_, hc.crawling, by rw [if_neg (Ne.symm hi)]⟩
  callbacks := callback_setActive hc i false

/-- Deleting a name other than that of the crawl. -/
theorem Consistent.delete (hc : Consistent s) {name : String}
    (hname : name ≠ CronTask.crawling.jobName) : Consistent (s.deleteExistingCronJob name) := by
  cases hreg : s.cronJobs name with
  | none =>
    rw [deleteExisting_none hreg]
    exact hc
  | some i =>
    obtain ⟨own, hown, htask⟩ := hc.named name i hreg
    have hi : i ≠ 0 := by
      rintro rfl
      rw [hc.crawling] at hown
      cases hown
      exact hname htask.symm
    have hstop := hc.stop hi
    rw [deleteExisting_some hreg]
    refine ⟨fun name' h hname' => ?_, fun h job hjob hactive => ?_, hstop.crawling,
      hstop.callbacks⟩
    · dsimp only at hname'
      rw [Function.update_apply] at hname'
      split at hname'
      · cases hname'
      · exact hstop.named name' h hname'
    · have hkept := hstop.active h job hjob hactive
      dsimp only
      rw [Function.update_apply, if_neg]
      · exact hkept
      · rintro rfl
        -- the job of the name has just been stopped
        have hh : h = i := Option.some.inj (hkept.symm.trans hreg)
        obtain ⟨old, -, rfl⟩ := getElem?_setActive.1 hjob
        rw [if_pos hh] at hactive
        cases hactive

/-- Launching a job of a game. -/
theorem Consistent.launch (hc : Consistent s) {task : CronTask} (ht : task ≠ .crawling) :
    Consistent (s.launch task) := by
  have hname : task.jobName ≠ CronTask.crawling.jobName :=
    fun he => ht ((CronTask.jobName_inj he).2.1.2 rfl)
  have hdel := hc.delete hname
  have hfree : (s.deleteExistingCronJob task.jobName).cronJobs task.jobName = none := by simp
  unfold GameJobs.launch
  generalize s.deleteExistingCronJob task.jobName = t at hdel hfree
  dsimp only
  refine ⟨fun name h hreg => ?_, fun h job hjob hactive => ?_, ?_, fun c hmem => ?_⟩
  · dsimp only at hreg
    rw [Function.update_apply] at hreg
    split at hreg
    · next he =>
      cases hreg
      exact ⟨⟨task, true⟩, by simp, he.symm⟩
    · obtain ⟨job, hjob, hn⟩ := hdel.named name h hreg
      refine ⟨job, ?_, hn⟩
      rw [List.getElem?_append_left (List.getElem?_eq_some_iff.1 hjob).1]
      exact hjob
  · dsimp only
    rw [Function.update_apply]
    rcases Nat.lt_trichotomy h t.jobs.length with hlt | rfl | hgt
    · rw [List.getElem?_append_left hlt] at hjob
      have hkept := hdel.active h job hjob hactive
      rw [if_neg]
      · exact hkept
      · intro he
        rw [he, hfree] at hkept
        cases hkept
    · simp only [List.getElem?_concat_length, Option.some.injEq] at hjob
      subst hjob
      rw [if_pos rfl]
    · rw [List.getElem?_eq_none (by simp; omega)] at hjob
      cases hjob
  · dsimp only
    rw [List.getElem?_append_left (List.getElem?_eq_some_iff.1 hdel.crawling).1]
    exact hdel.crawling
  · obtain ⟨isActive, hjob⟩ := hdel.callbacks c hmem
    refine ⟨isActive, ?_⟩
    dsimp only
    rw [List.getElem?_append_left (List.getElem?_eq_some_iff.1 hjob).1]
    exact hjob

end

/-! ## What a step does -/

/-- Only the registry is touched. -/
theorem deleteExisting_eq (s : GameJobs) (name : String) :
    ∃ jobs cronJobs, s.deleteExistingCronJob name = { s with jobs, cronJobs } := by
  cases h : s.cronJobs name with
  | none => exact ⟨s.jobs, s.cronJobs, deleteExisting_none h⟩
  | some job => exact ⟨_, _, deleteExisting_some h⟩

theorem launch_eq (s : GameJobs) (task : CronTask) :
    ∃ jobs cronJobs, s.launch task = { s with jobs, cronJobs } := by
  obtain ⟨jobs, cronJobs, he⟩ := s.deleteExisting_eq task.jobName
  unfold launch
  rw [he]
  exact ⟨_, _, rfl⟩

section

variable (triggerTime : GameRow → Nat)

theorem setup_frame (s : GameJobs) (games : List GameRow) :
    ∃ jobs cronJobs, games.foldl (armed triggerTime) s = { s with jobs, cronJobs } := by
  induction games generalizing s with
  | nil => exact ⟨s.jobs, s.cronJobs, rfl⟩
  | cons game games ih =>
    obtain ⟨jobs, cronJobs, he⟩ : ∃ jobs cronJobs,
        s.armed triggerTime game = { s with jobs, cronJobs } := by
      unfold armed
      split
      · obtain ⟨jobs, cronJobs, hd⟩ := s.deleteExisting_eq (CronTask.trigger game).jobName
        obtain ⟨jobs', cronJobs', hl⟩ := launch_eq { s with jobs, cronJobs } (.score game.id)
        rw [hd, hl]
        exact ⟨jobs', cronJobs', rfl⟩
      · exact s.launch_eq (.trigger game)
    obtain ⟨jobs', cronJobs', hrest⟩ := ih { s with jobs, cronJobs }
    rw [List.foldl_cons, he, hrest]
    exact ⟨jobs', cronJobs', rfl⟩

theorem fire_cases (s : GameJobs) (job : Nat) :
    s.fire triggerTime job = s ∨ ∃ game, s.jobs[job]? = some ⟨.trigger game, true⟩ ∧
      triggerTime game ≤ s.time ∧
      s.fire triggerTime job = ((s.setActive job false).launch (.score game.id)).deleteExistingCronJob
        (CronTask.trigger game).jobName := by
  unfold fire
  split
  · next game hjob =>
    split
    · next ht =>
      refine Or.inr ⟨game, hjob, ht, ?_⟩
      rw [runTrigger_eq]
      rfl
    · exact Or.inl rfl
  · exact Or.inl rfl

/-- A callback's step works on the database and then may stop its own job or delete the
job of its game. -/
theorem advance_cases (s : GameJobs) (i : Nat) :
    (s.advance i = s ∧ ∀ c, s.callbacks[i]? = some c → ∀ input phase, c.phase ≠ .polled input phase) ∨
      ∃ c input phase, s.callbacks[i]? = some c ∧ c.phase = .polled input phase ∧
      let next := pollStep c.gameId input s.db phase
      (s.advance i = s.record i input next ∧
          ((phase = .updateInProgressGame ∧ isTerminal input.status = false) ∨
            phase = .finished ∨ next.2 ≠ .finished)) ∨
        (phase = .updateInProgressGame ∧ isTerminal input.status = true ∧
          s.advance i = (s.record i input next).setActive c.intervalJob false) ∨
        (phase ≠ .updateInProgressGame ∧ phase ≠ .finished ∧ next.2 = .finished ∧
          s.advance i = (s.record i input next).deleteExistingCronJob
            (CronTask.score c.gameId).jobName) := by
  unfold advance
  split
  · next intervalJob gameId input phase hc =>
    refine Or.inr ⟨_, input, phase, hc, rfl, ?_⟩
    cases phase with
    | updateInProgressGame =>
      by_cases ht : isTerminal input.status = true
      · exact Or.inr (Or.inl ⟨rfl, ht, if_pos ht⟩)
      · exact Or.inl ⟨if_neg ht, Or.inl ⟨rfl, by simpa using ht⟩⟩
    | finished => exact Or.inl ⟨rfl, Or.inr (Or.inl rfl)⟩
    | updateFinishedMatch | getByGameId | saveBulk updates =>
      dsimp only [afterStep]
      split
      · next hn =>
        exact Or.inr (Or.inr ⟨PollPhase.noConfusion, PollPhase.noConfusion, hn, rfl⟩)
      · next hn => exact Or.inl ⟨rfl, Or.inr (Or.inr hn)⟩
  · next hc =>
    refine Or.inl ⟨rfl, fun c hi input phase hphase => ?_⟩
    obtain ⟨intervalJob, gameId, phase'⟩ := c
    cases hphase
    exact hc intervalJob gameId input phase hi

theorem tick_cases (s : GameJobs) (job : Nat) :
    s.tick job = s ∨ ∃ gameId, s.jobs[job]? = some ⟨.score gameId, true⟩ ∧
      s.tick job = { s with callbacks := s.callbacks ++ [⟨job, gameId, .asked⟩] } := by
  unfold tick
  split
  · next gameId hjob => exact Or.inr ⟨gameId, hjob, rfl⟩
  · exact Or.inl rfl

theorem answer_cases (s : GameJobs) (i : Nat) (currentStatus : Option UpdateGameScoreInput) :
    s.answer i currentStatus = s ∨ ∃ c, s.callbacks[i]? = some c ∧ c.phase = .asked ∧
      s.answer i currentStatus = s.setPhase i
        (currentStatus.elim .rejected fun input => .polled input .updateInProgressGame) := by
  unfold answer
  split
  · next hc => exact Or.inr ⟨_, hc, rfl, rfl⟩
  · exact Or.inl rfl

/-- What an event does. -/
inductive Effect (s : GameJobs) : JobEvent → GameJobs → Prop where
  | none {e : JobEvent} : Effect s e s
  | elapsed {ms : Nat} : Effect s (.elapse ms) { s with time := s.time + ms }
  | written {db : Db} : Effect s (.write db) { s with db }
  | setUp {games : List GameRow} : Effect s (.setup games) (games.foldl (armed triggerTime) s)
  | fired {job : Nat} {game : GameRow} (hjob : s.jobs[job]? = some ⟨.trigger game, true⟩)
      (ht : triggerTime game ≤ s.time) :
      Effect s (.fire job) (((s.setActive job false).launch (.score game.id)).deleteExistingCronJob
        (CronTask.trigger game).jobName)
  | started {job : Nat} {gameId : String} (hjob : s.jobs[job]? = some ⟨.score gameId, true⟩) :
      Effect s (.tick job) { s with callbacks := s.callbacks ++ [⟨job, gameId, .asked⟩] }
  | answered {i : Nat} {c : ScoreCallback} {currentStatus : Option UpdateGameScoreInput}
      (hi : s.callbacks[i]? = some c) (hasked : c.phase = .asked) :
      Effect s (.answer i currentStatus) (s.setPhase i
        (currentStatus.elim .rejected fun input => .polled input .updateInProgressGame))
  | recorded {i : Nat} {c : ScoreCallback} {input : UpdateGameScoreInput} {phase : PollPhase}
      (hi : s.callbacks[i]? = some c) (hphase : c.phase = .polled input phase) :
      Effect s (.advance i) (s.record i input (pollStep c.gameId input s.db phase))
  | stopped {i : Nat} {c : ScoreCallback} {input : UpdateGameScoreInput} {phase : PollPhase}
      (hi : s.callbacks[i]? = some c) (hphase : c.phase = .polled input phase)
      (ht : isTerminal input.status = true) :
      Effect s (.advance i) ((s.record i input
        (pollStep c.gameId input s.db phase)).setActive c.intervalJob false)
  | deleted {i : Nat} {c : ScoreCallback} {input : UpdateGameScoreInput} {phase : PollPhase}
      (hi : s.callbacks[i]? = some c) (hphase : c.phase = .polled input phase)
      (hp : phase ≠ .updateInProgressGame) (hp' : phase ≠ .finished) :
      Effect s (.advance i) ((s.record i input
        (pollStep c.gameId input s.db phase)).deleteExistingCronJob (CronTask.score c.gameId).jobName)

theorem step_effect (s : GameJobs) (e : JobEvent) :
    Effect triggerTime s e (s.step triggerTime e) := by
  cases e with
  | elapse ms => exact .elapsed
  | write db => exact .written
  | setup games =>
    show Effect triggerTime s _ (settle (s.setupTriggerForGameScoreCrawlingJob triggerTime games))
    rw [setup_eq]
    exact .setUp
  | fire job =>
    show Effect triggerTime s _ (s.fire triggerTime job)
    rcases s.fire_cases triggerTime job with he | ⟨game, hjob, ht, he⟩
    · rw [he]
      exact .none
    · rw [he]
      exact .fired hjob ht
  | tick job =>
    show Effect triggerTime s _ (s.tick job)
    rcases s.tick_cases job with he | ⟨gameId, hjob, he⟩
    · rw [he]
      exact .none
    · rw [he]
      exact .started hjob
  | answer i currentStatus =>
    show Effect triggerTime s _ (s.answer i currentStatus)
    rcases s.answer_cases i currentStatus with he | ⟨c, hi, hasked, he⟩
    · rw [he]
      exact .none
    · rw [he]
      exact .answered hi hasked
  | advance i =>
    show Effect triggerTime s _ (s.advance i)
    rcases s.advance_cases i with ⟨he, -⟩ | ⟨c, input, phase, hi, hphase, hcases⟩
    · rw [he]
      exact .none
    rcases hcases with ⟨he, -⟩ | ⟨-, ht, he⟩ | ⟨hp, hp', -, he⟩
    · rw [he]
      exact .recorded hi hphase
    · rw [he]
      exact .stopped hi hphase ht
    · rw [he]
      exact .deleted hi hphase hp hp'

/-- The same for the callbacks and the database alone: set-ups, triggers and the ends of jobs do
nothing to them. -/
inductive CallbackEffect (s : GameJobs) : JobEvent → List ScoreCallback → Db → Prop where
  | none {e : JobEvent} : CallbackEffect s e s.callbacks s.db
  | written {db : Db} : CallbackEffect s (.write db) s.callbacks db
  | started {job : Nat} {gameId : String} (hjob : s.jobs[job]? = some ⟨.score gameId, true⟩) :
      CallbackEffect s (.tick job) (s.callbacks ++ [⟨job, gameId, .asked⟩]) s.db
  | answered {i : Nat} {c : ScoreCallback} {currentStatus : Option UpdateGameScoreInput}
      (hi : s.callbacks[i]? = some c) (hasked : c.phase = .asked) :
      CallbackEffect s (.answer i currentStatus) (s.setPhase i
        (currentStatus.elim .rejected fun input => .polled input .updateInProgressGame)).callbacks s.db
  | recorded {i : Nat} {c : ScoreCallback} {input : UpdateGameScoreInput} {phase : PollPhase}
      (hi : s.callbacks[i]? = some c) (hphase : c.phase = .polled input phase) :
      CallbackEffect s (.advance i) (s.setPhase i
        (.polled input (pollStep c.gameId input s.db phase).2)).callbacks
        (pollStep c.gameId input s.db phase).1

variable {triggerTime}

/-- Time does not go back, and `addCronJob` always finds the name free. -/
theorem Effect.frame {s s' : GameJobs} {e : JobEvent} (h : Effect triggerTime s e s') :
    CallbackEffect s e s'.callbacks s'.db ∧ s.time ≤ s'.time ∧ s'.thrown = s.thrown := by
  cases h with
  | none => exact ⟨.none, Nat.le_refl _, rfl⟩
  | elapsed => exact ⟨.none, Nat.le_add_right _ _, rfl⟩
  | written => exact ⟨.written, Nat.le_refl _, rfl⟩
  | @setUp games =>
    obtain ⟨jobs, cronJobs, he⟩ := s.setup_frame triggerTime games
    rw [he]
    exact ⟨.none, Nat.le_refl _, rfl⟩
  | @fired job game hjob ht =>
    obtain ⟨jobs, cronJobs, hl⟩ := (s.setActive job false).launch_eq (.score game.id)
    obtain ⟨jobs', cronJobs', hd⟩ := deleteExisting_eq { s.setActive job false with jobs, cronJobs }
      (CronTask.trigger game).jobName
    rw [hl, hd]
    exact ⟨.none, Nat.le_refl _, rfl⟩
  | started hjob => exact ⟨.started hjob, Nat.le_refl _, rfl⟩
  | answered hi hasked => exact ⟨.answered hi hasked, Nat.le_refl _, rfl⟩
  | recorded hi hphase => exact ⟨.recorded hi hphase, Nat.le_refl _, rfl⟩
  | stopped hi hphase ht => exact ⟨.recorded hi hphase, Nat.le_refl _, rfl⟩
  | @deleted i c input phase hi hphase hp hp' =>
    obtain ⟨jobs, cronJobs, hd⟩ := deleteExisting_eq
      (s.record i input (pollStep c.gameId input s.db phase)) (CronTask.score c.gameId).jobName
    rw [hd]
    exact ⟨.recorded hi hphase, Nat.le_refl _, rfl⟩

/-- What a step does to the callbacks and the database. -/
theorem step_callbacks (triggerTime : GameRow → Nat) (s : GameJobs) (e : JobEvent) :
    CallbackEffect s e (s.step triggerTime e).callbacks (s.step triggerTime e).db :=
  (step_effect triggerTime s e).frame.1

end

/-- A callback after another phase was set: the one it was set in, or as before. -/
theorem getElem?_setPhase {s : GameJobs} {i j : Nat} {phase : CallbackPhase} {c : ScoreCallback} :
    (s.setPhase i phase).callbacks[j]? = some c ↔
      ∃ old, s.callbacks[j]? = some old ∧ c = if j = i then { old with phase } else old := by
  unfold setPhase
  dsimp only
  rw [List.getElem?_modify]
  cases s.callbacks[j]? with
  | none => simp
  | some old =>
    by_cases he : i = j
    · simp [he, eq_comm]
    · simp [he, Ne.symm he, eq_comm]

/-- A callback of afterwards is one of before, or the one the phase was set in. -/
theorem mem_setPhase {s : GameJobs} {i : Nat} {c c' : ScoreCallback} {phase : CallbackPhase}
    (hi : s.callbacks[i]? = some c) (hmem : c' ∈ (s.setPhase i phase).callbacks) :
    c' = { c with phase } ∨ c' ∈ s.callbacks := by
  obtain ⟨j, hj⟩ := List.getElem?_of_mem hmem
  obtain ⟨old, hold, rfl⟩ := getElem?_setPhase.1 hj
  by_cases hji : j = i
  · subst hji
    obtain rfl : c = old := Option.some.inj (hi.symm.trans hold)
    rw [if_pos rfl]
    exact Or.inl rfl
  · rw [if_neg hji]
    exact Or.inr (List.mem_of_getElem? hold)

/-! ## The registry stays consistent -/

section

variable {triggerTime : GameRow → Nat} {s : GameJobs}

theorem Consistent.armed (hc : Consistent s) (game : GameRow) :
    Consistent (s.armed triggerTime game) := by
  have hname : (CronTask.trigger game).jobName ≠ CronTask.crawling.jobName :=
    fun he => by simpa using (CronTask.jobName_inj he).2.1
  unfold GameJobs.armed
  split
  · exact (hc.delete hname).launch CronTask.noConfusion
  · exact hc.launch CronTask.noConfusion

theorem Consistent.fired (hc : Consistent s) {job : Nat} {game : GameRow}
    (hjob : s.jobs[job]? = some ⟨.trigger game, true⟩) : Consistent (s.setActive job false) := by
  refine hc.stop ?_
  rintro rfl
  rw [hc.crawling] at hjob
  cases hjob

theorem Consistent.setPhase (hc : Consistent s) {i : Nat} {c : ScoreCallback}
    (hi : s.callbacks[i]? = some c) (phase : CallbackPhase) : Consistent (s.setPhase i phase) := by
  refine hc.congr rfl rfl fun c' hmem => ?_
  rcases mem_setPhase hi hmem with rfl | hold
  · exact ⟨c, List.mem_of_getElem? hi, rfl, rfl⟩
  · exact ⟨c', hold, rfl, rfl⟩

theorem Consistent.write (hc : Consistent s) (db : Db) : Consistent { s with db } :=
  hc.congr rfl rfl fun c hmem => ⟨c, hmem, rfl, rfl⟩

theorem Consistent.record (hc : Consistent s) {i : Nat} {c : ScoreCallback}
    (hi : s.callbacks[i]? = some c) (input : UpdateGameScoreInput) (next : Db × PollPhase) :
    Consistent (s.record i input next) :=
  (hc.write next.1).setPhase hi _

theorem step_consistent (hc : Consistent s) (e : JobEvent) : Consistent (s.step triggerTime e) := by
  have h := step_effect triggerTime s e
  generalize s.step triggerTime e = s' at h
  cases h with
  | none => exact hc
  | elapsed => exact hc.congr rfl rfl fun c hmem => ⟨c, hmem, rfl, rfl⟩
  | written => exact hc.write _
  | @setUp games =>
    induction games generalizing s with
    | nil => exact hc
    | cons game games ih => exact ih (hc.armed game)
  | @fired job game hjob ht =>
    exact ((hc.fired hjob).launch CronTask.noConfusion).delete
      fun h => by simpa using (CronTask.jobName_inj h).2.1
  | @started job gameId hjob =>
    refine ⟨hc.named, hc.active, hc.crawling, fun c hmem => ?_⟩
    rcases List.mem_append.1 hmem with hmem | hmem
    · exact hc.callbacks c hmem
    · rw [List.mem_singleton.1 hmem]
      exact ⟨true, hjob⟩
  | answered hi hasked => exact hc.setPhase hi _
  | recorded hi hphase => exact hc.record hi _ _
  | @stopped i c input phase hi hphase ht =>
    obtain ⟨isActive, hjob⟩ := hc.callbacks c (List.mem_of_getElem? hi)
    refine (hc.record hi _ _).stop fun h0 => ?_
    rw [h0, hc.crawling] at hjob
    cases hjob
  | deleted hi hphase hp hp' =>
    exact (hc.record hi _ _).delete fun h => by simpa using (CronTask.jobName_inj h).2.1

theorem Consistent.advance (hc : Consistent s) (i : Nat) : Consistent (s.advance i) := by
  have h : Consistent (s.step (fun _ => 0) (.advance i)) := step_consistent hc _
  exact h

theorem reachable_consistent (triggerTime : GameRow → Nat) (time : Nat) (db : Db)
    (events : List JobEvent) : Consistent (run (step triggerTime) (start time db) events) :=
  (always_of_step (I := Consistent) (fun _ e h => step_consistent h e) (start_consistent time db)
    events).last

theorem step_thrown (s : GameJobs) (e : JobEvent) : (s.step triggerTime e).thrown = s.thrown :=
  (step_effect triggerTime s e).frame.2.2

/-- An active job is the one registered under its name, two active jobs have different
names, the crawl goes on, and no registration was refused. -/
structure OneJobEach (s : GameJobs) : Prop where
  registered : ∀ (h : Nat) job, s.jobs[h]? = some job → job.isActive = true →
    s.cronJobs job.task.jobName = some h
  single : ∀ (h h' : Nat) job job', s.jobs[h]? = some job → s.jobs[h']? = some job' →
    job.isActive = true → job'.isActive = true → job.task.jobName = job'.task.jobName → h = h'
  crawling : s.jobs[0]? = some ⟨.crawling, true⟩ ∧
    s.cronJobs SCHEDULER_NAME.CRAWLING_JOB_1AM = some 0
  thrown : s.thrown = []

theorem Consistent.oneJobEach (hc : Consistent s) (ht : s.thrown = []) : OneJobEach s where
  registered := hc.active
  single := by
    intro h h' job job' hjob hjob' ha ha' hname
    have hreg := hc.active h job hjob ha
    have hreg' := hc.active h' job' hjob' ha'
    rw [← hname, hreg] at hreg'
    exact Option.some.inj hreg'
  crawling := ⟨hc.crawling, hc.active 0 _ hc.crawling rfl⟩
  thrown := ht

/-- **One job for each game.**  Whatever is set up, and in whatever order timers fire, polls are
answered and callbacks go on, no two active jobs have one name, an active job is the one
the registry knows, and `addCronJob` never throws. -/
theorem cron_jobs_consistent (triggerTime : GameRow → Nat) (time : Nat) (db : Db)
    (events : List JobEvent) : Always (step triggerTime) OneJobEach (start time db) events := by
  have hinv : Always (step triggerTime) (fun s => Consistent s ∧ s.thrown = []) (start time db)
      events :=
    always_of_step (fun s e h => ⟨step_consistent h.1 e, (step_thrown s e).trans h.2⟩)
      ⟨start_consistent time db, rfl⟩ events
  exact hinv.imp fun s h => h.1.oneJobEach h.2

end

end GameJobs

end VictoryFairy
