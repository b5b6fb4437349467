import VictoryFairy.Proofs.Polling

/-!
# When a game is polled, and what its polls do

A score job is made when the start of the game lies in the past, so no poll comes before
the start.  A poll that nothing else comes between is the callback of `ScoreJob`, and so
are polls one after the other until one is terminal.

    no_early_poll : no poll before the game was due to start
    poll_refines  : a whole poll is `scoreJobCallback`
    polls_refine  : and a list of them its fold
-/

namespace VictoryFairy

open Runs

attribute [ext] ScoreJob

namespace GameJobs

/-! ## Not before the start -/

section

variable {triggerTime : GameRow → Nat} {s : GameJobs} {gameId : String} {T : Nat}

/-- Where the game is set up it starts at `T` or later. -/
def StartsAt (triggerTime : GameRow → Nat) (gameId : String) (T : Nat) (_ : GameJobs) :
    JobEvent → Prop
  | .setup games => ∀ game ∈ games, game.id = gameId → T ≤ triggerTime game
  | _ => True

/-- A job of the game is a trigger for `T` or later. -/
def WaitsFor (triggerTime : GameRow → Nat) (gameId : String) (T : Nat) (task : CronTask) : Prop :=
  task ≠ .score gameId ∧ ∀ game, task = .trigger game → game.id = gameId → T ≤ triggerTime game

theorem time_step (triggerTime : GameRow → Nat) (s : GameJobs) (e : JobEvent) :
    s.time ≤ (s.step triggerTime e).time :=
  (step_effect triggerTime s e).frame.2.1

theorem waits_step (h : Active (WaitsFor triggerTime gameId T) s) (hT : s.time < T) {e : JobEvent}
    (he : StartsAt triggerTime gameId T s e) :
    Active (WaitsFor triggerTime gameId T) (s.step triggerTime e) := by
  refine h.step ?_ ?_
  · rintro games rfl game hmem
    split
    · next ht =>
      refine ⟨?_, fun g hg => by cases hg⟩
      rintro hscore
      cases hscore
      exact absurd (he game hmem rfl) (by omega)
    · next ht =>
      refine ⟨CronTask.noConfusion, ?_⟩
      rintro g hg hid
      cases hg
      exact he game hmem hid
  · intro game hwait ht
    refine ⟨?_, fun g hg => by cases hg⟩
    rintro hscore
    cases hscore
    exact absurd (hwait.2 game rfl rfl) (by omega)

end

/-- **No early poll.**  Where every set-up of a game has it start at `T` or later, no poll of it
is started before `T`, however long the application ran before. -/
theorem no_early_poll (triggerTime : GameRow → Nat) (gameId : String) (T time : Nat) (db : Db)
    (events : List JobEvent)
    (hsetup : Guarded (step triggerTime) (StartsAt triggerTime gameId T) (start time db) events) :
    Always (step triggerTime) (fun s => s.time < T → s.pollsOf gameId = 0) (start time db) events := by
  have hstart : (start time db).time < T → (start time db).pollsOf gameId = 0 ∧
      Active (WaitsFor triggerTime gameId T) (start time db) := by
    refine fun _ => ⟨rfl, fun i job hjob _ => ?_⟩
    cases i with
    | zero =>
      cases hjob
      exact ⟨CronTask.noConfusion, fun game hg => by cases hg⟩
    | succ i => cases hjob
  refine (always_of_guarded (C := StartsAt triggerTime gameId T)
    (I := fun s => s.time < T → s.pollsOf gameId = 0 ∧ Active (WaitsFor triggerTime gameId T) s)
    (fun s e h he hT => ?_) hstart hsetup).imp fun s h hT => (h hT).1
  have hT' : s.time < T := lt_of_le_of_lt (time_step triggerTime s e) hT
  obtain ⟨hpolls, hwaits⟩ := h hT'
  refine ⟨?_, waits_step hwaits hT' he⟩
  rw [pollsOf_step (fun i job hjob ha => (hwaits i job hjob ha).1) e]
  exact hpolls

/-- A game at noon, its trigger set up in the morning. -/
theorem no_early_poll_noon :
    (run (step fun _ => 720) (start 540 (leagueDb.insertGame wonGame))
      [.setup [wonGame], .elapse 100, .fire 1, .tick 1]).pollsOf wonGame.id = 0 :=
  (no_early_poll (fun _ => 720) wonGame.id 720 540 (leagueDb.insertGame wonGame)
    [.setup [wonGame], .elapse 100, .fire 1, .tick 1]
    ⟨fun _ _ _ => Nat.le_refl _, trivial, trivial, trivial, trivial⟩).last (by decide)

/-! ## A whole poll -/

/-- What the score job of a game is in the scheduler. -/
def toScoreJob (s : GameJobs) (job : Nat) (gameId : String) : ScoreJob where
  db := s.db
  running := s.jobs[job]?.any CronJob.isActive
  registered := s.doesExist (CronTask.score gameId).jobName

/-- A poll whose callback is done before anything else happens. -/
def wholePoll (job : Nat) (s : GameJobs) (currentStatus : UpdateGameScoreInput) : List JobEvent :=
  let i := s.callbacks.length
  [.tick job, .answer i (some currentStatus), .advance i, .advance i, .advance i, .advance i]

section

variable {triggerTime : GameRow → Nat} {s : GameJobs} {gameId : String} {i job : Nat} {db : Db}
  {input : UpdateGameScoreInput} {phase : PollPhase}

/-- The callback `i` is about to do `phase` on the database `db`. -/
structure Polled (s : GameJobs) (i job : Nat) (gameId : String) (input : UpdateGameScoreInput)
    (db : Db) (phase : PollPhase) : Prop where
  db_eq : s.db = db
  callback : s.callbacks[i]? = some ⟨job, gameId, .polled input phase⟩

theorem afterStep_frame (s : GameJobs) (c : ScoreCallback) (input : UpdateGameScoreInput)
    (phase next : PollPhase) :
    ∃ jobs cronJobs, s.afterStep c input phase next = { s with jobs, cronJobs } := by
  unfold afterStep
  cases phase with
  | updateInProgressGame =>
    dsimp only
    split
    · exact ⟨_, _, rfl⟩
    · exact ⟨_, _, rfl⟩
  | finished => exact ⟨_, _, rfl⟩
  | updateFinishedMatch | getByGameId | saveBulk updates =>
    dsimp only
    split
    · exact deleteExisting_eq s _
    · exact ⟨_, _, rfl⟩

theorem Polled.advance_eq (h : Polled s i job gameId input db phase) :
    s.advance i = (s.record i input (pollStep gameId input db phase)).afterStep
      ⟨job, gameId, .polled input phase⟩ input phase (pollStep gameId input db phase).2 := by
  unfold GameJobs.advance
  rw [h.callback]
  dsimp only
  rw [h.db_eq]

theorem Polled.advance (h : Polled s i job gameId input db phase) :
    Polled (s.advance i) i job gameId input (pollStep gameId input db phase).1
      (pollStep gameId input db phase).2 := by
  obtain ⟨jobs, cronJobs, hframe⟩ := afterStep_frame
    (s.record i input (pollStep gameId input db phase)) ⟨job, gameId, .polled input phase⟩ input phase
    (pollStep gameId input db phase).2
  rw [h.advance_eq, hframe]
  exact ⟨rfl, getElem?_setPhase.2 ⟨_, h.callback, by rw [if_pos rfl]⟩⟩

/-- A callback that is done changes nothing. -/
theorem Polled.advance_finished (h : Polled s i job gameId input db .finished) :
    (s.advance i).jobs = s.jobs ∧ (s.advance i).cronJobs = s.cronJobs := by
  rw [h.advance_eq]
  exact ⟨rfl, rfl⟩

/-- The job of a terminal poll is stopped, and is forgotten at the latest with its callback. -/
structure Ending (s : GameJobs) (job : Nat) (gameId : String) (phase : PollPhase) : Prop where
  stopped : s.jobs[job]? = some ⟨.score gameId, false⟩
  started : phase ≠ .updateInProgressGame
  deleted : phase = .finished → s.cronJobs (CronTask.score gameId).jobName = none

theorem Ending.advance (he : Ending s job gameId phase)
    (h : Polled s i job gameId input db phase) :
    Ending (s.advance i) job gameId (pollStep gameId input db phase).2 := by
  have hnext : (pollStep gameId input db phase).2 ≠ .updateInProgressGame := by
    cases phase with
    | updateInProgressGame => exact absurd rfl he.started
    | finished => exact PollPhase.noConfusion
    | updateFinishedMatch =>
      unfold pollStep
      dsimp only
      split <;> exact PollPhase.noConfusion
    | getByGameId =>
      unfold pollStep
      dsimp only
      split
      · exact PollPhase.noConfusion
      · split <;> exact PollPhase.noConfusion
    | saveBulk updates =>
      unfold pollStep
      dsimp only
      split <;> exact PollPhase.noConfusion
  have hrecord : Ending (s.record i input (pollStep gameId input db phase)) job gameId phase :=
    ⟨he.stopped, he.started, he.deleted⟩
  by_cases hfin : phase = .finished
  · subst hfin
    obtain ⟨hjobs, hnames⟩ := h.advance_finished
    exact ⟨hjobs ▸ he.stopped, hnext, fun _ => hnames ▸ he.deleted rfl⟩
  · rcases s.advance_cases i with ⟨-, hnone⟩ | ⟨c, input', phase', hi, hphase, hcases⟩
    · exact absurd rfl (hnone _ h.callback input phase)
    · rw [h.callback] at hi
      cases hi
      cases hphase
      rw [h.db_eq] at hcases
      rcases hcases with ⟨heq, ⟨hp, -⟩ | hp | hp⟩ | ⟨hp, -⟩ | ⟨-, -, hlast, heq⟩
      · exact absurd hp he.started
      · exact absurd hp hfin
      · rw [heq]
        exact ⟨hrecord.stopped, hnext, fun hn => absurd hn hp⟩
      · exact absurd hp he.started
      · rw [heq]
        refine ⟨?_, hnext, fun _ => by simp⟩
        cases hreg : (s.record i input (pollStep gameId input db phase)).cronJobs
            (CronTask.score gameId).jobName with
        | none =>
          rw [deleteExisting_none hreg]
          exact hrecord.stopped
        | some k =>
          rw [deleteExisting_some hreg]
          refine getElem?_setActive.2 ⟨_, hrecord.stopped, ?_⟩
          split <;> rfl

/-- The step of a poll that is not terminal leaves the jobs alone. -/
theorem Polled.advance_live (h : Polled s i job gameId input db .updateInProgressGame)
    (ht : isTerminal input.status = false) :
    (s.advance i).jobs = s.jobs ∧ (s.advance i).cronJobs = s.cronJobs := by
  rw [h.advance_eq]
  unfold afterStep
  dsimp only
  rw [if_neg (by rw [ht]; exact Bool.noConfusion)]
  exact ⟨rfl, rfl⟩

/-- That of a terminal one stops the job. -/
theorem Polled.advance_terminal (h : Polled s i job gameId input db .updateInProgressGame)
    (ht : isTerminal input.status = true) {isActive : Bool}
    (hjob : s.jobs[job]? = some ⟨.score gameId, isActive⟩) :
    Ending (s.advance i) job gameId (pollStep gameId input db .updateInProgressGame).2 := by
  have hnext : (pollStep gameId input db .updateInProgressGame).2 = .updateFinishedMatch := if_pos ht
  rw [h.advance_eq, hnext]
  unfold afterStep
  dsimp only
  rw [if_pos ht]
  exact ⟨getElem?_setActive.2 ⟨_, hjob, by rw [if_pos rfl]⟩, PollPhase.noConfusion,
    PollPhase.noConfusion⟩

theorem polled_start (hjob : s.jobs[job]? = some ⟨.score gameId, true⟩)
    (input : UpdateGameScoreInput) :
    ∃ s', (s.tick job).answer s.callbacks.length (some input) = s' ∧ s'.jobs = s.jobs ∧
      s'.cronJobs = s.cronJobs ∧
      Polled s' s.callbacks.length job gameId input s.db .updateInProgressGame := by
  have htick : s.tick job = { s with callbacks := s.callbacks ++ [⟨job, gameId, .asked⟩] } := by
    unfold tick
    rw [hjob]
  refine ⟨_, rfl, ?_⟩
  rw [htick]
  unfold answer
  dsimp only
  rw [List.getElem?_concat_length]
  exact ⟨rfl, rfl, rfl, getElem?_setPhase.2 ⟨_, List.getElem?_concat_length, by rw [if_pos rfl]; rfl⟩⟩

/-- What a terminal poll does to its job. -/
theorem scoreJobCallback_terminal (ht : isTerminal input.status = true) (j : ScoreJob) :
    (scoreJobCallback gameId j input).running = false ∧
      (scoreJobCallback gameId j input).registered = false := by
  unfold scoreJobCallback
  dsimp only
  rw [if_pos ht]
  split <;> exact ⟨rfl, rfl⟩

/-- The four steps of a callback are `scoreJobCallback`, as the poll was terminal or not. -/
theorem Polled.refines (h0 : Polled s i job gameId input db .updateInProgressGame)
    (hjob : s.jobs[job]? = some ⟨.score gameId, true⟩) :
    ∃ s', (((s.advance i).advance i).advance i).advance i = s' ∧
      (∃ isActive, s'.jobs[job]? = some ⟨.score gameId, isActive⟩) ∧
      s'.toScoreJob job gameId = scoreJobCallback gameId (s.toScoreJob job gameId) input := by
  have halone := poll_alone gameId input (s.toScoreJob job gameId)
  rw [show (s.toScoreJob job gameId).db = db from h0.db_eq] at halone
  have hdb := congrArg RegisterRace.db halone
  have hphase := congrArg RegisterRace.poll halone
  have h1 := h0.advance
  have h2 := h1.advance
  have h3 := h2.advance
  have h4 := h3.advance
  refine ⟨_, rfl, ?_⟩
  by_cases ht : isTerminal input.status = true
  · have he1 := h0.advance_terminal ht hjob
    have he4 := ((he1.advance h1).advance h2).advance h3
    obtain ⟨hrunning, hregistered⟩ := scoreJobCallback_terminal ht (s.toScoreJob job gameId)
    refine ⟨⟨false, he4.stopped⟩, ScoreJob.ext (h4.db_eq.trans hdb) ?_ ?_⟩
    · rw [hrunning]
      unfold toScoreJob
      rw [he4.stopped]
      rfl
    · rw [hregistered]
      unfold toScoreJob doesExist
      rw [he4.deleted hphase]
      rfl
  · have hfinished : (pollStep gameId input db .updateInProgressGame).2 = .finished := if_neg ht
    obtain ⟨hj1, hn1⟩ := h0.advance_live (by simpa using ht)
    rw [hfinished] at h1
    obtain ⟨hj2, hn2⟩ := h1.advance_finished
    obtain ⟨hj3, hn3⟩ := h1.advance.advance_finished
    obtain ⟨hj4, hn4⟩ := h1.advance.advance.advance_finished
    have hjobs := hj4.trans (hj3.trans (hj2.trans hj1))
    have hnames := hn4.trans (hn3.trans (hn2.trans hn1))
    refine ⟨⟨true, hjobs ▸ hjob⟩, ScoreJob.ext (h4.db_eq.trans hdb) ?_ ?_⟩
    · unfold toScoreJob scoreJobCallback
      dsimp only
      rw [hjobs, if_neg ht]
    · unfold toScoreJob scoreJobCallback doesExist
      dsimp only
      rw [hnames, if_neg ht]

/-- **A whole poll.**  With nothing in between, the steps of a callback are `scoreJobCallback`. -/
theorem poll_refines (triggerTime : GameRow → Nat)
    (hjob : s.jobs[job]? = some ⟨.score gameId, true⟩) (input : UpdateGameScoreInput) :
    (∃ isActive, (run (step triggerTime) s (wholePoll job s input)).jobs[job]? =
        some ⟨.score gameId, isActive⟩) ∧
      (run (step triggerTime) s (wholePoll job s input)).toScoreJob job gameId =
        scoreJobCallback gameId (s.toScoreJob job gameId) input := by
  obtain ⟨s', hs', hjobs, hnames, h0⟩ := polled_start hjob input
  have hsame : s'.toScoreJob job gameId = s.toScoreJob job gameId := by
    unfold toScoreJob doesExist
    rw [h0.db_eq, hjobs, hnames]
  obtain ⟨s'', hs'', hpolled⟩ := h0.refines (hjobs ▸ hjob)
  have hrun : run (step triggerTime) s (wholePoll job s input) = s'' := by
    rw [← hs'', ← hs']
    rfl
  rw [hrun, ← hsame]
  exact hpolled

/-- A job that was stopped polls no more. -/
theorem wholePoll_stopped (hjob : s.jobs[job]? = some ⟨.score gameId, false⟩)
    (input : UpdateGameScoreInput) : run (step triggerTime) s (wholePoll job s input) = s := by
  have htick : s.tick job = s := by
    unfold tick
    rw [hjob]
  have hnone : s.callbacks[s.callbacks.length]? = none := List.getElem?_eq_none (Nat.le_refl _)
  have hanswer : s.answer s.callbacks.length (some input) = s := by
    unfold answer
    rw [hnone]
  have hadvance : s.advance s.callbacks.length = s := by
    unfold GameJobs.advance
    rw [hnone]
  show ((((((s.tick job).answer _ (some input)).advance _).advance _).advance _).advance _) = s
  rw [htick, hanswer, hadvance, hadvance, hadvance, hadvance]

end

end GameJobs

/-- A poll of a job that runs; one that was stopped does not fire. -/
def ScoreJob.poll (gameId : String) (job : ScoreJob) (currentStatus : UpdateGameScoreInput) :
    ScoreJob :=
  if job.running then scoreJobCallback gameId job currentStatus else job

namespace GameJobs

/-- **Polls one after the other.**  A score job of any reachable scheduler whose polls are done one
by one does what `scoreJobCallback` does to the database, to the job and to its name, until
one of them was terminal. -/
theorem polls_refine (triggerTime : GameRow → Nat) (time : Nat) (db : Db) (before : List JobEvent)
    (gameId : String) (job : Nat) (isActive : Bool)
    (hjob : (run (step triggerTime) (start time db) before).jobs[job]? =
      some ⟨.score gameId, isActive⟩) (polls : List UpdateGameScoreInput) :
    (run (fun s input => run (step triggerTime) s (wholePoll job s input))
        (run (step triggerTime) (start time db) before) polls).toScoreJob job gameId =
      run (ScoreJob.poll gameId)
        ((run (step triggerTime) (start time db) before).toScoreJob job gameId) polls := by
  generalize run (step triggerTime) (start time db) before = s at *
  induction polls generalizing s isActive with
  | nil => rfl
  | cons input polls ih =>
    rw [run_cons, run_cons]
    cases isActive with
    | true =>
      obtain ⟨⟨isActive', hjob'⟩, hpoll⟩ := poll_refines triggerTime hjob input
      have hrunning : (s.toScoreJob job gameId).running = true := by
        unfold toScoreJob
        rw [hjob]
        rfl
      rw [ih isActive' _ hjob', hpoll, ScoreJob.poll, if_pos hrunning]
    | false =>
      have hrunning : (s.toScoreJob job gameId).running = false := by
        unfold toScoreJob
        rw [hjob]
        rfl
      rw [wholePoll_stopped hjob input, ih false s hjob, ScoreJob.poll, hrunning]
      rfl

/-- The score job of a game that has started, polled in the first inning and at its end. -/
theorem polls_refine_twice :
    (run (fun s input => run (step fun _ => 0) s (wholePoll 1 s input))
        (run (step fun _ => 0) (start 1 (leagueDb.insertGame wonGame)) [.setup [wonGame]])
        [⟨some 0, some 1, some "1회초"⟩, ⟨some 5, some 3, some finished⟩]).toScoreJob 1 wonGame.id =
      run (ScoreJob.poll wonGame.id)
        ((run (step fun _ => 0) (start 1 (leagueDb.insertGame wonGame))
          [.setup [wonGame]]).toScoreJob 1 wonGame.id)
        [⟨some 0, some 1, some "1회초"⟩, ⟨some 5, some 3, some finished⟩] :=
  polls_refine (fun _ => 0) 1 (leagueDb.insertGame wonGame) [.setup [wonGame]] wonGame.id 1 true
    (by decide) _

end GameJobs

end VictoryFairy
