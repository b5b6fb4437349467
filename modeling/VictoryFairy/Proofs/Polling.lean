import VictoryFairy.Proofs.GameJobs

/-!
# How long a game is polled

A game is watched while it has an active job, a trigger or a score job.  Only a callback
whose poll was terminal ends this, by stopping its own job and then deleting the job of
its name, which may be a later one.

    Watched.step           : no other event ends it
    watched_until_terminal : a game that was set up is watched until a poll was terminal
    unwatched_step         : only a set-up begins it
    polling_is_over        : after a terminal callback no poll starts before the next set-up
    result_is_final        : and the stored row stays once the other callbacks are done
-/

namespace VictoryFairy

open Runs

namespace GameJobs

/-- The game has an active job. -/
def Watched (s : GameJobs) (gameId : String) : Prop :=
  ∃ (h : Nat) (job : CronJob), s.jobs[h]? = some job ∧ job.isActive = true ∧
    job.task.gameId = some gameId

section

variable {triggerTime : GameRow → Nat} {s : GameJobs} {gameId : String}

/-! ## Which jobs the three steps leave -/

theorem getElem?_delete (hc : Consistent s) {h : Nat} {job : CronJob} (hjob : s.jobs[h]? = some job)
    {name : String} (hn : job.task.jobName ≠ name) :
    (s.deleteExistingCronJob name).jobs[h]? = some job := by
  cases hreg : s.cronJobs name with
  | none =>
    rw [deleteExisting_none hreg]
    exact hjob
  | some i =>
    rw [deleteExisting_some hreg]
    refine getElem?_setActive.2 ⟨job, hjob, ?_⟩
    rw [if_neg]
    rintro rfl
    obtain ⟨own, hown, hname⟩ := hc.named name h hreg
    rw [hjob] at hown
    cases hown
    exact hn hname

theorem length_delete (s : GameJobs) (name : String) :
    (s.deleteExistingCronJob name).jobs.length = s.jobs.length := by
  cases hreg : s.cronJobs name with
  | none => rw [deleteExisting_none hreg]
  | some i =>
    rw [deleteExisting_some hreg]
    exact List.length_modify _ _ _

theorem getElem?_launch (hc : Consistent s) {h : Nat} {job : CronJob} (hjob : s.jobs[h]? = some job)
    {task : CronTask} (hn : job.task.jobName ≠ task.jobName) :
    (s.launch task).jobs[h]? = some job := by
  have hkept := getElem?_delete hc hjob hn
  unfold launch
  dsimp only
  rw [List.getElem?_append_left (List.getElem?_eq_some_iff.1 hkept).1]
  exact hkept

theorem getElem?_launch_new (s : GameJobs) (task : CronTask) :
    (s.launch task).jobs[s.jobs.length]? = some ⟨task, true⟩ := by
  unfold launch
  dsimp only
  rw [← length_delete s task.jobName]
  simp

/-- What is active after a deletion was active before. -/
theorem active_of_delete {name : String} {h : Nat} {job : CronJob}
    (hjob : (s.deleteExistingCronJob name).jobs[h]? = some job) (ha : job.isActive = true) :
    s.jobs[h]? = some job := by
  cases hreg : s.cronJobs name with
  | none =>
    rw [deleteExisting_none hreg] at hjob
    exact hjob
  | some i =>
    rw [deleteExisting_some hreg] at hjob
    obtain ⟨old, hold, rfl⟩ := getElem?_setActive.1 hjob
    split at ha
    · cases ha
    · rw [if_neg ‹_›]
      exact hold

theorem active_of_setActive {i h : Nat} {job : CronJob}
    (hjob : (s.setActive i false).jobs[h]? = some job) (ha : job.isActive = true) :
    h ≠ i ∧ s.jobs[h]? = some job := by
  obtain ⟨old, hold, rfl⟩ := getElem?_setActive.1 hjob
  split at ha
  · cases ha
  · next hne =>
    rw [if_neg hne]
    exact ⟨hne, hold⟩

theorem active_of_launch {task : CronTask} {h : Nat} {job : CronJob}
    (hjob : (s.launch task).jobs[h]? = some job) (ha : job.isActive = true) :
    s.jobs[h]? = some job ∨ job = ⟨task, true⟩ := by
  unfold launch at hjob
  dsimp only at hjob
  rcases getElem?_concat_cases hjob with hold | rfl
  · exact Or.inl (active_of_delete hold ha)
  · exact Or.inr rfl

/-! ## A game stays watched -/

theorem watched_launch (s : GameJobs) {task : CronTask} (h : task.gameId = some gameId) :
    (s.launch task).Watched gameId :=
  ⟨s.jobs.length, _, getElem?_launch_new s task, rfl, h⟩

theorem Watched.launch (hw : Watched s gameId) (hc : Consistent s) (task : CronTask) :
    (s.launch task).Watched gameId := by
  obtain ⟨h, job, hjob, ha, hg⟩ := hw
  by_cases hn : job.task.jobName = task.jobName
  · exact watched_launch s ((CronTask.jobName_inj hn).1 ▸ hg)
  · exact ⟨h, job, getElem?_launch hc hjob hn, ha, hg⟩

theorem Watched.delete (hw : Watched s gameId) (hc : Consistent s) {task : CronTask}
    (ht : task.gameId ≠ some gameId) :
    (s.deleteExistingCronJob task.jobName).Watched gameId := by
  obtain ⟨h, job, hjob, ha, hg⟩ := hw
  refine ⟨h, job, getElem?_delete hc hjob fun hn => ht ?_, ha, hg⟩
  rw [← (CronTask.jobName_inj hn).1]
  exact hg

theorem Watched.stop (hw : Watched s gameId) {i : Nat}
    (hi : ∀ job, s.jobs[i]? = some job → job.task.gameId ≠ some gameId) :
    (s.setActive i false).Watched gameId := by
  obtain ⟨h, job, hjob, ha, hg⟩ := hw
  refine ⟨h, job, getElem?_setActive.2 ⟨job, hjob, ?_⟩, ha, hg⟩
  rw [if_neg]
  rintro rfl
  exact hi job hjob hg

theorem watched_armed (s : GameJobs) (game : GameRow) :
    (s.armed triggerTime game).Watched game.id := by
  unfold armed
  split
  · exact watched_launch _ rfl
  · exact watched_launch _ rfl

theorem Watched.armed (hw : Watched s gameId) (hc : Consistent s) (game : GameRow) :
    (s.armed triggerTime game).Watched gameId := by
  by_cases hg : game.id = gameId
  · rw [← hg]
    exact watched_armed s game
  · have ht : (CronTask.trigger game).gameId ≠ some gameId := fun h => hg (Option.some.inj h)
    have hname : (CronTask.trigger game).jobName ≠ CronTask.crawling.jobName :=
      fun he => by simpa using (CronTask.jobName_inj he).2.1
    unfold GameJobs.armed
    split
    · exact (hw.delete hc ht).launch (hc.delete hname) _
    · exact hw.launch hc _

theorem watched_setup (hc : Consistent s) (games : List GameRow)
    (h : Watched s gameId ∨ ∃ game ∈ games, game.id = gameId) :
    (games.foldl (GameJobs.armed triggerTime) s).Watched gameId := by
  induction games generalizing s with
  | nil =>
    rcases h with hw | ⟨game, hmem, -⟩
    · exact hw
    · cases hmem
  | cons game games ih =>
    refine ih (hc.armed game) ?_
    rcases h with hw | ⟨game', hmem, hid⟩
    · exact Or.inl (hw.armed hc game)
    · rcases List.mem_cons.1 hmem with rfl | hmem
      · rw [← hid]
        exact Or.inl (watched_armed s game')
      · exact Or.inr ⟨game', hmem, hid⟩

theorem Watched.fired (hw : Watched s gameId) (hc : Consistent s) {job : Nat} {game : GameRow}
    (hjob : s.jobs[job]? = some ⟨.trigger game, true⟩) :
    (((s.setActive job false).launch (.score game.id)).deleteExistingCronJob
      (CronTask.trigger game).jobName).Watched gameId := by
  have hstop := hc.fired hjob
  have hlaunch : Consistent ((s.setActive job false).launch (.score game.id)) :=
    hstop.launch CronTask.noConfusion
  by_cases hg : game.id = gameId
  · -- the score job that was launched has another name than the trigger
    refine ⟨_, _, getElem?_delete hlaunch (getElem?_launch_new _ _) fun hn => ?_, rfl,
      congrArg some hg⟩
    obtain ⟨g, hscore⟩ := (CronTask.jobName_inj hn).2.2.1 ⟨game.id, rfl⟩
    cases hscore
  · have ht : (CronTask.trigger game).gameId ≠ some gameId := fun h => hg (Option.some.inj h)
    have hrest : (s.setActive job false).Watched gameId := by
      refine hw.stop fun job' hjob' => ?_
      rw [hjob] at hjob'
      cases hjob'
      exact ht
    exact (hrest.launch hstop _).delete hlaunch ht

/-- A poll of the game that is terminal. -/
def StillPlayed (gameId : String) (s : GameJobs) : JobEvent → Prop
  | .answer i currentStatus => ∀ c input, s.callbacks[i]? = some c → c.gameId = gameId →
      currentStatus = some input → isTerminal input.status = false
  | _ => True

/-- No callback of the game has had a terminal poll. -/
def NoneTerminal (s : GameJobs) (gameId : String) : Prop :=
  ∀ c ∈ s.callbacks, c.gameId = gameId → ∀ input phase, c.phase = .polled input phase →
    isTerminal input.status = false ∧ (phase = .updateInProgressGame ∨ phase = .finished)

/-- After its only step the callback of a poll that is not terminal is over. -/
theorem pollStep_notTerminal {input : UpdateGameScoreInput} (h : isTerminal input.status = false)
    (db : Db) {phase : PollPhase} (hp : phase = .updateInProgressGame ∨ phase = .finished) :
    (pollStep gameId input db phase).2 = .finished := by
  rcases hp with rfl | rfl
  · unfold pollStep
    simp [h]
  · rfl

theorem NoneTerminal.step (hn : NoneTerminal s gameId) {e : JobEvent} (he : StillPlayed gameId s e) :
    (s.step triggerTime e).NoneTerminal gameId := by
  have h := step_callbacks triggerTime s e
  unfold NoneTerminal
  generalize (s.step triggerTime e).callbacks = callbacks, (s.step triggerTime e).db = db at h
  cases h with
  | none | written => exact hn
  | started hjob =>
    intro c hmem hg input phase hphase
    rcases List.mem_append.1 hmem with hmem | hmem
    · exact hn c hmem hg input phase hphase
    · rw [List.mem_singleton.1 hmem] at hphase
      cases hphase
  | @answered i c currentStatus hi hasked =>
    intro c' hmem hg input phase hphase
    rcases mem_setPhase hi hmem with rfl | hold
    · cases currentStatus with
      | none => cases hphase
      | some input' =>
        cases hphase
        exact ⟨he c _ hi hg rfl, Or.inl rfl⟩
    · exact hn c' hold hg input phase hphase
  | @recorded i c input phase hi hpolled =>
    intro c' hmem hg input' phase' hphase'
    rcases mem_setPhase hi hmem with rfl | hold
    · obtain ⟨ht, hp⟩ := hn c (List.mem_of_getElem? hi) hg input phase hpolled
      cases hphase'
      exact ⟨ht, Or.inr (pollStep_notTerminal ht s.db hp)⟩
    · exact hn c' hold hg input' phase' hphase'

/-- Only a callback with a terminal poll stops jobs. -/
theorem Watched.step (hw : Watched s gameId) (hc : Consistent s) (hn : NoneTerminal s gameId)
    (e : JobEvent) : (s.step triggerTime e).Watched gameId := by
  have h := step_effect triggerTime s e
  generalize s.step triggerTime e = s' at h
  cases h with
  | none | elapsed | written | started | answered | recorded => exact hw
  | setUp => exact watched_setup hc _ (Or.inl hw)
  | fired hjob ht => exact hw.fired hc hjob
  | @stopped i c input phase hi hphase ht =>
    have hmem := List.mem_of_getElem? hi
    obtain ⟨isActive, hjob⟩ := hc.callbacks c hmem
    have hkept : (s.record i input (pollStep c.gameId input s.db phase)).Watched gameId := hw
    refine hkept.stop fun job hj hg => ?_
    rw [show s.jobs[c.intervalJob]? = some job from hj] at hjob
    cases hjob
    rw [(hn c hmem (Option.some.inj hg) input phase hphase).1] at ht
    cases ht
  | @deleted i c input phase hi hphase hp hp' =>
    have hkept : (s.record i input (pollStep c.gameId input s.db phase)).Watched gameId := hw
    have hscore : (CronTask.score c.gameId).gameId ≠ some gameId := by
      intro hg
      rcases (hn c (List.mem_of_getElem? hi) (Option.some.inj hg) input phase hphase).2 with h | h
      · exact hp h
      · exact hp' h
    exact hkept.delete (hc.record hi _ _) hscore

/-- **A game that was set up is polled until it ends.**  From its set-up on a game has an
active trigger or score job, as long as no poll of it was terminal. -/
theorem watched_until_terminal (triggerTime : GameRow → Nat) (time : Nat) (db : Db)
    (before after : List JobEvent) (games : List GameRow) (game : GameRow) (hgame : game ∈ games)
    (hplayed : Guarded (step triggerTime) (StillPlayed game.id) (start time db)
      (before ++ .setup games :: after)) :
    Always (step triggerTime) (fun s => s.Watched game.id)
      (run (step triggerTime) (start time db) (before ++ [.setup games])) after := by
  have hstart : Consistent (start time db) ∧ NoneTerminal (start time db) game.id :=
    ⟨start_consistent time db, fun c hmem => by cases hmem⟩
  have hstep : ∀ s e, Consistent s ∧ NoneTerminal s game.id → StillPlayed game.id s e →
      Consistent (step triggerTime s e) ∧ NoneTerminal (step triggerTime s e) game.id :=
    fun s e h he => ⟨step_consistent h.1 e, h.2.step he⟩
  obtain ⟨hbefore, hsetup, hafter⟩ := (guarded_append _ _ _).1 hplayed
  have hs := (always_of_guarded hstep hstart hbefore).last
  have hs' := hstep _ _ hs hsetup
  have hw : (step triggerTime (run (step triggerTime) (start time db) before)
      (.setup games)).Watched game.id := by
    show (settle (setupTriggerForGameScoreCrawlingJob triggerTime _ games)).Watched game.id
    rw [setup_eq]
    exact watched_setup hs.1 games (Or.inr ⟨game, hgame, rfl⟩)
  rw [run_append]
  refine (always_of_guarded (C := StillPlayed game.id)
    (I := fun s => (Consistent s ∧ NoneTerminal s game.id) ∧ s.Watched game.id)
    (fun s e h he => ⟨hstep s e h.1 he, h.2.step h.1.1 h.1.2 e⟩) ⟨hs', hw⟩ hafter).imp
    fun s h => h.2

end

/-- A game that has started is set up, and its first poll finds it in the first inning. -/
theorem watched_until_terminal_firstInning :
    (run (step fun _ => 0) (start 1 (leagueDb.insertGame wonGame))
      [.setup [wonGame], .tick 1, .answer 0 (some ⟨some 0, some 1, some "1회초"⟩), .advance 0,
        .elapse 60000]).Watched wonGame.id :=
  (watched_until_terminal (fun _ => 0) 1 (leagueDb.insertGame wonGame) []
    [.tick 1, .answer 0 (some ⟨some 0, some 1, some "1회초"⟩), .advance 0, .elapse 60000] [wonGame]
    wonGame List.mem_cons_self
    ⟨trivial, trivial, fun c input _ _ he => by cases he; decide, trivial, trivial, trivial⟩).last

/-! ## When it is over -/

/-- The event does not set the game up. -/
def NotSetUp (gameId : String) (_ : GameJobs) : JobEvent → Prop
  | .setup games => ∀ game ∈ games, game.id ≠ gameId
  | _ => True

/-- The polls of the game that were started so far. -/
def pollsOf (s : GameJobs) (gameId : String) : Nat := s.callbacks.countP fun c => c.gameId = gameId

section

variable {triggerTime : GameRow → Nat} {s : GameJobs} {gameId : String}

/-- Every active job has a task with `P`. -/
def Active (P : CronTask → Prop) (s : GameJobs) : Prop :=
  ∀ (h : Nat) (job : CronJob), s.jobs[h]? = some job → job.isActive = true → P job.task

theorem not_watched_iff : ¬ s.Watched gameId ↔ Active (fun task => task.gameId ≠ some gameId) s :=
  ⟨fun h i job hjob ha hg => h ⟨i, job, hjob, ha, hg⟩,
    fun h ⟨i, job, hjob, ha, hg⟩ => h i job hjob ha hg⟩

section

variable {P : CronTask → Prop}

theorem Active.launch (h : Active P s) {task : CronTask} (ht : P task) :
    Active P (s.launch task) := by
  intro i job hjob ha
  rcases active_of_launch hjob ha with hold | rfl
  · exact h i job hold ha
  · exact ht

theorem Active.delete (h : Active P s) (name : String) :
    Active P (s.deleteExistingCronJob name) :=
  fun i job hjob ha => h i job (active_of_delete hjob ha) ha

theorem Active.stop (h : Active P s) (i : Nat) : Active P (s.setActive i false) :=
  fun j job hjob ha => h j job (active_of_setActive hjob ha).2 ha

theorem Active.setup (h : Active P s) {games : List GameRow}
    (hgames : ∀ game ∈ games,
      if triggerTime game < s.time then P (.score game.id) else P (.trigger game)) :
    Active P (games.foldl (GameJobs.armed triggerTime) s) := by
  induction games generalizing s with
  | nil => exact h
  | cons game games ih =>
    obtain ⟨jobs, cronJobs, heq⟩ := s.setup_frame triggerTime [game]
    have htime : (s.armed triggerTime game).time = s.time := by
      rw [show s.armed triggerTime game = _ from heq]
    refine ih ?_ fun g hmem => htime ▸ hgames g (List.mem_cons_of_mem game hmem)
    have hg := hgames game List.mem_cons_self
    unfold GameJobs.armed
    split
    · next ht => exact (h.delete _).launch (by rwa [if_pos ht] at hg)
    · next ht => exact h.launch (by rwa [if_neg ht] at hg)

/-- Jobs are made by set-ups and by triggers that fire. -/
theorem Active.step (h : Active P s) {e : JobEvent}
    (hsetup : ∀ games, e = .setup games → ∀ game ∈ games,
      if triggerTime game < s.time then P (.score game.id) else P (.trigger game))
    (hfire : ∀ game, P (.trigger game) → triggerTime game ≤ s.time → P (.score game.id)) :
    Active P (s.step triggerTime e) := by
  have heffect := step_effect triggerTime s e
  generalize s.step triggerTime e = s' at heffect
  cases heffect with
  | none | elapsed | written | started | answered | recorded => exact h
  | setUp => exact h.setup (hsetup _ rfl)
  | @fired job game hjob ht =>
    exact ((h.stop job).launch (hfire game (h job _ hjob rfl) ht)).delete _
  | @stopped i c input phase hi hphase ht =>
    have hrecord : Active P (s.record i input (pollStep c.gameId input s.db phase)) := h
    exact hrecord.stop _
  | @deleted i c input phase hi hphase hp hp' =>
    have hrecord : Active P (s.record i input (pollStep c.gameId input s.db phase)) := h
    exact hrecord.delete _

end

/-- Only a set-up of the game makes a job for it. -/
theorem unwatched_step (h : ¬ s.Watched gameId) {e : JobEvent} (he : NotSetUp gameId s e) :
    ¬ (s.step triggerTime e).Watched gameId := by
  refine not_watched_iff.2 ((not_watched_iff.1 h).step ?_ fun _ hg _ => hg)
  rintro games rfl game hmem
  have hg : game.id ≠ gameId := he game hmem
  split <;> exact fun hs => hg (Option.some.inj hs)

theorem no_score_of_unwatched (h : ¬ s.Watched gameId) :
    Active (fun task => task ≠ .score gameId) s := by
  intro i job hjob ha htask
  refine not_watched_iff.1 h i job hjob ha ?_
  rw [htask]
  rfl

theorem pollsOf_setPhase (s : GameJobs) (i : Nat) (phase : CallbackPhase) (gameId : String) :
    (s.setPhase i phase).pollsOf gameId = s.pollsOf gameId := by
  have hmap : (s.setPhase i phase).callbacks.map ScoreCallback.gameId =
      s.callbacks.map ScoreCallback.gameId := by
    refine List.ext_getElem? fun j => ?_
    unfold setPhase
    rw [List.getElem?_map, List.getElem?_map, List.getElem?_modify]
    cases s.callbacks[j]? with
    | none => rfl
    | some c => by_cases he : i = j <;> simp [he]
  have hcount : ∀ l : List ScoreCallback, (l.countP fun c => c.gameId = gameId) =
      (l.map ScoreCallback.gameId).countP fun g => g = gameId := by
    intro l
    rw [List.countP_map]
    rfl
  unfold pollsOf
  rw [hcount, hcount, hmap]

/-- A poll of the game is started by a score job of the game only. -/
theorem pollsOf_step (h : Active (fun task => task ≠ .score gameId) s) (e : JobEvent) :
    (s.step triggerTime e).pollsOf gameId = s.pollsOf gameId := by
  have heffect := step_callbacks triggerTime s e
  unfold pollsOf
  generalize (s.step triggerTime e).callbacks = callbacks, (s.step triggerTime e).db = db at heffect
  cases heffect with
  | none | written => rfl
  | @started job g hjob =>
    have hg : g ≠ gameId := fun hg => h job _ hjob rfl (congrArg CronTask.score hg)
    simp [hg]
  | answered hi hasked => exact pollsOf_setPhase s _ _ gameId
  | recorded hi hphase => exact pollsOf_setPhase s _ _ gameId

/-- The last step of a callback with a terminal poll deletes the score job of the game. -/
theorem advance_last {i : Nat} {c : ScoreCallback} {input : UpdateGameScoreInput} {phase : PollPhase}
    (hi : s.callbacks[i]? = some c) (hphase : c.phase = .polled input phase)
    (hp : phase ≠ .updateInProgressGame) (hp' : phase ≠ .finished)
    (hlast : (pollStep c.gameId input s.db phase).2 = .finished) :
    s.advance i = (s.record i input (pollStep c.gameId input s.db phase)).deleteExistingCronJob
      (CronTask.score c.gameId).jobName := by
  rcases s.advance_cases i with ⟨-, hnone⟩ | ⟨c', input', phase', hi', hphase', hcases⟩
  · exact absurd hphase (hnone c hi input phase)
  · obtain rfl : c = c' := Option.some.inj (hi.symm.trans hi')
    rw [hphase] at hphase'
    cases hphase'
    rcases hcases with ⟨-, ⟨h, -⟩ | h | h⟩ | ⟨h, -⟩ | ⟨-, -, -, heq⟩
    · exact absurd h hp
    · exact absurd h hp'
    · exact absurd hlast h
    · exact absurd h hp
    · exact heq

/-- Without a trigger the game has no active job left then. -/
theorem unwatched_of_last (hc : Consistent s) {i : Nat} {c : ScoreCallback}
    {input : UpdateGameScoreInput} {phase : PollPhase} (hi : s.callbacks[i]? = some c)
    (hphase : c.phase = .polled input phase) (hp : phase ≠ .updateInProgressGame)
    (hp' : phase ≠ .finished) (hlast : (pollStep c.gameId input s.db phase).2 = .finished)
    (htrigger : ∀ job ∈ s.jobs, job.isActive = true → ∀ game, job.task = .trigger game →
      game.id ≠ c.gameId) : ¬ (s.advance i).Watched c.gameId := by
  have heq := advance_last hi hphase hp hp' hlast
  rintro ⟨h, job, hjob, ha, hg⟩
  have hreg := (hc.advance i).active h job hjob ha
  rw [heq] at hjob hreg
  have hold : (s.record i input (pollStep c.gameId input s.db phase)).jobs[h]? = some job :=
    active_of_delete hjob ha
  cases htask : job.task with
  | crawling =>
    rw [htask] at hg
    cases hg
  | trigger game =>
    rw [htask] at hg
    exact htrigger job (List.mem_of_getElem? hold) ha game htask (Option.some.inj hg)
  | score gameId =>
    rw [htask] at hg hreg
    rw [show gameId = c.gameId from Option.some.inj hg, cronJobs_deleteExisting, if_pos rfl] at hreg
    cases hreg

end

/-- **Polling ends for good.**  After the last step of a callback whose poll was terminal, and
with no trigger of the game waiting, the game has no active job and no poll of it is
started, in every run that does not set it up again. -/
theorem polling_is_over (triggerTime : GameRow → Nat) (time : Nat) (db : Db)
    (before after : List JobEvent) (i : Nat) (c : ScoreCallback) (input : UpdateGameScoreInput)
    (phase : PollPhase) (hi : (run (step triggerTime) (start time db) before).callbacks[i]? = some c)
    (hphase : c.phase = .polled input phase) (hp : phase ≠ .updateInProgressGame)
    (hp' : phase ≠ .finished)
    (hlast : (pollStep c.gameId input (run (step triggerTime) (start time db) before).db phase).2 =
      .finished)
    (htrigger : ∀ job ∈ (run (step triggerTime) (start time db) before).jobs, job.isActive = true →
      ∀ game, job.task = .trigger game → game.id ≠ c.gameId)
    (hafter : Guarded (step triggerTime) (NotSetUp c.gameId)
      (run (step triggerTime) (start time db) (before ++ [.advance i])) after) :
    Always (step triggerTime)
      (fun s => ¬ s.Watched c.gameId ∧ s.pollsOf c.gameId =
        (run (step triggerTime) (start time db) (before ++ [.advance i])).pollsOf c.gameId)
      (run (step triggerTime) (start time db) (before ++ [.advance i])) after := by
  have hc := reachable_consistent triggerTime time db before
  have hover := unwatched_of_last hc hi hphase hp hp' hlast htrigger
  rw [run_append] at hafter ⊢
  exact always_of_guarded
    (fun s e h he => ⟨unwatched_step h.1 he, (pollsOf_step (no_score_of_unwatched h.1) e).trans h.2⟩)
    ⟨hover, rfl⟩ hafter

/-- The first pitch of `wonGame` is over when it is set up; its second poll was terminal. -/
def lastPoll : List JobEvent :=
  [.setup [wonGame], .tick 1, .answer 0 (some ⟨some 5, some 3, some finished⟩), .advance 0, .advance 0]

theorem polling_is_over_lastPoll :
    ¬ (run (step fun _ => 0) (start 1 (leagueDb.insertGame wonGame))
        (lastPoll ++ [.advance 0] ++ [.elapse 60000, .tick 1])).Watched wonGame.id := by
  have hjobs : (run (step fun _ => 0) (start 1 (leagueDb.insertGame wonGame)) lastPoll).jobs =
      [⟨.crawling, true⟩, ⟨.score wonGame.id, false⟩] := by decide
  have h := polling_is_over (fun _ => 0) 1 (leagueDb.insertGame wonGame) lastPoll
    [.elapse 60000, .tick 1] 0
    ⟨1, wonGame.id, .polled ⟨some 5, some 3, some finished⟩ .getByGameId⟩ ⟨some 5, some 3, some finished⟩
    .getByGameId (by decide) rfl (by decide) (by decide) (by decide)
    (by rw [hjobs]; simp) ⟨trivial, trivial, trivial⟩
  rw [run_append]
  exact h.last.1

/-! ## The stored row -/

/-- The event neither sets the game up nor is another request's write to its row. -/
def LeavesRow (gameId : String) (s : GameJobs) (e : JobEvent) : Prop :=
  NotSetUp gameId s e ∧ ∀ db, e = .write db → db.games.find? gameId = s.db.games.find? gameId

end GameJobs

/-- The callback has nothing left to do. -/
def ScoreCallback.Ended (c : ScoreCallback) : Prop :=
  c.phase = .rejected ∨ ∃ input, c.phase = .polled input .finished

section

variable {gameId g : String} {db db' : Db}

theorem find?_updateInProgressGame_of_ne (hg : gameId ≠ g) (db : Db) (input : UpdateGameScoreInput) :
    (updateInProgressGame db gameId input).games.find? g = db.games.find? g := by
  unfold updateInProgressGame
  cases hf : db.games.find? gameId with
  | none => rfl
  | some row =>
    have hid : (row.updateInProgressGame input).id = gameId :=
      (row.updateInProgressGame_id input).trans (Table.find?_key hf)
    exact Table.find?_save_of_ne _ (hid ▸ hg)

theorem find?_updateFinishedMatch_of_ne (hg : gameId ≠ g) {input : UpdateGameScoreInput}
    (h : updateFinishedMatch db gameId input = .ok db') :
    db'.games.find? g = db.games.find? g := by
  cases hrow : db.games.find? gameId with
  | none =>
    unfold updateFinishedMatch at h
    split at h
    · cases h
      rfl
    · rw [hrow] at h
      cases h
  | some row =>
    obtain ⟨row', hrow', rfl, -⟩ := find?_updateFinishedMatch h hrow
    have hid : row'.id = gameId := (GameRow.updateFinishedMatch_id hrow').trans (Table.find?_key hrow)
    exact Table.find?_save_of_ne _ (hid ▸ hg)

/-- Registrations are saved, no game is. -/
theorem saveBulk_games {updates : List SaveElement} (h : saveBulk db updates = .ok db') :
    db'.games = db.games := by
  refine foldlM_of_step (I := fun d : Db => d.games = db.games) (fun d element d' h hi => ?_) h rfl
  cases element with
  | entity r =>
    rw [saveElement, Db.saveRegisteredGame] at h
    split at h
    · cases h
    · split at h
      · cases h
      · cases h
        exact hi
  | wrapped r => cases h

/-- The steps of a callback write the row of their own game. -/
theorem find?_pollStep (hg : gameId ≠ g) (input : UpdateGameScoreInput) (db : Db)
    (phase : PollPhase) :
    (pollStep gameId input db phase).1.games.find? g = db.games.find? g := by
  cases phase with
  | updateInProgressGame => exact find?_updateInProgressGame_of_ne hg db input
  | updateFinishedMatch =>
    unfold pollStep
    dsimp only
    cases hup : updateFinishedMatch db gameId input with
    | error e => rfl
    | ok db' => exact find?_updateFinishedMatch_of_ne hg hup
  | getByGameId =>
    unfold pollStep
    dsimp only
    split
    · rfl
    · split <;> rfl
  | saveBulk updates =>
    unfold pollStep
    dsimp only
    cases hsave : saveBulk db updates with
    | error e => rfl
    | ok db' => exact congrArg (fun t => Table.find? t g) (saveBulk_games hsave)
  | finished => rfl

end

namespace GameJobs

section

variable {triggerTime : GameRow → Nat} {s : GameJobs} {gameId : String}

/-- What an unwatched game without callbacks in flight keeps. -/
structure Settled (s : GameJobs) (gameId : String) : Prop where
  unwatched : ¬ s.Watched gameId
  ended : ∀ c ∈ s.callbacks, c.gameId = gameId → c.Ended

theorem ended_setPhase (h : ∀ c ∈ s.callbacks, c.gameId = gameId → c.Ended) {i : Nat}
    {c : ScoreCallback} (hi : s.callbacks[i]? = some c) {phase : CallbackPhase}
    (hphase : c.gameId = gameId → ScoreCallback.Ended { c with phase }) :
    ∀ c ∈ (s.setPhase i phase).callbacks, c.gameId = gameId → c.Ended := by
  intro c' hmem hg
  rcases mem_setPhase hi hmem with rfl | hold
  · exact hphase hg
  · exact h c' hold hg

/-- A callback that has ended is at no other phase. -/
theorem ended_polled {c : ScoreCallback} (h : c.Ended) {input : UpdateGameScoreInput}
    {phase : PollPhase} (hphase : c.phase = .polled input phase) : phase = .finished := by
  rcases h with h | ⟨input', h⟩
  · rw [hphase] at h
    cases h
  · rw [hphase] at h
    cases h
    rfl

theorem Settled.step (h : Settled s gameId) {e : JobEvent} (he : LeavesRow gameId s e) :
    Settled (s.step triggerTime e) gameId ∧
      (s.step triggerTime e).db.games.find? gameId = s.db.games.find? gameId := by
  have hunwatched : ¬ (s.step triggerTime e).Watched gameId := unwatched_step h.unwatched he.1
  suffices hrest : (∀ c ∈ (s.step triggerTime e).callbacks, c.gameId = gameId → c.Ended) ∧
      (s.step triggerTime e).db.games.find? gameId = s.db.games.find? gameId from
    ⟨⟨hunwatched, hrest.1⟩, hrest.2⟩
  have heffect := step_callbacks triggerTime s e
  generalize (s.step triggerTime e).callbacks = callbacks, (s.step triggerTime e).db = db at heffect
  cases heffect with
  | none => exact ⟨h.ended, rfl⟩
  | written => exact ⟨h.ended, he.2 _ rfl⟩
  | @started job g hjob =>
    refine ⟨fun c hmem hg => ?_, rfl⟩
    rcases List.mem_append.1 hmem with hmem | hmem
    · exact h.ended c hmem hg
    · rw [List.mem_singleton.1 hmem] at hg
      exact absurd ⟨job, _, hjob, rfl, congrArg some hg⟩ h.unwatched
  | @answered i c currentStatus hi hasked =>
    refine ⟨ended_setPhase h.ended hi fun hg => ?_, rfl⟩
    rcases h.ended c (List.mem_of_getElem? hi) hg with hend | ⟨input, hend⟩ <;>
      rw [hasked] at hend <;> cases hend
  | @recorded i c input phase hi hphase =>
    have hfinished : c.gameId = gameId → phase = .finished :=
      fun hg => ended_polled (h.ended c (List.mem_of_getElem? hi) hg) hphase
    refine ⟨ended_setPhase h.ended hi fun hg => ?_, ?_⟩
    · rw [hfinished hg]
      exact Or.inr ⟨input, rfl⟩
    · by_cases hg : c.gameId = gameId
      · rw [hfinished hg]
        rfl
      · exact find?_pollStep hg input s.db phase

end

/-- **A result stays.**  When the other callbacks of the game are done with the last step of a
terminal one, the row it has stored stays in every run that does not set the game up and
in which no other request writes to it. -/
theorem result_is_final (triggerTime : GameRow → Nat) (time : Nat) (db : Db)
    (before after : List JobEvent) (i : Nat) (c : ScoreCallback) (input : UpdateGameScoreInput)
    (phase : PollPhase) (hi : (run (step triggerTime) (start time db) before).callbacks[i]? = some c)
    (hphase : c.phase = .polled input phase) (hp : phase ≠ .updateInProgressGame)
    (hp' : phase ≠ .finished)
    (hlast : (pollStep c.gameId input (run (step triggerTime) (start time db) before).db phase).2 =
      .finished)
    (htrigger : ∀ job ∈ (run (step triggerTime) (start time db) before).jobs, job.isActive = true →
      ∀ game, job.task = .trigger game → game.id ≠ c.gameId)
    (hothers : ∀ j c', (run (step triggerTime) (start time db) before).callbacks[j]? = some c' →
      j ≠ i → c'.gameId = c.gameId → c'.Ended)
    (hafter : Guarded (step triggerTime) (LeavesRow c.gameId)
      (run (step triggerTime) (start time db) (before ++ [.advance i])) after) :
    Always (step triggerTime)
      (fun s => s.db.games.find? c.gameId =
        (run (step triggerTime) (start time db) (before ++ [.advance i])).db.games.find? c.gameId)
      (run (step triggerTime) (start time db) (before ++ [.advance i])) after := by
  have hc := reachable_consistent triggerTime time db before
  rw [run_append] at hafter ⊢
  generalize run (step triggerTime) (start time db) before = s at *
  have hover : Settled (s.advance i) c.gameId := by
    refine ⟨unwatched_of_last hc hi hphase hp hp' hlast htrigger, ?_⟩
    obtain ⟨jobs, cronJobs, hd⟩ := deleteExisting_eq
      (s.record i input (pollStep c.gameId input s.db phase)) (CronTask.score c.gameId).jobName
    rw [advance_last hi hphase hp hp' hlast, hd]
    intro c' hmem hg
    obtain ⟨j, hj⟩ := List.getElem?_of_mem hmem
    obtain ⟨old, hold, rfl⟩ := getElem?_setPhase.1 hj
    by_cases hji : j = i
    · rw [if_pos hji, hlast]
      exact Or.inr ⟨input, rfl⟩
    · rw [if_neg hji] at hg ⊢
      exact hothers j old hold hji hg
  refine (always_of_guarded (C := LeavesRow c.gameId)
    (I := fun s' => Settled s' c.gameId ∧ s'.db.games.find? c.gameId =
      (s.advance i).db.games.find? c.gameId) (fun s' e h he => ?_) ⟨hover, rfl⟩ hafter).imp
    fun s' h => h.2
  have hnext : Settled (s'.step triggerTime e) c.gameId ∧
      (s'.step triggerTime e).db.games.find? c.gameId = s'.db.games.find? c.gameId := h.1.step he
  obtain ⟨hsettled, hrow⟩ := hnext
  exact ⟨hsettled, hrow.trans h.2⟩

theorem result_is_final_lastPoll :
    (run (step fun _ => 0) (start 1 (leagueDb.insertGame wonGame))
        (lastPoll ++ [.advance 0] ++ [.elapse 60000, .tick 1])).db.games.find? wonGame.id =
      (run (step fun _ => 0) (start 1 (leagueDb.insertGame wonGame))
        (lastPoll ++ [.advance 0])).db.games.find? wonGame.id := by
  have hjobs : (run (step fun _ => 0) (start 1 (leagueDb.insertGame wonGame)) lastPoll).jobs =
      [⟨.crawling, true⟩, ⟨.score wonGame.id, false⟩] := by decide
  have hcallbacks : (run (step fun _ => 0) (start 1 (leagueDb.insertGame wonGame))
        lastPoll).callbacks.length = 1 := by decide
  have h := result_is_final (fun _ => 0) 1 (leagueDb.insertGame wonGame) lastPoll
    [.elapse 60000, .tick 1] 0
    ⟨1, wonGame.id, .polled ⟨some 5, some 3, some finished⟩ .getByGameId⟩
    ⟨some 5, some 3, some finished⟩ .getByGameId (by decide) rfl (by decide) (by decide)
    (by decide) (by rw [hjobs]; simp)
    (fun j c' hj hne _ => by have := (List.getElem?_eq_some_iff.1 hj).1; omega)
    ⟨⟨trivial, fun db he => by cases he⟩, ⟨trivial, fun db he => by cases he⟩, trivial⟩
  rw [run_append]
  exact h.last

end GameJobs

end VictoryFairy
