import VictoryFairy.Model.RegisterRace

/-!
# The cron jobs of the games

`GameApplicationCrawlingService` keeps up to two jobs for a game in the
`SchedulerRegistry`: a trigger that waits for its start, and a score job that polls every
minute.  A job is known by its place among the jobs made so far, the registry maps names
to jobs.  The callback of a poll lasts longer than its minute, so callbacks of the same
game overlap.

No timer fires between the `await` of an `async` function that awaits nothing and what
follows it: `setupTriggerForGameScoreCrawlingJob` and the callback of a trigger are one
step each.

`start()` of a job with a date throws in the cron package when its date has passed.  The
service has just compared the date with the clock, and here a date does not pass in between.
-/

namespace VictoryFairy

/-! ## Jobs and their names -/

namespace SCHEDULER_NAME

def CRAWLING_JOB_1AM : String := "crawling-job-1am"
def GAME_TRIGGER : String := "game-trigger"
def UPDATE_GAME_SCORE : String := "update-game-score"

end SCHEDULER_NAME

/-- What a job does: the crawl at 1 am, the start of a game's polling, one poll. -/
inductive CronTask where
  | crawling
  | trigger (game : GameRow)
  | score (gameId : String)
deriving DecidableEq, Repr

namespace CronTask

def jobName : CronTask → String
  | .crawling => SCHEDULER_NAME.CRAWLING_JOB_1AM
  | .trigger game => SCHEDULER_NAME.GAME_TRIGGER ++ "-" ++ game.id
  | .score gameId => SCHEDULER_NAME.UPDATE_GAME_SCORE ++ "-" ++ gameId

def gameId : CronTask → Option String
  | .crawling => none
  | .trigger game => some game.id
  | .score gameId => some gameId

end CronTask

structure CronJob where
  task : CronTask
  isActive : Bool
deriving DecidableEq, Repr

/-- Before the answer of the crawl, after it, or rejected with it. -/
inductive CallbackPhase where
  | asked
  | polled (currentStatus : UpdateGameScoreInput) (phase : PollPhase)
  | rejected
deriving DecidableEq, Repr

/-- A call of the function that `createGameScoreJobForOneMinute` gives its job. -/
structure ScoreCallback where
  intervalJob : Nat
  gameId : String
  phase : CallbackPhase
deriving DecidableEq, Repr

structure GameJobs where
  time : Nat
  db : Db
  jobs : List CronJob
  cronJobs : String → Option Nat
  callbacks : List ScoreCallback
  /-- what `addCronJob` has thrown so far -/
  thrown : List String

namespace GameJobs

/-! ## `SchedulerRegistry` -/

def doesExist (s : GameJobs) (name : String) : Bool := (s.cronJobs name).isSome

def setActive (s : GameJobs) (job : Nat) (isActive : Bool) : GameJobs :=
  { s with jobs := s.jobs.modify job fun j => { j with isActive } }

/-- Stops the job and forgets its name. -/
def deleteCronJob (s : GameJobs) (name : String) : GameJobs :=
  match s.cronJobs name with
  | none => s
  | some job =>
    { s.setActive job false with cronJobs := Function.update s.cronJobs name none }

def addCronJob (s : GameJobs) (name : String) (job : Nat) : Except String GameJobs :=
  if s.doesExist name then
    .error ("Cron Job with the given name (" ++ name ++ ") already exists. Creation aborted.")
  else .ok { s with cronJobs := Function.update s.cronJobs name (some job) }

/-- `new CronJob(.., start)`; the job is the last one. -/
def newCronJob (s : GameJobs) (task : CronTask) (start : Bool) : GameJobs :=
  { s with jobs := s.jobs ++ [⟨task, start⟩] }

/-! ## `GameApplicationCrawlingService` -/

def deleteExistingCronJob (s : GameJobs) (jobName : String) : GameJobs :=
  if s.doesExist jobName then s.deleteCronJob jobName else s

/-- Registers the job made last under the name of its task and starts it. -/
def register (s : GameJobs) (task : CronTask) : GameJobs × Except String Unit :=
  let job := s.jobs.length - 1
  match s.addCronJob task.jobName job with
  | .error e => (s, .error e)
  | .ok s => (s.setActive job true, .ok ())

/-- A score job starts when it is made. -/
def handleGameTriggerJob (s : GameJobs) (gameId : String) : GameJobs × Except String Unit :=
  let s := s.deleteExistingCronJob (CronTask.score gameId).jobName
  (s.newCronJob (.score gameId) true).register (.score gameId)

section

-- `moment.tz(tzDate, 'Asia/Seoul')` of the date and the time of a game
variable (triggerTime : GameRow → Nat)

def setupTrigger (s : GameJobs) (game : GameRow) : GameJobs × Except String Unit :=
  let s := s.deleteExistingCronJob (CronTask.trigger game).jobName
  if triggerTime game < s.time then s.handleGameTriggerJob game.id
  else (s.newCronJob (.trigger game) false).register (.trigger game)

def setupTriggerForGameScoreCrawlingJob (s : GameJobs) :
    List GameRow → GameJobs × Except String Unit
  | [] => (s, .ok ())
  | game :: games =>
    match s.setupTrigger triggerTime game with
    | (s, .error e) => (s, .error e)
    | (s, .ok ()) => s.setupTriggerForGameScoreCrawlingJob games

/-- The callback of a trigger. -/
def runTrigger (s : GameJobs) (game : GameRow) : GameJobs × Except String Unit :=
  match s.handleGameTriggerJob game.id with
  | (s, .error e) => (s, .error e)
  | (s, .ok ()) => (s.deleteExistingCronJob (CronTask.trigger game).jobName, .ok ())

/-- A rejection is recorded. -/
def settle (result : GameJobs × Except String Unit) : GameJobs :=
  match result with
  | (s, .error e) => { s with thrown := s.thrown ++ [e] }
  | (s, .ok ()) => s

/-! ## Timers and callbacks -/

/-- A job whose time is a date fires once, not before that date. -/
def fire (s : GameJobs) (job : Nat) : GameJobs :=
  match s.jobs[job]? with
  | some ⟨.trigger game, true⟩ =>
    if triggerTime game ≤ s.time then settle ((s.setActive job false).runTrigger game) else s
  | _ => s

/-- `EVERY_MINUTE` of a job that is active. -/
def tick (s : GameJobs) (job : Nat) : GameJobs :=
  match s.jobs[job]? with
  | some ⟨.score gameId, true⟩ =>
    { s with callbacks := s.callbacks ++ [⟨job, gameId, .asked⟩] }
  | _ => s

def setPhase (s : GameJobs) (i : Nat) (phase : CallbackPhase) : GameJobs :=
  { s with callbacks := s.callbacks.modify i fun c => { c with phase } }

/-- The answer of `getCurrentGameStatus`, `none` when it rejects. -/
def answer (s : GameJobs) (i : Nat) (currentStatus : Option UpdateGameScoreInput) : GameJobs :=
  match s.callbacks[i]? with
  | some ⟨_, _, .asked⟩ =>
    s.setPhase i (currentStatus.elim .rejected fun input => .polled input .updateInProgressGame)
  | _ => s

/-- What the callback does to the jobs after a step in the database: it stops its own job
when the poll was terminal, and in the end deletes the job of that name. -/
def afterStep (s : GameJobs) (c : ScoreCallback) (input : UpdateGameScoreInput)
    (phase next : PollPhase) : GameJobs :=
  match phase with
  | .updateInProgressGame =>
    if isTerminal input.status then s.setActive c.intervalJob false else s
  | .finished => s
  | .updateFinishedMatch | .getByGameId | .saveBulk _ =>
    if next = .finished then s.deleteExistingCronJob (CronTask.score c.gameId).jobName else s

/-- What the step of a callback has written, and the phase it leads to. -/
def record (s : GameJobs) (i : Nat) (input : UpdateGameScoreInput) (next : Db × PollPhase) :
    GameJobs :=
  { s with db := next.1 }.setPhase i (.polled input next.2)

def advance (s : GameJobs) (i : Nat) : GameJobs :=
  match s.callbacks[i]? with
  | some ⟨intervalJob, gameId, .polled input phase⟩ =>
    let next := pollStep gameId input s.db phase
    (s.record i input next).afterStep ⟨intervalJob, gameId, .polled input phase⟩ input phase next.2
  | _ => s

end

end GameJobs

inductive JobEvent where
  | elapse (ms : Nat)
  | setup (games : List GameRow)
  | fire (job : Nat)
  | tick (job : Nat)
  | answer (i : Nat) (currentStatus : Option UpdateGameScoreInput)
  | advance (i : Nat)
  /-- other requests work on the database -/
  | write (db : Db)

namespace GameJobs

/-- The crawl at 1 am is the only job when the application starts. -/
def start (time : Nat) (db : Db) : GameJobs where
  time := time
  db := db
  jobs := [⟨.crawling, true⟩]
  cronJobs := Function.update (fun _ => none) CronTask.crawling.jobName (some 0)
  callbacks := []
  thrown := []

def step (triggerTime : GameRow → Nat) (s : GameJobs) : JobEvent → GameJobs
  | .elapse ms => { s with time := s.time + ms }
  | .setup games => settle (s.setupTriggerForGameScoreCrawlingJob triggerTime games)
  | .fire job => s.fire triggerTime job
  | .tick job => s.tick job
  | .answer i currentStatus => s.answer i currentStatus
  | .advance i => s.advance i
  | .write db => { s with db }

end GameJobs

end VictoryFairy
