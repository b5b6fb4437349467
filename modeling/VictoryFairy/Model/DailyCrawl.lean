import VictoryFairy.Model.GameJobs
import VictoryFairy.Model.Schedule

/-!
# The daily crawl

`GameCronScheduler` crawls the schedule of this month and of the next one, at 1 am and when
the application starts, and then sets up the games of the day.  Polls, timers and other
requests come between its `await`s, and so does another crawl.

A crawl that fails is logged by `upsertSchedules`, which never throws.
-/

namespace VictoryFairy

/-- `nextYear` and `nextMonth` -/
def getNextMonth (year month : Nat) : Nat × Nat :=
  if month + 1 > 12 then (year + 1, 1) else (year, month + 1)

/-- The rows of the first answer or of the retry, `none` when both requests fail. -/
def tryFetchSchedule (response retry : Option (List (List String))) :
    Option (List (List String)) :=
  match response with
  | some rows => some rows
  | none => retry

def findGamesByDate (db : Db) (date : Date) : List GameRow :=
  db.games.rows.filter fun game => game.date = date

/-- What `setupThisAndNextMonthGameDataAndTodayGameTrigger` is about to do. -/
inductive DailyPhase where
  | thisMonth
  | nextMonth
  | findGames
  | setup (todayGames : List GameRow)
  | done
  | rejected
deriving DecidableEq, Repr

structure DailyRun where
  todayDate : Date
  phase : DailyPhase
deriving DecidableEq, Repr

/-- The jobs of the games, and the calls of the daily method so far. -/
structure DailyCrawls where
  jobs : GameJobs
  runs : List DailyRun

inductive DailyEvent where
  /-- timers, polls and other requests -/
  | job (e : JobEvent)
  /-- 1 am, or the start of the application -/
  | begin
  /-- the answer of the schedule page, and of the retry -/
  | crawl (i : Nat) (ids : Sequences) (response retry : Option (List (List String)))
  /-- the query, or what follows its answer -/
  | resume (i : Nat)
  /-- the query fails -/
  | reject (i : Nat)

namespace DailyCrawls

def start (time : Nat) (db : Db) : DailyCrawls := ⟨GameJobs.start time db, []⟩

def setRun (s : DailyCrawls) (i : Nat) (phase : DailyPhase) : DailyCrawls :=
  { s with runs := s.runs.modify i fun r => { r with phase } }

section

-- `moment().tz('Asia/Seoul').format('YYYY-MM-DD')` of a time is `getTodayDate`
variable (formats : Formats) (triggerTime : GameRow → Nat) (getTodayDate : Nat → Date)

/-- `upsertSchedules` of the rows that were fetched. -/
def upsert (s : DailyCrawls) (ids : Sequences) (year : Nat)
    (rows : Option (List (List String))) : DailyCrawls :=
  { s with jobs := { s.jobs with db := upsertSchedules formats s.jobs.db ids year rows } }

def crawl (s : DailyCrawls) (i : Nat) (ids : Sequences)
    (response retry : Option (List (List String))) : DailyCrawls :=
  let rows := tryFetchSchedule response retry
  match s.runs[i]? with
  | some ⟨date, .thisMonth⟩ => (s.upsert formats ids date.year rows).setRun i .nextMonth
  | some ⟨date, .nextMonth⟩ =>
    (s.upsert formats ids (getNextMonth date.year date.month).1 rows).setRun i .findGames
  | _ => s

def resume (s : DailyCrawls) (i : Nat) : DailyCrawls :=
  match s.runs[i]? with
  | some ⟨date, .findGames⟩ => s.setRun i (.setup (findGamesByDate s.jobs.db date))
  | some ⟨_, .setup games⟩ =>
    { s with jobs := s.jobs.step triggerTime (.setup games) }.setRun i .done
  | _ => s

def reject (s : DailyCrawls) (i : Nat) : DailyCrawls :=
  match s.runs[i]? with
  | some ⟨_, .findGames⟩ => s.setRun i .rejected
  | _ => s

/-- Only the daily method sets games up. -/
def next (s : DailyCrawls) : DailyEvent → DailyCrawls
  | .job (.setup _) => s
  | .job e => { s with jobs := s.jobs.step triggerTime e }
  | .begin => { s with runs := s.runs ++ [⟨getTodayDate s.jobs.time, .thisMonth⟩] }
  | .crawl i ids response retry => s.crawl formats i ids response retry
  | .resume i => s.resume triggerTime i
  | .reject i => s.reject i

end

end DailyCrawls

end VictoryFairy
