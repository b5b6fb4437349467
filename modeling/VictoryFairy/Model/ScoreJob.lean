import VictoryFairy.Model.Application

/-!
# The score job

`createGameScoreJobForOneMinute` polls one game; the callback of a terminal poll
stops the job, writes the final result and settles the registrations that were
made before it (`batchBulkGameResultUpdateByGameId`).
-/

namespace VictoryFairy

/-! ## `batchBulkGameResultUpdateByGameId` -/

def RegisteredGame.determineStatus (r : RegisteredGame) (status : String)
    (winnerTeamId : Option Nat) : RegisteredGame :=
  { r with status := VictoryFairy.determineStatus status winnerTeamId r.cheeringTeam }

/-- An element of the array `repository.save` is given. -/
inductive SaveElement where
  /-- an entity, whose properties are the columns of its row -/
  | entity (r : RegisteredGame)
  /-- `{ registeredGame }`: no property names a column, so the row to insert has defaults only -/
  | wrapped (registeredGame : RegisteredGame)
deriving DecidableEq, Repr

/-- `seat` and `review` are `NOT NULL` without a default. -/
def saveElement (db : Db) : SaveElement → Except AppError Db
  | .entity r => db.saveRegisteredGame r
  | .wrapped _ => .error (.db .notNullViolation)

def saveBulk (db : Db) (data : List SaveElement) : Except AppError Db :=
  data.foldlM saveElement db

/-- The transaction body: the database it commits and the elements its hook goes through. -/
def settleRegistrations (db : Db) (gameId : String) : Except AppError (Db × List SaveElement) := do
  let game ← getOneGame db gameId
  let registeredGames := getPendingByGameId db gameId
  if registeredGames = [] then return (db, [])
  else
    let registeredGameUpdates := registeredGames.map fun registeredGame =>
      SaveElement.wrapped (registeredGame.determineStatus game.status (orNull game.winningTeam))
    let db ← saveBulk db registeredGameUpdates
    return (db, registeredGameUpdates)

/-- Errors are caught and logged. -/
def batchBulkGameResultUpdateByGameId (db : Db) (gameId : String) : Db :=
  match settleRegistrations db gameId with
  | .error _ => db
  | .ok (db, _) => db

/-! ## The callback -/

/-- `/.*취소$/` or `경기종료`; `null` is neither. -/
def isTerminal (status : Option String) : Bool :=
  status.any fun s => s == finished || isCanceled s

/-- The database and the job of one game: whether it still fires, and whether it is in
the scheduler's registry. -/
structure ScoreJob where
  db : Db
  running : Bool
  registered : Bool

/-- A throw of the final update skips the settlement; the job is deleted anyway. -/
def scoreJobCallback (gameId : String) (job : ScoreJob) (currentStatus : UpdateGameScoreInput) :
    ScoreJob :=
  let db := updateInProgressGame job.db gameId currentStatus
  if isTerminal currentStatus.status then
    match updateFinishedMatch db gameId currentStatus with
    | .error _ => { db, running := false, registered := false }
    | .ok db =>
      { db := batchBulkGameResultUpdateByGameId db gameId, running := false, registered := false }
  else { job with db }

end VictoryFairy
