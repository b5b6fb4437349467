import VictoryFairy.Model.Hooks
import VictoryFairy.Model.ScoreJob
import VictoryFairy.Model.Schedule

/-!
# A season

Requests, polls and crawls, one after the other, from tables without games.  Two of the
three write games, and the other one writes registrations.

    Follows db = every registration has the result of its game's row
-/

namespace VictoryFairy

inductive SeasonEvent where
  | request (userId : Nat) (r : RegistrationRequest)
  | poll (gameId : String) (currentStatus : UpdateGameScoreInput)
  | crawl (ids : Sequences) (year : Nat) (rows : Option (List (List String)))
deriving DecidableEq, Repr

/-- The database after an operation; a rejected request leaves it. -/
def Season.step (formats : Formats) (db : Db) : SeasonEvent → Db
  | .request userId r =>
    match r.commit userId db with
    | .error _ => db
    | .ok (db, _) => db
  | .poll gameId currentStatus =>
    (scoreJobCallback gameId { db, running := true, registered := true } currentStatus).db
  | .crawl ids year rows => upsertSchedules formats db ids year rows

/-- The tables before the first crawl. -/
def Db.beforeSeason (db : Db) : Db :=
  { db with games := .empty, registeredGames := .empty }

/-- Every registration has the result of its game, `null` exactly while it is undecided. -/
def Follows (db : Db) : Prop :=
  ∀ r ∈ db.registeredGames.rows, ∃ row, db.games.find? r.game = some row ∧
    r.status = row.resultOf r.cheeringTeam ∧ (r.status = none ↔ isDecided row.status = false)

end VictoryFairy
