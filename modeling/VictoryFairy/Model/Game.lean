import VictoryFairy.Model.Errors

/-!
# The `Game` entity

`Game` is the entity in memory: `status` and `winningTeam` may be `undefined`
(outer `none`), which `create` leaves them when nothing assigned them.
`GameRow` is the stored row.  TypeORM writes an entity over a row column by
column and leaves alone the columns whose property is `undefined`
(`Game.overwrite`).

    winnerOf row = the team with the higher score of a finished game, else none
    WinnerConsistent row : row.winningTeam = winnerOf row
-/

namespace VictoryFairy

/-- A calendar day, the value of a `date` column. -/
structure Date where
  year : Nat
  month : Nat
  day : Nat
deriving DecidableEq, Repr

/-- `new Date(game.date).getFullYear()`: the string is read as midnight UTC and
the server's zone (Asia/Seoul) is east of it, so the year is that of the day. -/
def Date.getFullYear (d : Date) : Nat := d.year

def finished : String := "경기종료"
def preGame : String := "경기전"

/-- `/.*취소$/.test(status)` -/
def isCanceled (status : String) : Bool := "취소".toList.isSuffixOf status.toList

structure Game where
  id : String
  date : Date
  time : String
  status : Option String
  homeTeamScore : Option Int
  awayTeamScore : Option Int
  homeTeam : Nat
  awayTeam : Nat
  winningTeam : Option (Option Nat)
  stadium : Nat
deriving DecidableEq, Repr

structure GameRow where
  id : String
  date : Date
  time : String
  status : String
  homeTeamScore : Option Int
  awayTeamScore : Option Int
  homeTeam : Nat
  awayTeam : Nat
  winningTeam : Option Nat
  stadium : Nat
deriving DecidableEq, Repr

/-- `UpdateGameScoreInput` -/
structure UpdateGameScoreInput where
  homeScore : Option Int
  awayScore : Option Int
  status : Option String
deriving DecidableEq, Repr

namespace Game

def updateStatus (g : Game) (status : Option String) : Game :=
  match status with
  | none => g
  | some s => if s = "" ∨ some s = g.status then g else { g with status := some s }

def updateScore (g : Game) (homeScore awayScore : Option Int) : Game :=
  { g with homeTeamScore := homeScore, awayTeamScore := awayScore }

def determineWinner (g : Game) : Game :=
  if g.status ≠ some finished then g
  else
    match g.homeTeamScore, g.awayTeamScore with
    | some h, some a =>
      if h ≠ a then { g with winningTeam := some (some (if a < h then g.homeTeam else g.awayTeam)) }
      else { g with winningTeam := some none }
    | _, _ => { g with winningTeam := some none }

/-- `Boolean(this.winning_team)` -/
def hasWinner (g : Game) : Bool := (g.winningTeam.getD none).isSome

def validateDomain (g : Game) : Except AppError Unit :=
  if g.homeTeam = g.awayTeam then .error (.game .sameHomeAwayTeam)
  else if g.status = some preGame ∧ g.hasWinner then .error (.game (.invalidPreGameWinner g.id))
  else if g.status = some finished ∧ g.homeTeamScore ≠ none ∧ g.awayTeamScore ≠ none ∧
      g.homeTeamScore ≠ g.awayTeamScore ∧ ¬ g.hasWinner then
    .error (.game .invalidFinishedGameNoWinner)
  else if g.status = some finished ∧ g.homeTeamScore = none ∧ g.awayTeamScore = none ∧
      g.homeTeamScore = g.awayTeamScore ∧ g.hasWinner then
    .error (.game .invalidFinishedGameHasWinner)
  else .ok ()

/-- The argument of `Game.create`; team and stadium objects are their ids. -/
structure CreateProps where
  id : String
  date : Date
  time : String
  status : String
  homeTeamScore : Option Int
  awayTeamScore : Option Int
  homeTeam : Nat
  awayTeam : Nat
  stadium : Nat
deriving DecidableEq, Repr

/-- `new Game()` with the properties `create` assigns directly. -/
def ofProps (props : CreateProps) : Game :=
  { id := props.id, date := props.date, time := props.time, status := none,
    homeTeamScore := none, awayTeamScore := none, homeTeam := props.homeTeam,
    awayTeam := props.awayTeam, winningTeam := none, stadium := props.stadium }

def create (props : CreateProps) : Except AppError Game :=
  let game := (((ofProps props).updateStatus (some props.status)).updateScore props.homeTeamScore
    props.awayTeamScore).determineWinner
  match game.validateDomain with
  | .ok () => .ok game
  | .error e => .error e

def updateFinishedMatch (g : Game) (status : Option String) (homeScore awayScore : Option Int) :
    Except AppError Game :=
  let game := ((g.updateStatus status).updateScore homeScore awayScore).determineWinner
  match game.validateDomain with
  | .ok () => .ok game
  | .error e => .error e

def updateInProgressMatch (g : Game) (status : Option String) (homeScore awayScore : Option Int) :
    Game :=
  (g.updateStatus status).updateScore homeScore awayScore

/-- The columns of `g` written over `row`; `undefined` leaves a column alone. -/
def overwrite (g : Game) (row : GameRow) : GameRow where
  id := row.id
  date := g.date
  time := g.time
  status := g.status.getD row.status
  homeTeamScore := g.homeTeamScore
  awayTeamScore := g.awayTeamScore
  homeTeam := g.homeTeam
  awayTeam := g.awayTeam
  winningTeam := g.winningTeam.getD row.winningTeam
  stadium := g.stadium

end Game

namespace GameRow

/-- The columns take the status and the scores. -/
def Fits (status : String) (homeScore awayScore : Option Int) : Prop :=
  IsText status ∧ (∀ n ∈ homeScore, IsInteger n) ∧ ∀ n ∈ awayScore, IsInteger n

instance (status : String) (homeScore awayScore : Option Int) :
    Decidable (Fits status homeScore awayScore) :=
  inferInstanceAs (Decidable (_ ∧ _ ∧ _))

/-- The row a statement writes, if its columns take the values. -/
def written (row : GameRow) : Except AppError GameRow :=
  if ¬ IsText row.status then .error (.db .characterNotInRepertoire)
  else if ¬ Fits row.status row.homeTeamScore row.awayTeamScore then
    .error (.db .numericValueOutOfRange)
  else .ok row

end GameRow

namespace Game

/-- `repository.save` of an entity that was loaded as `row`. -/
def save (g : Game) (row : GameRow) : Except AppError GameRow := (g.overwrite row).written

/-- `INSERT … ON CONFLICT (id) DO UPDATE`.  An `undefined` status is inserted as
`DEFAULT`, which `NOT NULL` rejects before the conflict is looked at. -/
def upsertRow (g : Game) (stored : Option GameRow) : Except AppError GameRow :=
  match g.status with
  | none => .error (.db .notNullViolation)
  | some status =>
    match stored with
    | some row => g.save row
    | none =>
      GameRow.written
        { id := g.id, date := g.date, time := g.time, status,
          homeTeamScore := g.homeTeamScore, awayTeamScore := g.awayTeamScore,
          homeTeam := g.homeTeam, awayTeam := g.awayTeam,
          winningTeam := g.winningTeam.getD none, stadium := g.stadium }

end Game

namespace GameRow

/-- The entity `findOne` builds, its teams loaded. -/
def toGame (row : GameRow) : Game :=
  { id := row.id, date := row.date, time := row.time, status := some row.status,
    homeTeamScore := row.homeTeamScore, awayTeamScore := row.awayTeamScore,
    homeTeam := row.homeTeam, awayTeam := row.awayTeam,
    winningTeam := some row.winningTeam, stadium := row.stadium }

/-- `GameCoreService.updateInProgressGame` on the row it loads and saves; an error of the save
is caught. -/
def updateInProgressGame (row : GameRow) (input : UpdateGameScoreInput) : GameRow :=
  if input.awayScore = none ∨ input.homeScore = none then row
  else
    match (row.toGame.updateInProgressMatch input.status input.homeScore input.awayScore).save row with
    | .ok row => row
    | .error _ => row

/-- `GameCoreService.updateFinishedMatch` on the row it loads and saves. -/
def updateFinishedMatch (row : GameRow) (input : UpdateGameScoreInput) : Except AppError GameRow :=
  if input.awayScore = none ∨ input.homeScore = none then .ok row
  else
    match row.toGame.updateFinishedMatch input.status input.homeScore input.awayScore with
    | .ok game => game.save row
    | .error e => .error e

/-- The row's status after a write of `status`, which is skipped when empty. -/
def nextStatus (row : GameRow) (status : Option String) : String :=
  match status with
  | none => row.status
  | some s => if s = "" then row.status else s

/-! ## The winner a row should have -/

/-- The team with the higher score of a finished game with two different scores. -/
def winnerBy (status : String) (homeScore awayScore : Option Int) (homeTeam awayTeam : Nat) :
    Option Nat :=
  if status = finished then
    match homeScore, awayScore with
    | some h, some a => if h = a then none else some (if a < h then homeTeam else awayTeam)
    | _, _ => none
  else none

def winnerOf (row : GameRow) : Option Nat :=
  winnerBy row.status row.homeTeamScore row.awayTeamScore row.homeTeam row.awayTeam

/-- The stored winner is the one the scores give. -/
def WinnerConsistent (row : GameRow) : Prop := row.winningTeam = row.winnerOf

instance (row : GameRow) : Decidable row.WinnerConsistent :=
  inferInstanceAs (Decidable (_ = _))

end GameRow

/-! ## The writers of a row -/

/-- The writes to the row of one game id; the props' own id is that id. -/
inductive GameWrite where
  | upsert (props : Game.CreateProps)
  | updateInProgressGame (input : UpdateGameScoreInput)
  | updateFinishedMatch (input : UpdateGameScoreInput)
deriving DecidableEq, Repr

/-- One write; a rejected one leaves the row, and the updates of a missing row throw. -/
def GameWrite.apply (id : String) (stored : Option GameRow) : GameWrite → Option GameRow
  | .upsert props =>
    match Game.create { props with id } with
    | .error _ => stored
    | .ok game =>
      match game.upsertRow stored with
      | .error _ => stored
      | .ok row => some row
  | .updateInProgressGame input => stored.map fun row => row.updateInProgressGame input
  | .updateFinishedMatch input =>
    stored.map fun row =>
      match row.updateFinishedMatch input with
      | .error _ => row
      | .ok row => row

/-! ## What each writer leaves -/

namespace Game

@[simp] theorem updateStatus_toGame (row : GameRow) (status : Option String) :
    row.toGame.updateStatus status = { row.toGame with status := some (row.nextStatus status) } := by
  cases status with
  | none => rfl
  | some s =>
    simp only [updateStatus, GameRow.nextStatus, GameRow.toGame, Option.some.injEq]
    by_cases hs : s = ""
    · simp [hs]
    · by_cases he : s = row.status
      · rw [if_pos (Or.inr he), if_neg hs, he]
      · rw [if_neg (by rintro (h | h); exacts [hs h, he h]), if_neg hs]

/-- The winner a `determineWinner` of a game with a status leaves: recomputed when
finished, untouched otherwise. -/
theorem determineWinner_winningTeam (g : Game) (status : String) (h : g.status = some status) :
    g.determineWinner.winningTeam = if status = finished then
      some (GameRow.winnerBy status g.homeTeamScore g.awayTeamScore g.homeTeam g.awayTeam)
    else g.winningTeam := by
  unfold determineWinner
  rw [h]
  by_cases hf : status = finished
  · subst hf
    simp only [ne_eq, not_true_eq_false, if_false, if_true, GameRow.winnerBy]
    cases g.homeTeamScore with
    | none => rfl
    | some x =>
      cases g.awayTeamScore with
      | none => rfl
      | some y => by_cases hxy : x = y <;> simp [hxy]
  · simp [hf]

theorem determineWinner_eq (g : Game) :
    g.determineWinner = { g with winningTeam := g.determineWinner.winningTeam } := by
  unfold determineWinner
  split
  · rfl
  · split
    · split <;> rfl
    · rfl

end Game

end VictoryFairy
