import VictoryFairy.Model.Application
import VictoryFairy.Model.GameQuery

/-!
# The calendar

What a user sees of the own registrations: a month's list, a single one, and the games of a
day with those marked that are registered.  The tables are read, and nothing is kept.

PostgreSQL sorts games of one day in any order; here they keep the order of the table.  Years
have four digits and months are 1 to 12, which `moment` parses as they are.
-/

namespace VictoryFairy

/-! ## Dates -/

/-- The order of a `date` column. -/
def Date.le (a b : Date) : Bool :=
  a.year < b.year || (a.year = b.year && (a.month < b.month || (a.month = b.month && a.day ≤ b.day)))

def isLeapYear (year : Nat) : Bool := year % 4 = 0 && (year % 100 ≠ 0 || year % 400 = 0)

def daysInMonth (year month : Nat) : Nat :=
  if month = 2 then if isLeapYear year then 29 else 28
  else if month = 4 || month = 6 || month = 9 || month = 11 then 30
  else 31

/-- A day of the calendar; a `date` column holds no others. -/
structure Date.Valid (d : Date) : Prop where
  month : 1 ≤ d.month ∧ d.month ≤ 12
  day : 1 ≤ d.day ∧ d.day ≤ daysInMonth d.year d.month

/-- `moment.tz(..).startOf('day')` of the first of the month. -/
def startDate (year month : Nat) : Date := ⟨year, month, 1⟩

/-- `moment.tz(..).endOf('month')` -/
def endDate (year month : Nat) : Date := ⟨year, month, daysInMonth year month⟩

/-- `BETWEEN` -/
def Date.between (d lo hi : Date) : Bool := lo.le d && d.le hi

/-! ## Responses -/

/-- A relation without a row is `null`. -/
structure GameResDto where
  id : String
  date : Date
  time : String
  status : String
  gameType : Nat
  homeTeam : Option Team
  awayTeam : Option Team
  stadium : Option Stadium
  homeTeamScore : Option Int
  awayTeamScore : Option Int
  winningTeam : Option Team
deriving DecidableEq, Repr

def toGameResDto (db : Db) (game : GameRow) : GameResDto where
  id := game.id
  date := game.date
  time := game.time
  status := game.status
  gameType := getGameType game.id
  homeTeam := db.teams.find? game.homeTeam
  awayTeam := db.teams.find? game.awayTeam
  stadium := db.stadiums.find? game.stadium
  homeTeamScore := game.homeTeamScore
  awayTeamScore := game.awayTeamScore
  winningTeam := game.winningTeam.bind db.teams.find?

/-- `RegisteredGameWithGameResponseDto` with its game. -/
structure RegisteredGameEntry where
  id : Nat
  image : Option String
  seat : String
  review : String
  status : Option RegisteredGameStatus
  game : Option GameResDto
  cheeringTeam : Option Team
deriving DecidableEq, Repr

def toEntry (db : Db) (r : RegisteredGame) : RegisteredGameEntry where
  id := r.id
  image := r.image
  seat := r.seat
  review := r.review
  status := r.status
  game := (db.games.find? r.game).map (toGameResDto db)
  cheeringTeam := db.teams.find? r.cheeringTeam

/-! ## `RegisteredGameApplicationQueryService` -/

/-- The registration with its game, if it is the user's and in the month. -/
def inMonth (db : Db) (year month userId : Nat) (r : RegisteredGame) :
    Option (RegisteredGame × GameRow) :=
  match db.games.find? r.game with
  | none => none
  | some game =>
    if r.user = userId ∧ game.date.between (startDate year month) (endDate year month) then
      some (r, game)
    else none

/-- `order: { game: { date: 'DESC' } }` -/
def newestFirst (a b : RegisteredGame × GameRow) : Bool := b.2.date.le a.2.date

def getAllMonthly (db : Db) (year month userId : Nat) : List RegisteredGameEntry :=
  let registeredGames := (db.registeredGames.rows.filterMap (inMonth db year month userId)).mergeSort
    newestFirst
  registeredGames.map fun p => toEntry db p.1

def getOne (db : Db) (id userId : Nat) : Except AppError RegisteredGameEntry :=
  match db.registeredGames.find? id with
  | none => .error (.http 404 "Registered game not found")
  | some r =>
    if r.user = userId then .ok (toEntry db r)
    else .error (.http 404 "Registered game not found")

/-! ## `GameApplicationQueryService` -/

structure GameDailyResDto where
  games : List (String × List GameResDto)
  registeredGameIds : List String
deriving DecidableEq, Repr

def getDailyGamesWithUserRegistration (db : Db) (date : Date) (userId : Nat) : GameDailyResDto :=
  let result := db.games.rows.filter fun game => game.date = date
  { games := groupGamesByTeam GameResDto.id (result.map (toGameResDto db))
    registeredGameIds := (result.filter fun game =>
      db.registeredGames.rows.any fun r => r.game = game.id && r.user = userId).map GameRow.id }

end VictoryFairy
