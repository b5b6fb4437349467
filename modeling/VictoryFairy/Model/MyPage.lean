import Mathlib.Data.Rat.Floor
import VictoryFairy.Model.Redis

/-!
# Scores as the clients see them

Redis and the SQL driver hand numbers over as text: `toDisplayScore` parses the stored
score, `getUserMyPageInfo` the sums of a user's rank rows.  `NaN` is `none`.

`getUserVersusTeamStats` counts the registrations of a user once more, by opponent.
-/

namespace VictoryFairy

/-! ## `parseInt(text, 10)` -/

/-- The number of the leading digits. -/
def parseDigits (cs : List Char) : Option Nat :=
  let digits := cs.takeWhile Char.isDigit
  if digits = [] then none else some (Nat.ofDigitChars 10 digits 0)

def parseDecimal (text : String) : Option Int :=
  match text.toList.dropWhile isJsSpace with
  | '-' :: cs => (parseDigits cs).map fun n => -Int.ofNat n
  | '+' :: cs => (parseDigits cs).map Int.ofNat
  | cs => (parseDigits cs).map Int.ofNat

/-- `toDisplayScore` of the text Redis returns. -/
def RankScoreVo.displayScoreOfText (storedScore : String) : Option Int :=
  (parseDecimal storedScore).map toDisplayScore

/-! ## `rankScoreWithDecimal` -/

def DEFAULT_SCORE : Rat := 1000
def SCORE_MULTIPLIER : Rat := 10

def rankScoreWithDecimal (win lose tie cancel : Int) : Rat :=
  DEFAULT_SCORE + (win - lose) * SCORE_MULTIPLIER + (win + lose + tie + cancel) / 1000

/-! ## `getUserMyPageInfo` -/

structure UserMeResDto where
  id : Nat
  email : String
  nickname : String
  image : String
  provider : List String
  primaryProvider : Option String
deriving DecidableEq, Repr

def UserMeResDto.ofUser (user : User) (socialAuths : List SocialAuth) : UserMeResDto where
  id := user.id
  email := user.email
  nickname := user.nickname
  image := user.profileImage
  provider := socialAuths.map SocialAuth.provider
  primaryProvider := ((socialAuths.find? (·.isPrimary)).map SocialAuth.provider).filter (· ≠ "")

structure RankRecordResDto where
  win : Option Int
  lose : Option Int
  tie : Option Int
  cancel : Option Int
  total : Option Int
  score : Option Int
deriving DecidableEq, Repr

structure UserMyPageDto where
  user : UserMeResDto
  record : RankRecordResDto
deriving DecidableEq, Repr

/-- The sum of a column in the joined row of `GROUP BY user_id`; a user without rows has no
such row. -/
def rankStat (db : Db) (userId : Nat) (column : RankColumn) : Option String :=
  let rows := db.ranks.rows.filter fun r => r.user = userId
  if rows.isEmpty then none else some (toString (rows.map fun r => r.get column).sum)

def getUserMyPageInfo (db : Db) (userId : Nat) : Except AppError UserMyPageDto :=
  match db.users.find? userId with
  | none => .error (.http 404 "존재하지 않는 유저입니다.")
  | some user =>
    let count (column : RankColumn) : Option Int :=
      parseDecimal (((rankStat db userId column).filter (· ≠ "")).getD "0")
    let (win, lose, tie, cancel) := (count .win, count .lose, count .tie, count .cancel)
    .ok
      { user := .ofUser user (db.socialAuths.rows.filter fun a => a.userId = userId)
        record :=
          { win, lose, tie, cancel
            total := do return (← win) + (← lose) + (← tie) + (← cancel)
            score := do
              return ⌊rankScoreWithDecimal (← win) (← lose) (← tie) (← cancel)⌋ } }

/-! ## `getUserVersusTeamStats` -/

/-- A row of the query. -/
structure VersusGame where
  winId : Option Nat
  homeId : Nat
  awayId : Nat
  status : Option RegisteredGameStatus
  supId : Nat
deriving DecidableEq, Repr

structure OppTeamResDto where
  total : Nat
  win : Nat
deriving DecidableEq, Repr

structure OverallOppTeamResDto where
  totalWin : Nat
  homeWin : Nat
  /-- by the id of the other team -/
  oppTeam : Table (Prod.fst : Nat × OppTeamResDto → Nat)

/-- The `INNER JOIN`s with the game and the cheering team. -/
def versusGame (db : Db) (r : RegisteredGame) : Option VersusGame := do
  let game ← db.games.find? r.game
  let cheeringTeam ← db.teams.find? r.cheeringTeam
  return { winId := game.winningTeam, homeId := game.homeTeam, awayId := game.awayTeam,
           status := r.status, supId := cheeringTeam.id }

def versusGames (db : Db) (userId : Nat) : List VersusGame :=
  (db.registeredGames.rows.filter fun r => r.user = userId).filterMap (versusGame db)

namespace OverallOppTeamResDto

/-- The counters of a team; a new one starts with zeros. -/
def opp (stats : OverallOppTeamResDto) (oppId : Nat) : OppTeamResDto :=
  ((stats.oppTeam.find? oppId).map Prod.snd).getD ⟨0, 0⟩

/-- The body of the loop. -/
def countGame (stats : OverallOppTeamResDto) (game : VersusGame) : OverallOppTeamResDto :=
  if game.status = some .noGame then stats
  else
    let isHomeGame := game.homeId = game.supId
    let oppId := if isHomeGame then game.awayId else game.homeId
    let isWin := game.status = some .win
    { totalWin := if isWin then stats.totalWin + 1 else stats.totalWin
      homeWin := if isWin ∧ isHomeGame then stats.homeWin + 1 else stats.homeWin
      oppTeam := stats.oppTeam.save
        (oppId, ⟨(stats.opp oppId).total + 1,
          if isWin then (stats.opp oppId).win + 1 else (stats.opp oppId).win⟩) }

end OverallOppTeamResDto

def getUserVersusTeamStats (db : Db) (userId : Nat) : OverallOppTeamResDto :=
  (versusGames db userId).foldl OverallOppTeamResDto.countGame ⟨0, 0, .empty⟩

end VictoryFairy
