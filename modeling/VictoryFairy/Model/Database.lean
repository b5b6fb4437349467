import Mathlib.Tactic.Simps.Basic
import VictoryFairy.Lib.Table
import VictoryFairy.Model.Rank
import VictoryFairy.Model.User

/-!
# The database

One keyed table for each entity.  The statements the repositories issue are the
functions below; each checks the constraints the migrations declare and rejects
like PostgreSQL does.  `year` reads a registration's year through its game.

    recorded db k c = a counter of the rank row `k`, `0` without a row
    tally db k s    = the registrations of user, team and year `k` with status `s`
-/

namespace VictoryFairy

structure Team where
  id : Nat
  name : String
deriving DecidableEq, Repr

structure Stadium where
  id : Nat
  name : String
  fullName : String
  latitude : Rat
  longitude : Rat
deriving DecidableEq, Repr

structure Term where
  id : String
  isRequired : Bool
deriving DecidableEq, Repr

structure Db where
  teams : Table Team.id
  stadiums : Table Stadium.id
  games : Table GameRow.id
  users : Table User.id
  localAuths : Table LocalAuth.userId
  socialAuths : Table SocialAuth.key
  terms : Table Term.id
  userTerms : Table UserTerm.key
  registeredGames : Table RegisteredGame.id
  ranks : Table Rank.key

namespace Db

def empty : Db where
  teams := .empty
  stadiums := .empty
  games := .empty
  users := .empty
  localAuths := .empty
  socialAuths := .empty
  terms := .empty
  userTerms := .empty
  registeredGames := .empty
  ranks := .empty

@[simps] def withGames (db : Db) (games : Table GameRow.id) : Db := { db with games }

@[simps] def withUsers (db : Db) (users : Table User.id) : Db := { db with users }

@[simps] def withRegisteredGames (db : Db) (registeredGames : Table RegisteredGame.id) : Db :=
  { db with registeredGames }

@[simps] def withRanks (db : Db) (ranks : Table Rank.key) : Db := { db with ranks }

/-! ## Statements -/

/-- `INSERT` of a user: `id`, `email` and `nickname` are unique. -/
def insertUser (db : Db) (user : User) : Except AppError Db :=
  if db.users.rows.any fun u => u.id = user.id || u.email = user.email || u.nickname = user.nickname
  then .error (.db .uniqueViolation)
  else if (db.teams.find? user.supportTeam).isNone then .error (.db .foreignKeyViolation)
  else .ok (db.withUsers (db.users.save user))

/-- `UPDATE` of a loaded user. -/
def saveUser (db : Db) (user : User) : Except AppError Db :=
  if db.users.rows.any fun u =>
      u.id ≠ user.id && (u.email = user.email || u.nickname = user.nickname)
  then .error (.db .uniqueViolation)
  else if (db.teams.find? user.supportTeam).isNone then .error (.db .foreignKeyViolation)
  else .ok (db.withUsers (db.users.save user))

/-- `DELETE` of a user with the cascades of the child tables. -/
def removeUser (db : Db) (userId : Nat) : Db :=
  { db with
    users := db.users.remove userId
    localAuths := db.localAuths.remove userId
    socialAuths := db.socialAuths.reject fun a => a.userId = userId
    userTerms := db.userTerms.reject fun t => t.userId = userId
    registeredGames := db.registeredGames.reject fun r => r.user = userId
    ranks := db.ranks.reject fun r => r.user = userId }

def insertLocalAuth (db : Db) (auth : LocalAuth) : Except AppError Db :=
  match db.localAuths.insert? auth with
  | none => .error (.db .uniqueViolation)
  | some localAuths => .ok { db with localAuths }

def insertSocialAuth (db : Db) (auth : SocialAuth) : Except AppError Db :=
  match db.socialAuths.insert? auth with
  | none => .error (.db .uniqueViolation)
  | some socialAuths => .ok { db with socialAuths }

def insertUserTerm (db : Db) (term : UserTerm) : Except AppError Db :=
  if (db.terms.find? term.termId).isNone then .error (.db .foreignKeyViolation)
  else
    match db.userTerms.insert? term with
    | none => .error (.db .uniqueViolation)
    | some userTerms => .ok { db with userTerms }

/-- `INSERT` of a registration: `id` and `(game, user)` are unique, and the game,
the user and the team must exist. -/
def insertRegisteredGame (db : Db) (r : RegisteredGame) : Except AppError Db :=
  if ¬ r.HasTexts then .error (.db .characterNotInRepertoire)
  else if db.registeredGames.rows.any fun o => o.id = r.id || (o.game = r.game && o.user = r.user)
  then .error (.db .uniqueViolation)
  else if (db.games.find? r.game).isNone || (db.users.find? r.user).isNone ||
      (db.teams.find? r.cheeringTeam).isNone
  then .error (.db .foreignKeyViolation)
  else .ok (db.withRegisteredGames (db.registeredGames.save r))

/-- `UPDATE` of a loaded registration, whose game and user do not change. -/
def saveRegisteredGame (db : Db) (r : RegisteredGame) : Except AppError Db :=
  if ¬ r.HasTexts then .error (.db .characterNotInRepertoire)
  else if (db.teams.find? r.cheeringTeam).isNone then .error (.db .foreignKeyViolation)
  else .ok (db.withRegisteredGames (db.registeredGames.save r))

def removeRegisteredGame (db : Db) (id : Nat) : Db :=
  db.withRegisteredGames (db.registeredGames.remove id)

/-- `INSERT` or `UPDATE` of a rank row. -/
def saveRank (db : Db) (r : Rank) : Except AppError Db :=
  if (db.users.find? r.user).isNone then .error (.db .foreignKeyViolation)
  else .ok (db.withRanks (db.ranks.save r))

/-! ## The ledger's two sides -/

def recorded (db : Db) (k : RankKey) (c : RankColumn) : Nat := (db.ranks.find? k).elim 0 (·.get c)

/-- The year of a registration's game. -/
def yearOf (db : Db) (gameId : String) : Option Nat :=
  (db.games.find? gameId).map fun g => g.date.getFullYear

/-- The registration counts for the rank row `k` with status `s`. -/
def counts (db : Db) (k : RankKey) (s : RegisteredGameStatus) (r : RegisteredGame) : Bool :=
  r.user = k.user && r.cheeringTeam = k.teamId && db.yearOf r.game = some k.activeYear &&
    r.status = some s

def tally (db : Db) (k : RankKey) (s : RegisteredGameStatus) : Nat :=
  db.registeredGames.total fun r => if db.counts k s r then 1 else 0

/-- Every counter is the number of the registrations it stands for. -/
def Ledger (db : Db) : Prop := ∀ k s, db.recorded k (GameResultColumnMap s) = db.tally k s

end Db

/-! ## A small league -/

def twoTeams : Table Team.id := ⟨[⟨1, "LG"⟩, ⟨2, "두산"⟩], by decide⟩

/-- Two teams, a stadium and a fan, for the runs that are worked out below. -/
def leagueDb : Db :=
  { Db.empty with
    teams := twoTeams
    stadiums := ⟨[⟨1, "잠실", "잠실종합운동장", 37, 127⟩], by decide⟩
    users := ⟨[⟨7, DEFAULT_PROFILE_IMAGE, "fan", "fan@test", 1⟩], by decide⟩ }

/-- A game the home team has won 5:3. -/
def wonGame : GameRow :=
  ⟨"20250601HHLG0", ⟨2025, 6, 1⟩, "14:00:00", finished, some 5, some 3, 1, 2, some 1, 1⟩

end VictoryFairy
