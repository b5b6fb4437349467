import VictoryFairy.Model.Database

/-!
# Core services

The methods of `RankCoreService`, `RegisteredGameCoreService`,
`GameCoreService`, `TeamCoreService` and `AccountCoreService` on the database.
A query without an order takes a number that picks among the rows it may
return; ids handed out by a sequence, hashes and random draws are arguments.
-/

namespace VictoryFairy

/-! ## `RankCoreService` -/

structure RankRecordDto where
  key : RankKey
  status : Option RegisteredGameStatus
deriving DecidableEq, Repr

def insertRankIfAbsent (db : Db) (k : RankKey) : Except AppError Db :=
  match db.ranks.find? k with
  | some _ => .ok db
  | none => do
    let createRank ← Rank.create k
    db.saveRank createRank

/-- The row to adjust: the one found, or a new one when the update adds. -/
def targetRank (found : Option Rank) (dto : RankRecordDto) (isAdd : Bool) : Except AppError Rank :=
  match found with
  | some r => .ok r
  | none => if isAdd then Rank.create dto.key else .error (.rank .recordNotFound)

/-- The row `updateRankRecord` saves after its `findOne` returned `found`. -/
def adjustedRank (found : Option Rank) (dto : RankRecordDto) (isAdd : Bool) :
    Except AppError Rank := do
  let column := dto.status.map GameResultColumnMap
  let targetRankData ← targetRank found dto isAdd
  targetRankData.adjustRecord column isAdd

def updateRankRecord (db : Db) (dto : RankRecordDto) (isAdd : Bool) : Except AppError Db := do
  let targetRankData ← adjustedRank (db.ranks.find? dto.key) dto isAdd
  db.saveRank targetRankData

/-- Removes one row of the user and team, in whatever year when none is given. -/
def deleteRank (db : Db) (teamId userId : Nat) (activeYear : Option Nat) (pick : Nat) : Db :=
  match db.ranks.findAny (fun r => r.user = userId && r.teamId = teamId &&
      (orNull activeYear).all fun y => r.activeYear = y) pick with
  | none => db
  | some rankData => db.withRanks (db.ranks.remove rankData.key)

/-! ## `TeamCoreService` -/

def findOneTeam (db : Db) (id : Nat) : Except AppError Team :=
  match db.teams.find? id with
  | none => .error (.teamNotFound id)
  | some team => .ok team

/-- `findAll()`: the teams with an id between 1 and 10. -/
def findAllTeams (db : Db) : List Team := db.teams.rows.filter fun t => 1 ≤ t.id && t.id ≤ 10

/-! ## `GameCoreService` -/

/-- `getOneWithTeams` and `getOneWithTeamAndStadium` -/
def getOneGame (db : Db) (gameId : String) : Except AppError GameRow :=
  match db.games.find? gameId with
  | none => .error (.game .notFound)
  | some game => .ok game

/-- The `catch` of the method also swallows the read on a missing game. -/
def updateInProgressGame (db : Db) (gameId : String) (input : UpdateGameScoreInput) : Db :=
  match db.games.find? gameId with
  | none => db
  | some row => db.withGames (db.games.save (row.updateInProgressGame input))

def updateFinishedMatch (db : Db) (gameId : String) (input : UpdateGameScoreInput) :
    Except AppError Db :=
  if input.awayScore = none ∨ input.homeScore = none then .ok db
  else
    match db.games.find? gameId with
    | none => .error .typeError
    | some row => do
      let row ← row.updateFinishedMatch input
      return db.withGames (db.games.save row)

/-! ## `RegisteredGameCoreService` -/

/-- `getByGameId(gameId, { status: IsNull() })` -/
def getPendingByGameId (db : Db) (gameId : String) : List RegisteredGame :=
  db.registeredGames.rows.filter fun r => r.game = gameId && r.status = none

structure SaveRegisteredGameInput where
  image : Option String
  seat : String
  review : String
  userId : Nat
  cheeringTeam : Nat
  gameId : String
  gameStatus : String
  homeTeam : Nat
  awayTeam : Nat
  winnerTeam : Option Nat
deriving DecidableEq, Repr

/-- The entity `save` inserts: the duplicate check, `create`, `determineStatus`. -/
def newRegisteredGame (db : Db) (data : SaveRegisteredGameInput) (newId : Nat) :
    Except AppError RegisteredGame :=
  if db.registeredGames.rows.any fun r => r.game = data.gameId && r.user = data.userId then
    .error (.registeredGame .alreadyRegistered)
  else do
    let newRegisteredGame ← RegisteredGame.create newId
      { image := data.image, seat := data.seat, review := data.review, userId := data.userId,
        cheeringTeamId := data.cheeringTeam, gameId := data.gameId, homeTeamId := data.homeTeam,
        awayTeamId := data.awayTeam }
    return { newRegisteredGame with
      status := determineStatus data.gameStatus (orNull data.winnerTeam)
        newRegisteredGame.cheeringTeam }

def saveRegistration (db : Db) (data : SaveRegisteredGameInput) (newId : Nat) :
    Except AppError (Db × RegisteredGame) := do
  let registeredGame ← newRegisteredGame db data newId
  let db ← db.insertRegisteredGame registeredGame
  return (db, registeredGame)

/-- An omitted image is `undefined` (outer `none`). -/
structure UpdateRegisteredGameInput where
  cheeringTeamId : Nat
  seat : String
  review : String
  image : Option (Option String)
deriving DecidableEq, Repr

structure ImageCtx where
  isChanged : Bool
  prevImage : Option String
deriving DecidableEq, Repr

structure TeamCtx where
  isChanged : Bool
  prevTeamId : Nat
  newTeamId : Nat
  prevStatus : Option RegisteredGameStatus
  changedStatus : Option RegisteredGameStatus
  year : Nat
deriving DecidableEq, Repr

structure UpdateRegisteredGameResult where
  imageCtx : ImageCtx
  teamCtx : TeamCtx
deriving DecidableEq, Repr

/-- `findOne` of a registration by its id and owner, its game loaded. -/
def findRegistration (db : Db) (id userId : Nat) : Except AppError (RegisteredGame × GameRow) :=
  match (db.registeredGames.find? id).filter fun r => r.user = userId with
  | none => .error (.registeredGame .notFound)
  | some r =>
    match db.games.find? r.game with
    | none => .error .typeError
    | some game => .ok (r, game)

/-- The registration and its game as loaded, and the entity `update` saves. -/
def editedRegistration (db : Db) (id : Nat) (data : UpdateRegisteredGameInput) (userId : Nat) :
    Except AppError (RegisteredGame × GameRow × RegisteredGame) := do
  let (registeredGame, game) ← findRegistration db id userId
  let changed ← ((registeredGame.updateImage data.image).updateReviewAndSeat data.review
    data.seat).updateCheeringTeam data.cheeringTeamId game.homeTeam game.awayTeam
  return (registeredGame, game, changed)

def updateRegistration (db : Db) (id : Nat) (data : UpdateRegisteredGameInput) (userId : Nat) :
    Except AppError (Db × UpdateRegisteredGameResult) := do
  let (registeredGame, game, changed) ← editedRegistration db id data userId
  let prevImage := registeredGame.image
  let prevTeamId := registeredGame.cheeringTeam
  let prevStatus := registeredGame.status
  let db ← db.saveRegisteredGame changed
  return (db,
    { imageCtx := { isChanged := some prevImage ≠ data.image, prevImage }
      teamCtx :=
        { isChanged := prevTeamId ≠ data.cheeringTeamId, prevTeamId,
          newTeamId := data.cheeringTeamId, prevStatus, changedStatus := changed.status,
          year := game.date.getFullYear } })

structure GameCtx where
  status : Option RegisteredGameStatus
  teamId : Nat
  year : Nat
deriving DecidableEq, Repr

structure DeleteRegisteredGameResult where
  prevImage : Option String
  gameCtx : GameCtx
deriving DecidableEq, Repr

def deleteRegistration (db : Db) (registeredGameId userId : Nat) :
    Except AppError (Db × DeleteRegisteredGameResult) := do
  let (registeredGame, game) ← findRegistration db registeredGameId userId
  return (db.removeRegisteredGame registeredGame.id,
    { prevImage := registeredGame.image
      gameCtx :=
        { status := registeredGame.status, teamId := registeredGame.cheeringTeam,
          year := game.date.getFullYear } })

/-! ## `AccountCoreService` -/

/-- `generateRandomNickname`: `fuel` tries are left, `draw i` is the `i`-th number. -/
def pickRandomNickname (db : Db) (draw : Nat → Nat) : Nat → Nat → Except AppError String
  | 0, _ => .error (.account .nicknameGenerationFailed)
  | fuel + 1, i =>
    if db.users.rows.any fun u => u.nickname = generateRandomNickname (draw i) then
      pickRandomNickname db draw fuel (i + 1)
    else .ok (generateRandomNickname (draw i))

def MAX_RETRIES : Nat := 30

/-- `{ user, isNewUser }`: `none` is a new user.  One query looks both keys up and may
return any row that matches either; `pick` chooses. -/
def findSocialUserOrValidate (db : Db) (sub provider email : String) (pick : Nat) :
    Except AppError (Option User) :=
  let owns (u : User) := db.socialAuths.rows.any fun a =>
    a.userId = u.id && a.sub = sub && a.provider = provider
  match db.users.findAny (fun u => owns u || u.email = email) pick with
  | none => .ok none
  | some user => if owns user then .ok (some user) else .error (.account .emailAlreadyExists)

structure CreateLocalUserDto where
  email : String
  password : String
  image : String
  nickname : String
  teamId : Nat
deriving DecidableEq, Repr

/-- What a sign-up takes from outside: the sequence's next id, the hash of the
password and the random draws. -/
structure SignUpEnv where
  newId : Nat
  hashed : String
  draw : Nat → Nat

def insertUserTerms (db : Db) (terms : List UserTerm) : Except AppError Db :=
  terms.foldlM Db.insertUserTerm db

/-- The nickname given, or a random one for a blank. -/
def chooseNickname (db : Db) (nickname : String) (draw : Nat → Nat) : Except AppError String :=
  if isBlank nickname then pickRandomNickname db draw MAX_RETRIES 0 else .ok nickname

def createLocalUser (db : Db) (data : CreateLocalUserDto) (termIds : List String)
    (env : SignUpEnv) : Except AppError (Db × User) := do
  let nickname ← chooseNickname db data.nickname env.draw
  let user := User.build env.newId data.email data.image nickname data.teamId
  let terms ← User.agreeTerms user.id [] termIds
  let db ← db.insertUser user
  let db ← db.insertLocalAuth { userId := user.id, password := env.hashed }
  let db ← insertUserTerms db terms
  return (db, user)

def createSocialUser (db : Db) (email sub provider providerEmail : String) (isPrimary : Bool)
    (termIds : List String) (env : SignUpEnv) : Except AppError (Db × User) := do
  let nickname ← pickRandomNickname db env.draw MAX_RETRIES 0
  let user := User.build env.newId email "" nickname 1
  let auth ← SocialAuth.create user.id provider sub providerEmail isPrimary
  let terms ← User.agreeTerms user.id [] termIds
  let db ← db.insertUser user
  let db ← db.insertSocialAuth auth
  let db ← insertUserTerms db terms
  return (db, user)

/-- `findOne` of a user whose result is used without a check. -/
def loadUser (db : Db) (userId : Nat) : Except AppError User :=
  match db.users.find? userId with
  | none => .error .typeError
  | some user => .ok user

/-- Returns the image to delete, the default one apart. -/
def deleteUserRow (db : Db) (userId : Nat) : Except AppError (Db × Option String) := do
  let user ← loadUser db userId
  return (db.removeUser userId,
    if user.profileImage ≠ DEFAULT_PROFILE_IMAGE then some user.profileImage else none)

def updateUserProfileImage (db : Db) (userId : Nat) (imageUrl : String) :
    Except AppError (Db × Option String) := do
  let user ← loadUser db userId
  let changed ← user.updateProfileImage imageUrl
  let db ← db.saveUser changed
  return (db,
    if user.profileImage ≠ imageUrl ∧ user.profileImage ≠ DEFAULT_PROFILE_IMAGE then
      some user.profileImage
    else none)

def updateUserProfileNickname (db : Db) (userId : Nat) (nickname : String) :
    Except AppError Db :=
  if db.users.rows.any fun u => u.nickname = nickname then
    .error (.account .nicknameAlreadyExists)
  else do
    let user ← loadUser db userId
    let changed ← user.updateNickname nickname
    db.saveUser changed

/-- Returns the previous team. -/
def updateUserProfileTeamId (db : Db) (userId teamId : Nat) : Except AppError (Db × Nat) := do
  let user ← loadUser db userId
  let changed ← user.updateTeam teamId
  let db ← db.saveUser changed
  return (db, user.supportTeam)

end VictoryFairy
