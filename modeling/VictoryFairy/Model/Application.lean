import VictoryFairy.Model.Redis

/-!
# Application services: requests over the three stores

A `@Transactional` method is a function on the database that either returns the
database it commits or rejects and leaves it as it was (`transactional`); its
`runOnTransactionCommit` hook then works on Redis and S3.  `updateUserProfile`
is not transactional: what it has saved stays when a later step rejects.

`Op` are the requests, `World.step` executes one together with its hook.  `Event`
adds what changes between two requests, `Fault` what a failure may leave behind.
-/

namespace VictoryFairy

/-! ## `RegisteredGameApplicationCommandService` -/

structure CreateRegisteredGameDto where
  image : Option String
  seat : String
  review : String
  gameId : String
  cheeringTeamId : Nat
deriving DecidableEq, Repr

structure RegisteredGameWithGameResponseDto where
  id : Nat
  image : Option String
  seat : String
  review : String
  status : Option RegisteredGameStatus
  gameId : String
  gameDate : Date
  gameTime : String
  gameStatus : String
  stadium : Stadium
  cheeringTeam : Team
deriving DecidableEq, Repr

/-- What `register` passes to `RegisteredGameCoreService.save`. -/
def saveInput (dto : CreateRegisteredGameDto) (game : GameRow) (cheeringTeam : Team)
    (userId : Nat) : SaveRegisteredGameInput :=
  { image := dto.image, seat := dto.seat, review := dto.review, userId,
    cheeringTeam := cheeringTeam.id, gameId := game.id, gameStatus := game.status,
    homeTeam := game.homeTeam, awayTeam := game.awayTeam, winnerTeam := orNull game.winningTeam }

/-- The rank update of a registration that is saved with a result. -/
def recordSaved (db : Db) (dto : RankRecordDto) : Except AppError Db :=
  if dto.status ≠ none then updateRankRecord db dto true else .ok db

def register (db : Db) (dto : CreateRegisteredGameDto) (userId newId : Nat) :
    Except AppError (Db × RegisteredGameWithGameResponseDto) := do
  let game ← getOneGame db dto.gameId
  let cheeringTeam ← findOneTeam db dto.cheeringTeamId
  let (db, saved) ← saveRegistration db (saveInput dto game cheeringTeam userId) newId
  let db ← recordSaved db
    { key := ⟨userId, cheeringTeam.id, game.date.getFullYear⟩, status := saved.status }
  match db.stadiums.find? game.stadium with
  | none => throw .typeError
  | some stadium =>
    return (db,
      { id := saved.id, image := saved.image, seat := saved.seat, review := saved.review,
        status := saved.status, gameId := game.id, gameDate := game.date, gameTime := game.time,
        gameStatus := game.status, stadium, cheeringTeam })

def update (db : Db) (id : Nat) (dto : UpdateRegisteredGameInput) (userId : Nat) :
    Except AppError (Db × UpdateRegisteredGameResult) := do
  let (db, result) ← updateRegistration db id dto userId
  if result.teamCtx.isChanged then
    let ctx := result.teamCtx
    let db ← updateRankRecord db
      { key := ⟨userId, ctx.prevTeamId, ctx.year⟩, status := ctx.prevStatus } false
    let db ← updateRankRecord db
      { key := ⟨userId, ctx.newTeamId, ctx.year⟩, status := ctx.changedStatus } true
    return (db, result)
  else return (db, result)

def delete (db : Db) (registeredGameId userId : Nat) :
    Except AppError (Db × DeleteRegisteredGameResult) := do
  let (db, result) ← deleteRegistration db registeredGameId userId
  if result.gameCtx.status ≠ none then
    let ctx := result.gameCtx
    let db ← updateRankRecord db
      { key := ⟨userId, ctx.teamId, ctx.year⟩, status := ctx.status } false
    return (db, result)
  else return (db, result)

/-! ### The rank updates of a request -/

/-- One call of `updateRankRecord`: its argument and `isAdd`. -/
abbrev RankUpdate := RankRecordDto × Bool

def applyRankUpdates (db : Db) (us : List RankUpdate) : Except AppError Db :=
  us.foldlM (fun db u => updateRankRecord db u.1 u.2) db

def registerUpdates (row : RegisteredGame) (year : Nat) : List RankUpdate :=
  if row.status ≠ none then
    [({ key := ⟨row.user, row.cheeringTeam, year⟩, status := row.status }, true)]
  else []

def TeamCtx.rankUpdates (ctx : TeamCtx) (userId : Nat) : List RankUpdate :=
  if ctx.isChanged then
    [({ key := ⟨userId, ctx.prevTeamId, ctx.year⟩, status := ctx.prevStatus }, false),
     ({ key := ⟨userId, ctx.newTeamId, ctx.year⟩, status := ctx.changedStatus }, true)]
  else []

def GameCtx.rankUpdates (ctx : GameCtx) (userId : Nat) : List RankUpdate :=
  if ctx.status ≠ none then
    [({ key := ⟨userId, ctx.teamId, ctx.year⟩, status := ctx.status }, false)]
  else []

/-! ## `AccountApplicationCommandService`: sign-up -/

/-- `getRequiredTermIds` -/
def requiredTermIds (db : Db) : List String :=
  (db.terms.rows.filter fun t => t.isRequired).map Term.id

def registerLocalUser (db : Db) (dto : CreateLocalUserDto) (env : SignUpEnv) (year : Nat) :
    Except AppError (Db × User) := do
  let (db, createdUser) ← createLocalUser db dto (requiredTermIds db) env
  let db ← insertRankIfAbsent db ⟨createdUser.id, dto.teamId, year⟩
  return (db, createdUser)

/-- Returns the user and `isNewUser`. -/
def loginSocialUser (db : Db) (sub providerEmail provider : String) (pick : Nat)
    (env : SignUpEnv) (year : Nat) : Except AppError (Db × User × Bool) := do
  let found ← findSocialUserOrValidate db sub provider providerEmail pick
  match found with
  | some user => return (db, user, false)
  | none =>
    let (db, createdUser) ← createSocialUser db providerEmail sub provider providerEmail true
      (requiredTermIds db) env
    let db ← insertRankIfAbsent db ⟨createdUser.id, createdUser.supportTeam, year⟩
    return (db, createdUser, true)

/-! ## The three stores -/

structure World where
  db : Db
  redis : Redis
  /-- keys of the S3 objects deleted so far -/
  deletedImages : List String

inductive ProfileInput where
  | image (value : String)
  | nickname (value : String)
  | teamId (value : Nat)
deriving DecidableEq, Repr

inductive Op where
  | registerLocalUser (dto : CreateLocalUserDto) (env : SignUpEnv) (year : Nat)
  | loginSocialUser (sub providerEmail provider : String) (pick : Nat) (env : SignUpEnv) (year : Nat)
  | register (dto : CreateRegisteredGameDto) (userId newId : Nat)
  | update (id : Nat) (dto : UpdateRegisteredGameInput) (userId : Nat)
  | delete (id userId : Nat)
  | updateUserProfile (userId : Nat) (input : ProfileInput) (year pick : Nat)
  | deleteUser (userId : Nat)

/-- A committed transaction runs its hook; a rejected one leaves every store alone. -/
def transactional {α : Type} (w : World) (body : Except AppError (Db × α))
    (onCommit : World → α → World) : World :=
  match body with
  | .error _ => w
  | .ok (db, a) => onCommit { w with db } a

namespace World

/-- The part of a hook that refreshes a user's rankings. -/
def refreshRankings (w : World) (userId : Nat) : World :=
  { w with redis := rankingHook w.db w.redis userId }

/-- The hook of both sign-ups: profile hash first, rankings second. -/
def cacheUser (w : World) (user : User) : World :=
  { w with redis := rankingHook w.db (w.redis.saveUsers [user]) user.id }

section S3

-- `AwsS3Service.extractKeyFromUrl`: the decoded path of a URL that parses
variable (extractKeyFromUrl : String → Option String)

def deleteImage (w : World) (fileUrl : Option String) : World :=
  match fileUrl.bind extractKeyFromUrl with
  | none => w
  | some uploadName =>
    if uploadName = "" then w else { w with deletedImages := w.deletedImages ++ [uploadName] }

def updateHook (w : World) (result : UpdateRegisteredGameResult) (userId : Nat) : World :=
  if result.teamCtx.isChanged then
    let w := if result.imageCtx.isChanged then
      w.deleteImage extractKeyFromUrl result.imageCtx.prevImage else w
    w.refreshRankings userId
  else w

def deleteHook (w : World) (result : DeleteRegisteredGameResult) (userId : Nat) : World :=
  let w := if (result.prevImage.getD "") ≠ "" then
    w.deleteImage extractKeyFromUrl result.prevImage else w
  if result.gameCtx.status ≠ none then w.refreshRankings userId else w

def deleteUser (w : World) (userId : Nat) : Except AppError World := do
  let teams := findAllTeams w.db
  let (db, prevImage) ← deleteUserRow w.db userId
  let w := if (prevImage.getD "") ≠ "" then w.deleteImage extractKeyFromUrl prevImage else w
  let redis := (w.redis.deleteUser userId).deleteRankByUserId userId (teams.map Team.id)
  return { w with db, redis }

/-- The `image` branch. -/
def updateImage (w : World) (userId : Nat) (value : String) : World × Except AppError Unit :=
  match updateUserProfileImage w.db userId value with
  | .error e => (w, .error e)
  | .ok (db, prevImage) =>
    let w := { w with db }
    let w := if (prevImage.getD "") ≠ "" then w.deleteImage extractKeyFromUrl prevImage else w
    match w.redis.updateFieldsOfUser userId "profileImage" value with
    | .error e => (w, .error e)
    | .ok redis => ({ w with redis }, .ok ())

end S3

/-- The `nickname` branch. -/
def updateNickname (w : World) (userId : Nat) (value : String) : World × Except AppError Unit :=
  match updateUserProfileNickname w.db userId value with
  | .error e => (w, .error e)
  | .ok db =>
    let w := { w with db }
    match w.redis.updateFieldsOfUser userId "nickname" value with
    | .error e => (w, .error e)
    | .ok redis => ({ w with redis }, .ok ())

/-- The team the user leaves is dropped from the rankings when it has no games. -/
def isEmptied (data : AggregatedRankStats) (prevTeamId value : Nat) : Bool :=
  prevTeamId ≠ value && (data.get (.team prevTeamId)).any fun vo => vo.getTotalCount = 0

/-- The `teamId` branch. -/
def updateTeamId (w : World) (userId value year pick : Nat) : World × Except AppError Unit :=
  match updateUserProfileTeamId w.db userId value with
  | .error e => (w, .error e)
  | .ok (db, prevTeamId) =>
    match insertRankIfAbsent db ⟨userId, value, year⟩ with
    | .error e => ({ w with db }, .error e)
    | .ok db =>
      match aggregateRankStatsByUserId db userId with
      | none => ({ w with db }, .error .typeError)
      | some data =>
        if isEmptied data prevTeamId value then
          let db := deleteRank db prevTeamId userId none pick
          let redis := w.redis.deleteRankByUserId userId [prevTeamId]
          let data := data.delete (.team prevTeamId)
          ({ w with db, redis := redis.updateRankings userId data }, .ok ())
        else ({ w with db, redis := w.redis.updateRankings userId data }, .ok ())

def updateUserProfile (extractKeyFromUrl : String → Option String) (w : World) (userId : Nat)
    (input : ProfileInput) (year pick : Nat) : World × Except AppError Unit :=
  match input with
  | .image value => w.updateImage extractKeyFromUrl userId value
  | .nickname value => w.updateNickname userId value
  | .teamId value => w.updateTeamId userId value year pick

/-- One request, executed to its end together with its post-commit hook. -/
def step (extractKeyFromUrl : String → Option String) (w : World) : Op → World
  | .registerLocalUser dto env year =>
    transactional w (VictoryFairy.registerLocalUser w.db dto env year) cacheUser
  | .loginSocialUser sub providerEmail provider pick env year =>
    transactional w (VictoryFairy.loginSocialUser w.db sub providerEmail provider pick env year)
      fun w (user, isNewUser) => if isNewUser then w.cacheUser user else w
  | .register dto userId newId =>
    transactional w (VictoryFairy.register w.db dto userId newId)
      fun w _ => w.refreshRankings userId
  | .update id dto userId =>
    transactional w (VictoryFairy.update w.db id dto userId)
      fun w result => w.updateHook extractKeyFromUrl result userId
  | .delete id userId =>
    transactional w (VictoryFairy.delete w.db id userId)
      fun w result => w.deleteHook extractKeyFromUrl result userId
  | .updateUserProfile userId input year pick =>
    (w.updateUserProfile extractKeyFromUrl userId input year pick).1
  | .deleteUser userId =>
    match w.deleteUser extractKeyFromUrl userId with
    | .error _ => w
    | .ok w => w

end World

/-! ## Histories -/

/-- What may change of a game while its date and teams are fixed. -/
structure Outcome where
  status : String
  homeTeamScore : Option Int
  awayTeamScore : Option Int
  winningTeam : Option Nat
deriving DecidableEq, Repr

def GameRow.withOutcome (row : GameRow) (o : Outcome) : GameRow :=
  { row with status := o.status, homeTeamScore := o.homeTeamScore,
             awayTeamScore := o.awayTeamScore, winningTeam := o.winningTeam }

theorem GameRow.withOutcome_id (row : GameRow) (o : Outcome) : (row.withOutcome o).id = row.id := rfl

def Db.setOutcomes (db : Db) (f : GameRow → Outcome) : Db :=
  db.withGames (db.games.modify (fun g => g.withOutcome (f g)) fun g => g.withOutcome_id (f g))

/-- A request, or a change of the games between two requests. -/
inductive Event where
  | request (op : Op)
  | outcomes (f : GameRow → Outcome)
  | newGame (game : GameRow)

/-- What a failure may leave: a cache in any state, or an `updateUserProfile` cut off
after the user was saved, or after the rank row was inserted. -/
inductive Fault where
  | event (e : Event)
  | cache (redis : Redis)
  | cutTeamId (userId value year : Nat) (inserted : Bool)

/-- `updateTeamId` up to the statement it was cut off at. -/
def Db.cutTeamId (db : Db) (userId value year : Nat) (inserted : Bool) : Db :=
  match updateUserProfileTeamId db userId value with
  | .error _ => db
  | .ok (db, _) =>
    if inserted then
      match insertRankIfAbsent db ⟨userId, value, year⟩ with
      | .error _ => db
      | .ok db => db
    else db

def Db.insertGame (db : Db) (game : GameRow) : Db :=
  if (db.teams.find? game.homeTeam).isNone || (db.teams.find? game.awayTeam).isNone then db
  else (db.games.insert? game).elim db db.withGames

namespace World

def start (teams : Table Team.id) (stadiums : Table Stadium.id) (games : Table GameRow.id)
    (terms : Table Term.id) : World where
  db := { Db.empty with teams, stadiums, games, terms }
  redis := .empty
  deletedImages := []

def next (extractKeyFromUrl : String → Option String) (w : World) : Event → World
  | .request op => w.step extractKeyFromUrl op
  | .outcomes f => { w with db := w.db.setOutcomes f }
  | .newGame game => { w with db := w.db.insertGame game }

def nextOrFail (extractKeyFromUrl : String → Option String) (w : World) : Fault → World
  | .event e => w.next extractKeyFromUrl e
  | .cache redis => { w with redis }
  | .cutTeamId userId value year inserted =>
    { w with db := w.db.cutTeamId userId value year inserted }

end World

end VictoryFairy
