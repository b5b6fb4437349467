import VictoryFairy.Lib.Steps
import VictoryFairy.Model.Application

/-!
# Account commands, call by call

`deleteUser` and `updateUserProfile` as the calls to the database, Redis and S3 that they
await.  `fault` names the call that rejects, if one does.  `deleteUser` is transactional:
`commit` is its last call, and the database is as before when it rejects.
-/

namespace VictoryFairy

open Steps

inductive AccountCall where
  | findTeams
  | findUser
  | removeUser
  | deleteImage
  | deleteUserInfo
  | deleteRankings
  | commit
  | findNickname
  | saveUser
  | existsUserInfo
  | setUserInfo
  | findRank
  | saveRank
  | aggregateRanks
  | findEmptiedRank
  | removeRank
  | updateRankings
deriving DecidableEq, Repr

/-- What the client is told when a call rejects with an error of its driver. -/
def serverError : AppError := .http 500 "Internal server error"

namespace AccountSteps

abbrev Method (α : Type) := EStateM AppError World α

section

variable (fault : Option AccountCall)

def query {α : Type} (name : AccountCall) (f : World → α) : Method α :=
  await fault name serverError fun w => .ok (f w, w)

def command (name : AccountCall) (f : World → World) : Method Unit :=
  await fault name serverError fun w => .ok ((), f w)

/-- A statement the constraints of the database may reject. -/
def statement (name : AccountCall) (f : Db → Except AppError Db) : Method Unit :=
  await fault name serverError fun w => (f w.db).map fun db => ((), { w with db })

/-- `findOne` of a user whose result is used without a check. -/
def findUser (userId : Nat) : Method User :=
  await fault .findUser serverError fun w => (loadUser w.db userId).map fun user => (user, w)

section S3

variable (extractKeyFromUrl : String → Option String)

/-- The object a previous image stands for; an empty key is not sent. -/
def uploadName (prevImage : Option String) : Option String :=
  ((prevImage.filter fun url => url ≠ "").bind extractKeyFromUrl).filter fun key => key ≠ ""

def deleteImage (prevImage : Option String) : Method Unit :=
  match uploadName extractKeyFromUrl prevImage with
  | none => pure ()
  | some key => command fault .deleteImage fun w => { w with deletedImages := w.deletedImages ++ [key] }

/-- `prevImage` of `AccountCoreService.deleteUser`. -/
def deletedImage (user : User) : Option String :=
  if user.profileImage ≠ DEFAULT_PROFILE_IMAGE then some user.profileImage else none

/-- `prevImage` of `AccountCoreService.updateUserProfileImage`. -/
def replacedImage (user : User) (imageUrl : String) : Option String :=
  if user.profileImage ≠ imageUrl ∧ user.profileImage ≠ DEFAULT_PROFILE_IMAGE then
    some user.profileImage
  else none

def deleteUser (userId : Nat) : Method Unit :=
  transaction (fun before after => { after with db := before.db }) do
    let teams ← query fault .findTeams fun w => findAllTeams w.db
    let user ← findUser fault userId
    command fault .removeUser fun w => { w with db := w.db.removeUser userId }
    deleteImage fault extractKeyFromUrl (deletedImage user)
    await fault .deleteUserInfo (.http 500 "Redis userInfo 삭제 실패") fun w =>
      .ok ((), { w with redis := w.redis.deleteUser userId })
    command fault .deleteRankings fun w =>
      { w with redis := w.redis.deleteRankByUserId userId (teams.map Team.id) }
    command fault .commit id

/-- `UserRedisService.updateFieldsOfUser`: every failure is caught and becomes this error. -/
def updateFieldsOfUser (userId : Nat) (field value : String) : Method Unit := do
  let isExist ← await fault .existsUserInfo (.http 500 "Redis userInfo 업데이트 실패") fun w =>
    .ok (decide (w.redis.userInfo userId ≠ .empty), w)
  check (if isExist then .ok () else .error (.http 500 "Redis userInfo 업데이트 실패"))
  await fault .setUserInfo (.http 500 "Redis userInfo 업데이트 실패") fun w =>
    let info := { w.redis.userInfo userId with field := some field, value := some value }
    .ok ((), { w with redis := w.redis.setUserInfo userId info })

def updateImage (userId : Nat) (value : String) : Method Unit := do
  let user ← findUser fault userId
  let changed ← check (user.updateProfileImage value)
  statement fault .saveUser fun db => db.saveUser changed
  deleteImage fault extractKeyFromUrl (replacedImage user value)
  updateFieldsOfUser fault userId "profileImage" value

end S3

def updateNickname (userId : Nat) (value : String) : Method Unit := do
  let isExist ← query fault .findNickname fun w => w.db.users.rows.any fun u => u.nickname = value
  check (if isExist then .error (.account .nicknameAlreadyExists) else .ok ())
  let user ← findUser fault userId
  let changed ← check (user.updateNickname value)
  statement fault .saveUser fun db => db.saveUser changed
  updateFieldsOfUser fault userId "nickname" value

def insertRankIfAbsent (k : RankKey) : Method Unit := do
  let foundRankData ← query fault .findRank fun w => w.db.ranks.find? k
  match foundRankData with
  | some _ => pure ()
  | none =>
    let createRank ← check (Rank.create k)
    statement fault .saveRank fun db => db.saveRank createRank

/-- One row of the user and team, of whatever year. -/
def deleteRank (teamId userId pick : Nat) : Method Unit := do
  let rankData ← query fault .findEmptiedRank fun w =>
    w.db.ranks.findAny (fun r => r.user = userId && r.teamId = teamId) pick
  match rankData with
  | none => pure ()
  | some rankData =>
    command fault .removeRank fun w => { w with db := w.db.withRanks (w.db.ranks.remove rankData.key) }

/-- The aggregate, `undefined` for a user without rank rows: reading a property of it throws. -/
def aggregate (userId : Nat) : Method AggregatedRankStats := do
  let data ← query fault .aggregateRanks fun w => aggregateRankStatsByUserId w.db userId
  check (data.elim (.error .typeError) .ok)

/-- What follows the aggregate. -/
def refresh (userId prevTeamId value pick : Nat) (data : AggregatedRankStats) : Method Unit :=
  if World.isEmptied data prevTeamId value then do
    deleteRank fault prevTeamId userId pick
    command fault .deleteRankings fun w =>
      { w with redis := w.redis.deleteRankByUserId userId [prevTeamId] }
    command fault .updateRankings fun w =>
      { w with redis := w.redis.updateRankings userId (data.delete (.team prevTeamId)) }
  else
    command fault .updateRankings fun w => { w with redis := w.redis.updateRankings userId data }

def updateTeamId (userId value year pick : Nat) : Method Unit := do
  let user ← findUser fault userId
  let changed ← check (user.updateTeam value)
  statement fault .saveUser fun db => db.saveUser changed
  insertRankIfAbsent fault ⟨userId, value, year⟩
  let data ← aggregate fault userId
  refresh fault userId user.supportTeam value pick data

def updateUserProfile (extractKeyFromUrl : String → Option String) (userId : Nat)
    (input : ProfileInput) (year pick : Nat) : Method Unit :=
  match input with
  | .image value => updateImage fault extractKeyFromUrl userId value
  | .nickname value => updateNickname fault userId value
  | .teamId value => updateTeamId fault userId value year pick

end

end AccountSteps

end VictoryFairy
