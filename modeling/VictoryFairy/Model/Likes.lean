import VictoryFairy.Model.CheeringSong

/-!
# Likes of cheering songs

`likeCheerSong` looks for the song, for a like of the user, and inserts one when there is
none; `unlikeCheerSong` looks for the song and deletes.  The table has a key on the id
alone: no constraint keeps a second row of the same song and user out.

Any number of both run at once.  Each statement is a step; songs stay, and the users of
the requests exist.
-/

namespace VictoryFairy

namespace SongDb

def withLikes (db : SongDb) (likes : Table LikeCheeringSong.id) : SongDb := { db with likes }

/-! ## `CheeringSongCoreService` -/

def findOne (db : SongDb) (id : Nat) : Except AppError CheeringSong :=
  match db.cheeringSongs.find? id with
  | none => .error (.http 404 ("Cheering song with id " ++ toString id ++ " is not found"))
  | some cheeringSong => .ok cheeringSong

def isLikeOf (cheeringSongId userId : Nat) (l : LikeCheeringSong) : Bool :=
  l.cheeringSong = cheeringSongId && l.user = userId

def findDuplicate (db : SongDb) (cheeringSongId userId : Nat) : Option LikeCheeringSong :=
  db.likes.rows.find? (isLikeOf cheeringSongId userId)

/-- `save` of a `LikeCheeringSong` without an id. -/
def insertLike (db : SongDb) (newId cheeringSongId userId : Nat) : Except AppError SongDb :=
  match db.likes.insert? ⟨newId, userId, cheeringSongId⟩ with
  | none => .error (.db .uniqueViolation)
  | some likes => .ok (db.withLikes likes)

def duplicateError : AppError := .http 409 "The user already liked the cheering song."

def likeCheerSong (db : SongDb) (newId cheeringSongId userId : Nat) : Except AppError SongDb := do
  let cheeringSong ← db.findOne cheeringSongId
  match db.findDuplicate cheeringSongId userId with
  | some _ => throw duplicateError
  | none => db.insertLike newId cheeringSong.id userId

/-- `delete` with its `affected`. -/
def deleteLike (db : SongDb) (cheeringSongId userId : Nat) : SongDb × Nat :=
  (db.withLikes (db.likes.reject (isLikeOf cheeringSongId userId)),
    db.likes.rows.countP (isLikeOf cheeringSongId userId))

def likeNotFound (cheeringSongId userId : Nat) : AppError :=
  .http 404 ("Like relationship with cheering song " ++ toString cheeringSongId ++ " and user " ++
    toString userId ++ " not found.")

def unlikeCheerSong (db : SongDb) (cheeringSongId userId : Nat) : Except AppError SongDb := do
  let _ ← db.findOne cheeringSongId
  let result := db.deleteLike cheeringSongId userId
  if result.2 = 0 then throw (likeNotFound cheeringSongId userId)
  return result.1

/-! ## `CheeringSongApplicationQueryService` -/

def getCheeringSongLikes (db : SongDb) (cheeringSongId : Nat) : Except AppError Nat := do
  let cheeringSong ← db.findOne cheeringSongId
  return db.likes.rows.countP fun l => l.cheeringSong = cheeringSong.id

end SongDb

/-! ## Requests in flight -/

inductive LikeKind where
  | like
  | unlike
deriving DecidableEq, Repr

/-- What a request has behind it: `found` the song, `cleared` the lookup of a duplicate. -/
inductive LikePhase where
  | started
  | found
  | cleared
  | ended (error : Option AppError)
deriving DecidableEq, Repr

structure LikeRequest where
  kind : LikeKind
  cheeringSongId : Nat
  userId : Nat
  phase : LikePhase
deriving DecidableEq, Repr

/-- The tables, the next id of `like_cheering_song`, and the requests in the order of their
calls. -/
structure LikeRace where
  db : SongDb
  sequence : Nat
  requests : List LikeRequest

inductive LikeEvent where
  | call (kind : LikeKind) (cheeringSongId userId : Nat)
  | findSong (i : Nat)
  | findDuplicate (i : Nat)
  | insert (i : Nat)
  | delete (i : Nat)
deriving DecidableEq, Repr

namespace LikeRace

def setPhase (s : LikeRace) (i : Nat) (r : LikeRequest) (phase : LikePhase) : LikeRace :=
  { s with requests := s.requests.set i { r with phase } }

def findSongStep (s : LikeRace) (i : Nat) (r : LikeRequest) : LikeRace :=
  match r.phase with
  | .started =>
    match s.db.findOne r.cheeringSongId with
    | .error e => s.setPhase i r (.ended e)
    | .ok _ => s.setPhase i r .found
  | _ => s

def findDuplicateStep (s : LikeRace) (i : Nat) (r : LikeRequest) : LikeRace :=
  match r.kind, r.phase with
  | .like, .found =>
    match s.db.findDuplicate r.cheeringSongId r.userId with
    | some _ => s.setPhase i r (.ended SongDb.duplicateError)
    | none => s.setPhase i r .cleared
  | _, _ => s

def insertStep (s : LikeRace) (i : Nat) (r : LikeRequest) : LikeRace :=
  match r.phase with
  | .cleared =>
    match s.db.insertLike s.sequence r.cheeringSongId r.userId with
    | .error e => { s.setPhase i r (.ended e) with sequence := s.sequence + 1 }
    | .ok db => { s.setPhase i r (.ended none) with db, sequence := s.sequence + 1 }
  | _ => s

def deleteStep (s : LikeRace) (i : Nat) (r : LikeRequest) : LikeRace :=
  match r.kind, r.phase with
  | .unlike, .found =>
    let result := s.db.deleteLike r.cheeringSongId r.userId
    let error := if result.2 = 0 then some (SongDb.likeNotFound r.cheeringSongId r.userId) else none
    { s.setPhase i r (.ended error) with db := result.1 }
  | _, _ => s

/-- The request an event is about, if there is one. -/
def onRequest (s : LikeRace) (i : Nat) (f : LikeRequest → LikeRace) : LikeRace :=
  s.requests[i]?.elim s f

def step (s : LikeRace) : LikeEvent → LikeRace
  | .call kind cheeringSongId userId =>
    { s with requests := s.requests ++ [⟨kind, cheeringSongId, userId, .started⟩] }
  | .findSong i => s.onRequest i (s.findSongStep i)
  | .findDuplicate i => s.onRequest i (s.findDuplicateStep i)
  | .insert i => s.onRequest i (s.insertStep i)
  | .delete i => s.onRequest i (s.deleteStep i)

end LikeRace

end VictoryFairy
