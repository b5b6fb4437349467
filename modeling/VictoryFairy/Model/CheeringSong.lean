import Mathlib.Algebra.Order.Ring.Rat
import Mathlib.Data.List.Sort
import VictoryFairy.Model.Database

/-!
# Cheering songs

The tables of the module and the three endpoints that return songs page by page.  Each
fetches one song more than it was asked for, in the order of the ids, and drops it again.

    findBySearchWithInfiniteScroll, findByTeamIdAndTypeWithInfiniteScroll,
    findByLikedWithInfiniteScroll

A query with a parameter that its column does not take is rejected, and the request with it.
-/

namespace VictoryFairy

/-! ## Tables -/

structure Player where
  id : Nat
  name : String
  jerseyNumber : Int
deriving DecidableEq, Repr

structure CheeringSong where
  id : Nat
  type : String
  title : Option String
  lyrics : String
  link : String
  team : Nat
  player : Option Nat
deriving DecidableEq, Repr

structure LikeCheeringSong where
  id : Nat
  user : Nat
  cheeringSong : Nat
deriving DecidableEq, Repr

structure SongDb where
  teams : Table Team.id
  players : Table Player.id
  cheeringSongs : Table CheeringSong.id
  likes : Table LikeCheeringSong.id
  /-- the type of the column -/
  ids : ∀ song ∈ cheeringSongs.rows, IsInteger song.id

/-! ## `LIKE` -/

/-- `text LIKE pattern` with the backslash as escape character.  A pattern that ends in a lone
one is rejected by the database; the patterns below end in `%`. -/
def sqlLike : List Char → List Char → Bool
  | [], text => text.isEmpty
  | '%' :: pattern, text => text.tails.any fun rest => sqlLike pattern rest
  | '_' :: pattern, _ :: text => sqlLike pattern text
  | '\\' :: c :: pattern, a :: text => a = c && sqlLike pattern text
  | c :: pattern, a :: text => a = c && sqlLike pattern text
  | _ :: _, [] => false

/-- `q.replace(/[%_]/g, '\\$&')` -/
def escapeLike (q : List Char) : List Char :=
  q.flatMap fun c => if c = '%' ∨ c = '_' then ['\\', c] else [c]

def likePattern (q : String) : List Char := '%' :: escapeLike q.toList ++ ['%']

/-- `NULL` is like nothing. -/
def isLike (text : Option String) (q : String) : Bool :=
  text.any fun text => sqlLike (likePattern q) text.toList

/-! ## Pages -/

/-- A song with the relations that are loaded, and `isLiked`. -/
structure CheeringSongRow where
  song : CheeringSong
  player : Option Player
  team : Option Team
  isLiked : Bool
deriving DecidableEq, Repr

structure CursorPageMeta where
  take : Nat
  hasNextData : Bool
  cursor : Option Nat
deriving DecidableEq, Repr

structure CursorPage where
  data : List CheeringSongRow
  pageMeta : CursorPageMeta
deriving DecidableEq, Repr

namespace SongDb

def checkIsLiked (db : SongDb) (cheeringSongId userId : Nat) : Bool :=
  db.likes.rows.any fun l => l.cheeringSong = cheeringSongId && l.user = userId

/-- `if (cursor)`: `0` and an omitted cursor set no bound. -/
def givenCursor (cursor : Option ℚ) : Option ℚ := cursor.filter fun c => c ≠ 0

/-- `id > cursor` -/
def afterCursor (cursor : Option ℚ) (id : Nat) : Bool :=
  (givenCursor cursor).all fun c => c < (id : ℚ)

/-- `getMany` and `find`: the first songs that match, in the order of their ids, each once. -/
def getMany (db : SongDb) (matching : CheeringSong → Bool) (cursor : Option ℚ) (take : Nat) :
    List CheeringSong :=
  ((db.cheeringSongs.rows.insertionSort fun a b => a.id ≤ b.id).filter
    fun song => matching song && afterCursor cursor song.id).take take

def loadRow (db : SongDb) (userId : Nat) (song : CheeringSong) : CheeringSongRow where
  song := song
  player := song.player.bind db.players.find?
  team := db.teams.find? song.team
  isLiked := db.checkIsLiked song.id userId

/-- What the three methods make of the songs they have fetched. -/
def toCursorPage (db : SongDb) (userId take : Nat) (cheeringSongs : List CheeringSong) : CursorPage :=
  let hasNextData := decide (take < cheeringSongs.length)
  let data := if hasNextData then cheeringSongs.dropLast else cheeringSongs
  let newCursor := data.getLast?.map CheeringSong.id
  { data := data.map (db.loadRow userId), pageMeta := { take, hasNextData, cursor := newCursor } }

/-- A `number` for an `integer` column.  Its text has a point if it is a fraction, and an exponent
from 1e21 on. -/
def integerParameter (n : ℚ) : Except AppError Unit :=
  if n.den ≠ 1 ∨ 10 ^ 21 ≤ n.num.natAbs then .error (.db .invalidTextRepresentation)
  else if IsInteger n.num then .ok ()
  else .error (.db .numericValueOutOfRange)

def textParameter (s : String) : Except AppError Unit :=
  if IsText s then .ok () else .error (.db .characterNotInRepertoire)

/-- What the query of a page rejects: its cursor, and a `LIMIT` that is no `bigint`. -/
def checkPage (take : Nat) (cursor : Option ℚ) : Except AppError Unit := do
  (givenCursor cursor).elim (.ok ()) integerParameter
  if take + 1 < 2 ^ 63 then return () else throw (.db .numericValueOutOfRange)

/-! ### `CheeringSongApplicationQueryService` -/

/-- The `WHERE` of a keyword; an empty one sets none. -/
def matchesSearch (db : SongDb) (q : Option String) (song : CheeringSong) : Bool :=
  (q.filter fun q => q ≠ "").all fun q =>
    isLike song.title q || isLike (some song.lyrics) q ||
      isLike ((song.player.bind db.players.find?).map Player.name) q

def findBySearchWithInfiniteScroll (db : SongDb) (userId take : Nat) (cursor : Option ℚ)
    (q : Option String) : Except AppError CursorPage := do
  q.elim (.ok ()) textParameter
  checkPage take cursor
  return db.toCursorPage userId take (db.getMany (db.matchesSearch q) cursor (take + 1))

def matchesTeamAndType (teamId : Nat) (type : String) (song : CheeringSong) : Bool :=
  song.team = teamId && song.type = type

/-- `em.findOne(Team, ..)` -/
def checkTeam (db : SongDb) (teamId : Nat) : Except AppError Unit := do
  integerParameter teamId
  if (db.teams.find? teamId).isSome then return () else throw (.teamNotFound teamId)

def findByTeamIdAndTypeWithInfiniteScroll (db : SongDb) (teamId : Nat) (type : String)
    (userId take : Nat) (cursor : Option ℚ) : Except AppError CursorPage := do
  db.checkTeam teamId
  textParameter type
  checkPage take cursor
  return db.toCursorPage userId take (db.getMany (matchesTeamAndType teamId type) cursor (take + 1))

/-- The `INNER JOIN` with the likes of the user. -/
def matchesLiked (db : SongDb) (type : String) (userId : Nat) (song : CheeringSong) : Bool :=
  db.likes.rows.any (fun l => l.cheeringSong = song.id && l.user = userId) && song.type = type

def findByLikedWithInfiniteScroll (db : SongDb) (type : String) (userId take : Nat)
    (cursor : Option ℚ) : Except AppError CursorPage := do
  textParameter type
  checkPage take cursor
  return db.toCursorPage userId take (db.getMany (db.matchesLiked type userId) cursor (take + 1))

end SongDb

/-! ## Scrolling -/

/-- The endpoints with their arguments. -/
inductive ScrollEndpoint where
  | search (q : Option String)
  | byTeamAndType (teamId : Nat) (type : String)
  | liked (type : String)
deriving DecidableEq, Repr

namespace ScrollEndpoint

/-- A cursor is a `number`, so much the DTO makes sure of. -/
def request (endpoint : ScrollEndpoint) (userId take : Nat) (db : SongDb) (cursor : Option ℚ) :
    Except AppError CursorPage :=
  match endpoint with
  | search q => db.findBySearchWithInfiniteScroll userId take cursor q
  | byTeamAndType teamId type =>
    db.findByTeamIdAndTypeWithInfiniteScroll teamId type userId take cursor
  | liked type => db.findByLikedWithInfiniteScroll type userId take cursor

/-- The song matches the filter of the endpoint. -/
def filter (endpoint : ScrollEndpoint) (userId : Nat) (db : SongDb) (song : CheeringSong) : Bool :=
  match endpoint with
  | search q => db.matchesSearch q song
  | byTeamAndType teamId type => SongDb.matchesTeamAndType teamId type song
  | liked type => db.matchesLiked type userId song

/-- The run of a client: `dbs` are the tables its requests find, `pages` the answers.  It asks
again, with the cursor it got, while more is promised. -/
inductive Scroll (endpoint : ScrollEndpoint) (userId take : Nat) :
    Option ℚ → List SongDb → List CursorPage → Prop
  | stop {cursor : Option ℚ} {db : SongDb} {page : CursorPage}
      (hpage : endpoint.request userId take db cursor = .ok page) :
      Scroll endpoint userId take cursor [db] [page]
  | next {cursor : Option ℚ} {db : SongDb} {page : CursorPage} {dbs : List SongDb}
      {pages : List CursorPage} (hpage : endpoint.request userId take db cursor = .ok page)
      (hmore : page.pageMeta.hasNextData = true)
      (rest : Scroll endpoint userId take (page.pageMeta.cursor.map Nat.cast) dbs pages) :
      Scroll endpoint userId take cursor (db :: dbs) (page :: pages)

end ScrollEndpoint

/-! ## Lemmas -/

/-- A row shows the song it was loaded for. -/
@[simp] theorem SongDb.loadRow_song (db : SongDb) (userId : Nat) (song : CheeringSong) :
    (db.loadRow userId song).song = song := rfl

end VictoryFairy
