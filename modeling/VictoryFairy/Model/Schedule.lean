import VictoryFairy.Model.Database

/-!
# The crawled schedule

`upsertSchedules` fetches a month's table, takes the text of its cells, makes a game of
each line and saves all of them in one transaction: an error of any line rolls the
crawl back, and is logged.

    extractTextFromHtml, refineGamesData, processDoubleHeader : the games of a table
    upsertMany                                                : the transaction
-/

namespace VictoryFairy

/-! ## Names -/

def TTeam : List (String × String) :=
  [("롯데", "롯데 자이언츠"), ("두산", "두산 베어스"), ("KIA", "KIA 타이거즈"), ("삼성", "삼성 라이온즈"),
   ("SSG", "SSG 랜더스"), ("NC", "NC 다이노스"), ("LG", "LG 트윈스"), ("키움", "키움 히어로즈"),
   ("KT", "KT 위즈"), ("한화", "한화 이글스"), ("나눔", "나눔"), ("드림", "드림")]

def teamNameToTeamId : List (String × String) :=
  [("LG", "LG"), ("롯데", "LT"), ("두산", "OB"), ("KIA", "HT"), ("삼성", "SS"), ("SSG", "SK"),
   ("NC", "NC"), ("키움", "WO"), ("KT", "KT"), ("한화", "HH"), ("나눔", "WA"), ("드림", "AE")]

/-- `undefined` in a string concatenation. -/
def jsString (s : Option String) : String := s.getD "undefined"

/-- A property of `Object.prototype`: its text in a concatenation, and what becomes of it as the
name of a team. -/
structure Inherited where
  text : String
  column : Except AppError String

def nativeFunction (name : String) (column : Except AppError String) : Inherited :=
  ⟨"function " ++ name ++ "() \x7b [native code] \x7d", column⟩

/-- What an object literal has without an entry of its own.  The driver writes an object as JSON;
the query builder calls a function and puts what it returns into the statement. -/
def objectPrototype : List (String × Inherited) :=
  [("__proto__", ⟨"[object Object]", .ok "\x7b\x7d"⟩),
   ("constructor", nativeFunction "Object" (.error (.db .syntaxError))),
   ("toString", nativeFunction "toString" (.error (.db .syntaxError))),
   ("isPrototypeOf", nativeFunction "isPrototypeOf" (.ok "false")),
   ("hasOwnProperty", nativeFunction "hasOwnProperty" (.error .typeError)),
   ("propertyIsEnumerable", nativeFunction "propertyIsEnumerable" (.error .typeError)),
   ("toLocaleString", nativeFunction "toLocaleString" (.error .typeError)),
   ("valueOf", nativeFunction "valueOf" (.error .typeError)),
   ("__defineGetter__", nativeFunction "__defineGetter__" (.error .typeError)),
   ("__defineSetter__", nativeFunction "__defineSetter__" (.error .typeError)),
   ("__lookupGetter__", nativeFunction "__lookupGetter__" (.error .typeError)),
   ("__lookupSetter__", nativeFunction "__lookupSetter__" (.error .typeError))]

/-- `teamNameToTeamId[name]` in a concatenation. -/
def teamCode (name : String) : String :=
  jsString ((teamNameToTeamId.lookup name).or ((objectPrototype.lookup name).map Inherited.text))

/-- A text of `TTeam`, or a property of `Object.prototype` by its name. -/
inductive TeamName where
  | text (name : String)
  | inherited (property : String)
deriving DecidableEq, Repr

/-- `TTeam[name]` -/
def teamName (name : String) : Option TeamName :=
  ((TTeam.lookup name).map .text).or ((objectPrototype.lookup name).map fun _ => .inherited name)

/-- The value of the column when a team of this name is inserted. -/
def TeamName.column : TeamName → Except AppError String
  | .text name => .ok name
  | .inherited property =>
    (objectPrototype.lookup property).elim (.error (.db .notNullViolation)) Inherited.column

def endsWithZero (id : String) : Bool := id.toList.getLast? = some '0'

/-- `id.slice(0, -1)` -/
def sliceLast (id : String) : String := String.ofList id.toList.dropLast

/-! ## The cells of a table -/

/-- `replace(/<[^>]*>/g, '')`; the flag tells whether a tag is open. -/
def stripTags : Bool → List Char → List Char
  | _, [] => []
  | true, c :: cs => stripTags (c ≠ '>') cs
  | false, c :: cs =>
    if c = '<' ∧ '>' ∈ cs then stripTags true cs else c :: stripTags false cs

def extractTextFromHtml (row : List String) : List String :=
  row.map fun text => String.ofList (stripTags false text.toList)

/-- The match of `/(\d{2})\.(\d{2})/`, its dot written as a hyphen. -/
def findMonthAndDay : List Char → Option String
  | [] => none
  | a :: cs =>
    match cs with
    | b :: dot :: c :: d :: _ =>
      if a.isDigit && b.isDigit && dot = '.' && c.isDigit && d.isDigit then
        some (String.ofList [a, b, '-', c, d])
      else findMonthAndDay cs
    | _ => findMonthAndDay cs

def convertDateFormat (value : String) : Option String := findMonthAndDay value.toList

/-! ## Teams and scores -/

structure ITeamAndScore where
  name : String
  score : Option Nat
deriving DecidableEq, Repr

/-- The text before the first `vs`, and what follows it. -/
def splitVs : List Char → List Char × Option (List Char)
  | [] => ([], none)
  | c :: cs =>
    match c, cs with
    | 'v', 's' :: rest => ([], some rest)
    | c, cs => (c :: (splitVs cs).1, (splitVs cs).2)

def trimStart (cs : List Char) : List Char := cs.dropWhile isJsSpace

def trimEnd (cs : List Char) : List Char := (cs.reverse.dropWhile isJsSpace).reverse

def trim (cs : List Char) : List Char := trimEnd (trimStart cs)

/-- `Infinity`, written as a natural number above every finite `number`. -/
def infinity : Nat := 2 ^ 1024

/-- The `number` nearest to a natural number: 53 bits, half to even. -/
def toNumber (n : Nat) : Nat :=
  let unit := 2 ^ (n.log2 - 52)
  let quotient := n / unit
  let up := unit < 2 * (n % unit) ∨ 2 * (n % unit) = unit ∧ quotient % 2 = 1
  min (if up then (quotient + 1) * unit else quotient * unit) infinity

/-- `parseInt(digits, 10)` -/
def parseInt (digits : List Char) : Nat :=
  toNumber (digits.foldl (fun n c => 10 * n + (c.toNat - '0'.toNat)) 0)

/-- `/(\d+)(\D+)$/`: the last digits, and the text after them. -/
def matchScoreAndTeam (cs : List Char) : Option (List Char × List Char) :=
  let rest := cs.reverse.dropWhile fun c => !c.isDigit
  let name := (cs.reverse.takeWhile fun c => !c.isDigit).reverse
  let digits := (rest.takeWhile Char.isDigit).reverse
  if digits = [] ∨ name = [] then none else some (digits, name)

/-- `/^(\D+)(\d+)$/` -/
def matchTeamAndScore (cs : List Char) : Option (List Char × List Char) :=
  let name := cs.takeWhile fun c => !c.isDigit
  let digits := cs.dropWhile fun c => !c.isDigit
  if digits = [] ∨ name = [] ∨ !digits.all Char.isDigit then none else some (digits, name)

def splitScoreAndTeam (teamString : List Char) (isRightSide : Bool) : ITeamAndScore :=
  match if isRightSide then matchScoreAndTeam teamString else matchTeamAndScore teamString with
  | some (digits, name) => { name := String.ofList (trim name), score := some (parseInt digits) }
  | none => { name := String.ofList teamString, score := none }

/-- `{ homeTeam, awayTeam }`, or `{}`. -/
def getTeamAndScore (gameString : String) : Option (ITeamAndScore × ITeamAndScore) :=
  match splitVs gameString.toList with
  | (awayTeamString, some rest) =>
    let homeTeamString := (splitVs rest).1
    if awayTeamString = [] ∨ homeTeamString = [] then none
    else some (splitScoreAndTeam (trim homeTeamString) true,
      splitScoreAndTeam (trim awayTeamString) false)
  | (_, none) => none

/-! ## Games -/

/-- A team the tables do not know is `undefined`; so is a score of a game without a review. -/
structure IGameData where
  id : String
  date : String
  time : String
  homeTeam : Option TeamName
  awayTeam : Option TeamName
  stadium : String
  status : String
  homeScore : Option Nat
  awayScore : Option Nat
deriving DecidableEq, Repr

structure ScheduleEntry where
  date : Option String
  time : String
  game : String
  review : String
  stadium : String
  status : String
deriving DecidableEq, Repr

/-- Only the first line of a day has a cell for the date. -/
def scheduleEntry : List String → Option ScheduleEntry
  | [date, time, game, review, _, _, _, stadium, status] =>
    some { date := some date, time, game, review, stadium, status }
  | [time, game, review, _, _, _, stadium, status] =>
    some { date := none, time, game, review, stadium, status }
  | _ => none

def gameData (currentDate : String) (entry : ScheduleEntry) (homeTeam awayTeam : ITeamAndScore) :
    IGameData :=
  let reviewed := entry.review = "리뷰"
  { id := String.ofList (currentDate.toList.filter (· ≠ '-')) ++
      teamCode awayTeam.name ++ teamCode homeTeam.name ++ "0"
    date := currentDate
    time := entry.time
    homeTeam := teamName homeTeam.name
    awayTeam := teamName awayTeam.name
    stadium := entry.stadium
    status := if reviewed then finished else if entry.review = "프리뷰" then preGame else entry.status
    homeScore := if reviewed then homeTeam.score else none
    awayScore := if reviewed then awayTeam.score else none }

/-- What the crawl takes from its libraries: the format check, and the casts of the
database, which reject a text that is no date or time. -/
structure Formats where
  isNotTimeFormat : String → Bool
  castDate : String → Option Date
  castTime : String → Option String

section

variable (formats : Formats)

/-- The current date after the entry. -/
def nextDate (year : Nat) (currentDate : String) (entry : ScheduleEntry) : String :=
  match entry.date with
  | none => currentDate
  | some date =>
    if date ≠ "" ∧ formats.isNotTimeFormat date then
      toString year ++ "-" ++ jsString (convertDateFormat date)
    else currentDate

def refineGamesData (year : Nat) : String → List (List String) → Except AppError (List IGameData)
  | _, [] => .ok []
  | currentDate, cells :: rawData =>
    match scheduleEntry cells with
    | none => refineGamesData year currentDate rawData
    | some entry =>
      let currentDate := nextDate formats year currentDate entry
      if currentDate = "" then refineGamesData year currentDate rawData
      else
        match getTeamAndScore entry.game with
        | none => .error .typeError
        | some (homeTeam, awayTeam) =>
          (refineGamesData year currentDate rawData).map
            (gameData currentDate entry homeTeam awayTeam :: ·)

/-- A game whose id several games of the table have gets a number; `result` are the games
before it. -/
def numberGame (schedule result : List IGameData) (game : IGameData) : IGameData :=
  let baseId := sliceLast game.id
  let count := schedule.countP fun g => endsWithZero g.id && sliceLast g.id = baseId
  if endsWithZero game.id ∧ 1 < count then
    let currentIndex := result.countP fun g => baseId.toList.isPrefixOf g.id.toList
    { game with id := baseId ++ toString (currentIndex + 1) }
  else game

def processDoubleHeader (schedule : List IGameData) : List IGameData :=
  schedule.foldl (fun result game => result ++ [numberGame schedule result game]) []

/-! ## The transaction -/

/-- The ids that are handed out next. -/
structure Sequences where
  team : Nat
  stadium : Nat
deriving DecidableEq, Repr

/-- The sequences in a transaction, and the inherited properties it has saved as teams: a map
finds an object or a function only if it was set with it. -/
structure Crawl extends Sequences where
  inherited : List String
deriving DecidableEq, Repr

/-- A transaction begins with nothing saved. -/
def Sequences.begin (ids : Sequences) : Crawl := { ids with inherited := [] }

/-- The entry of a map by name; names are unique. -/
def teamNamed (db : Db) (name : String) : Option Team := db.teams.rows.find? (·.name = name)

def stadiumNamed (db : Db) (name : String) : Option Stadium :=
  db.stadiums.rows.find? (·.name = name)

/-- The team with what the column has of the name. -/
def TeamName.team (db : Db) (name : TeamName) : Option Team :=
  name.column.toOption.bind (teamNamed db)

/-- `teamMaps.get(name)` -/
def Crawl.findTeam (crawl : Crawl) (db : Db) (name : TeamName) : Option Team :=
  match name with
  | .text _ => name.team db
  | .inherited property => if property ∈ crawl.inherited then name.team db else none

/-- After a team is inserted and `teamMaps.set(name, team)`. -/
def Crawl.setTeam (crawl : Crawl) (name : TeamName) : Crawl :=
  { crawl with
    team := crawl.team + 1
    inherited := match name with
      | .text _ => crawl.inherited
      | .inherited property => property :: crawl.inherited }

def insertTeam (db : Db) (name : Option TeamName) (crawl : Crawl) :
    Except AppError (Db × Team × Crawl) :=
  match name with
  | none => .error (.db .notNullViolation)
  | some name =>
    match name.column with
    | .error e => .error e
    | .ok column =>
      if db.teams.rows.any fun t => t.id = crawl.team || t.name = column then
        .error (.db .uniqueViolation)
      else .ok ({ db with teams := db.teams.save ⟨crawl.team, column⟩ }, ⟨crawl.team, column⟩,
        crawl.setTeam name)

/-- `found`, or else a new team. -/
def findOrInsertTeam (db : Db) (found : Option Team) (name : Option TeamName) (crawl : Crawl) :
    Except AppError (Db × Team × Crawl) :=
  match found with
  | some team => .ok (db, team, crawl)
  | none => insertTeam db name crawl

def findOrInsertStadium (db : Db) (name : String) (crawl : Crawl) :
    Except AppError (Db × Stadium × Crawl) :=
  match stadiumNamed db name with
  | some stadium => .ok (db, stadium, crawl)
  | none =>
    let stadium : Stadium := ⟨crawl.stadium, name, "등록되어 있지 않은 경기장", 0, 0⟩
    if ¬ IsText name then .error (.db .characterNotInRepertoire)
    else if db.stadiums.rows.any fun s => s.id = crawl.stadium || s.name = name then
      .error (.db .uniqueViolation)
    else .ok ({ db with stadiums := db.stadiums.save stadium }, stadium,
      { crawl with stadium := crawl.stadium + 1 })

/-- The date and the time of the statement. -/
def castDateTime (data : IGameData) : Except AppError (Date × String) :=
  match formats.castDate data.date, formats.castTime data.time with
  | some date, some time => .ok (date, time)
  | _, _ => .error (.db .invalidTextRepresentation)

/-- `DELETE` of a game; registrations refer to it without a cascade. -/
def Db.deleteGame (db : Db) (id : String) : Except AppError Db :=
  if db.registeredGames.rows.any fun r => r.game = id then .error (.db .foreignKeyViolation)
  else .ok (db.withGames (db.games.remove id))

/-- The game a double header was before it was known to be one. -/
def Db.deletePreDoubleHeader (db : Db) (id : String) : Except AppError Db :=
  if endsWithZero id then .ok db else db.deleteGame (sliceLast id ++ "0")

/-- `upsert` by id; `(date, time, stadium)` is unique too. -/
def Db.upsertGame (db : Db) (game : Game) : Except AppError Db := do
  let row ← game.upsertRow (db.games.find? game.id)
  if db.games.rows.any fun o =>
      o.id ≠ row.id && o.date = row.date && o.time = row.time && o.stadium = row.stadium then
    throw (.db .uniqueViolation)
  else return db.withGames (db.games.save row)

/-- The loop body.  Every error rolls all back, so the casts of the last statement may
come first. -/
def saveGameData (s : Db × Crawl) (data : IGameData) : Except AppError (Db × Crawl) := do
  let (date, time) ← castDateTime formats data
  let foundHome := data.homeTeam.bind (s.2.findTeam s.1)
  let foundAway := data.awayTeam.bind (s.2.findTeam s.1)
  let (db, homeTeam, crawl) ← findOrInsertTeam s.1 foundHome data.homeTeam s.2
  let (db, awayTeam, crawl) ← findOrInsertTeam db foundAway data.awayTeam crawl
  let (db, stadium, crawl) ← findOrInsertStadium db data.stadium crawl
  let game ← Game.create
    { id := data.id, date, time, status := data.status,
      homeTeamScore := data.homeScore.map Int.ofNat, awayTeamScore := data.awayScore.map Int.ofNat,
      homeTeam := homeTeam.id, awayTeam := awayTeam.id, stadium := stadium.id }
  let db ← db.deletePreDoubleHeader game.id
  let db ← db.upsertGame game
  return (db, crawl)

def upsertMany (db : Db) (ids : Sequences) (games : List IGameData) : Except AppError Db := do
  let (db, _) ← games.foldlM (saveGameData formats) (db, ids.begin)
  return db

/-- The games of a response. -/
def scheduledGames (year : Nat) (rows : List (List String)) : Except AppError (List IGameData) :=
  (refineGamesData formats year "" (rows.map extractTextFromHtml)).map processDoubleHeader

/-- `rows` are the cells of the response, `none` when the retry has failed too. -/
def upsertSchedules (db : Db) (ids : Sequences) (year : Nat) (rows : Option (List (List String))) :
    Db :=
  match rows.map (scheduledGames formats year) with
  | some (.ok games) =>
    match upsertMany formats db ids games with
    | .ok db => db
    | .error _ => db
  | _ => db

end

end VictoryFairy
