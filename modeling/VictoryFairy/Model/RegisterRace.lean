import VictoryFairy.Model.ScoreJob

/-!
# Registering while a game ends

The callback of one poll in its four database steps, and any number of `register`
requests in theirs: read the game, `create` with `determineStatus`, insert, commit.
A row is visible to others from the commit of its request on.
-/

namespace VictoryFairy

/-! ## The poll -/

/-- The step that comes next. -/
inductive PollPhase where
  | updateInProgressGame
  | updateFinishedMatch
  | getByGameId
  | saveBulk (registeredGameUpdates : List SaveElement)
  | finished
deriving DecidableEq, Repr

/-- One step of the callback; the error of a step ends it. -/
def pollStep (gameId : String) (input : UpdateGameScoreInput) (db : Db) :
    PollPhase → Db × PollPhase
  | .updateInProgressGame =>
    (updateInProgressGame db gameId input,
      if isTerminal input.status then .updateFinishedMatch else .finished)
  | .updateFinishedMatch =>
    match updateFinishedMatch db gameId input with
    | .error _ => (db, .finished)
    | .ok db => (db, .getByGameId)
  | .getByGameId =>
    match getOneGame db gameId with
    | .error _ => (db, .finished)
    | .ok game =>
      let registeredGames := getPendingByGameId db gameId
      if registeredGames = [] then (db, .finished)
      else (db, .saveBulk (registeredGames.map fun registeredGame =>
        .wrapped (registeredGame.determineStatus game.status (orNull game.winningTeam))))
  | .saveBulk registeredGameUpdates =>
    match saveBulk db registeredGameUpdates with
    | .error _ => (db, .finished)
    | .ok db => (db, .finished)
  | .finished => (db, .finished)

/-! ## The requests -/

inductive RegisterPhase where
  | started
  | read (game : GameRow) (cheeringTeam : Team)
  | created (game : GameRow) (row : RegisteredGame)
  | inserted (game : GameRow) (row : RegisteredGame)
  | ended
deriving DecidableEq, Repr

structure RegisterTx where
  dto : CreateRegisteredGameDto
  userId : Nat
  newId : Nat
  phase : RegisterPhase
deriving DecidableEq, Repr

structure RegisterRace where
  db : Db
  poll : PollPhase
  requests : List RegisterTx

inductive RegisterEvent where
  | poll
  | request (dto : CreateRegisteredGameDto) (userId newId : Nat)
  | read (i : Nat)
  | create (i : Nat)
  | insert (i : Nat)
  | commit (i : Nat)
  | abort (i : Nat)
deriving DecidableEq, Repr

/-- What becomes visible with a commit: the row and the rank update of its result; the
stadium of the game is read last. -/
def commitRegistration (db : Db) (game : GameRow) (row : RegisteredGame) : Except AppError Db := do
  let db ← db.insertRegisteredGame row
  let db ← recordSaved db
    { key := ⟨row.user, row.cheeringTeam, game.date.getFullYear⟩, status := row.status }
  match db.stadiums.find? game.stadium with
  | none => throw .typeError
  | some _ => return db

namespace RegisterRace

def setPhase (s : RegisterRace) (i : Nat) (phase : RegisterPhase) : RegisterRace :=
  { s with requests := s.requests.modify i fun t => { t with phase } }

/-- A row with the same key is in a transaction that has not ended: an insert waits for it. -/
def blocked (s : RegisterRace) (row : RegisteredGame) : Bool :=
  s.requests.any fun t =>
    match t.phase with
    | .inserted _ other => other.id = row.id || (other.game = row.game && other.user = row.user)
    | _ => false

def readStep (s : RegisterRace) (i : Nat) (t : RegisterTx) : RegisterPhase → RegisterRace
  | .started =>
    match getOneGame s.db t.dto.gameId, findOneTeam s.db t.dto.cheeringTeamId with
    | .ok game, .ok cheeringTeam => s.setPhase i (.read game cheeringTeam)
    | _, _ => s.setPhase i .ended
  | _ => s

def createStep (s : RegisterRace) (i : Nat) (t : RegisterTx) : RegisterPhase → RegisterRace
  | .read game cheeringTeam =>
    match newRegisteredGame s.db (saveInput t.dto game cheeringTeam t.userId) t.newId with
    | .error _ => s.setPhase i .ended
    | .ok row => s.setPhase i (.created game row)
  | _ => s

def insertStep (s : RegisterRace) (i : Nat) : RegisterPhase → RegisterRace
  | .created game row =>
    if s.blocked row then s
    else
      match s.db.insertRegisteredGame row with
      | .error _ => s.setPhase i .ended
      | .ok _ => s.setPhase i (.inserted game row)
  | _ => s

def commitStep (s : RegisterRace) (i : Nat) : RegisterPhase → RegisterRace
  | .inserted game row =>
    match commitRegistration s.db game row with
    | .error _ => s.setPhase i .ended
    | .ok db => { s.setPhase i .ended with db }
  | _ => s

/-- The request an event is about, if there is one. -/
def onRequest (s : RegisterRace) (i : Nat) (f : RegisterTx → RegisterRace) : RegisterRace :=
  s.requests[i]?.elim s f

def step (gameId : String) (input : UpdateGameScoreInput) (s : RegisterRace) :
    RegisterEvent → RegisterRace
  | .poll => { s with db := (pollStep gameId input s.db s.poll).1,
                      poll := (pollStep gameId input s.db s.poll).2 }
  | .request dto userId newId =>
    { s with requests := s.requests ++ [⟨dto, userId, newId, .started⟩] }
  | .read i => s.onRequest i fun t => s.readStep i t t.phase
  | .create i => s.onRequest i fun t => s.createStep i t t.phase
  | .insert i => s.onRequest i fun t => s.insertStep i t.phase
  | .commit i => s.onRequest i fun t => s.commitStep i t.phase
  | .abort i => s.setPhase i .ended

/-- The poll is over, and every request has committed or was rolled back. -/
def Completed (s : RegisterRace) : Prop :=
  s.poll = .finished ∧ ∀ t ∈ s.requests, t.phase = .ended

end RegisterRace

end VictoryFairy
