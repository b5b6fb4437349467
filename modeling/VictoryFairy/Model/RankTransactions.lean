import Mathlib.Algebra.Ring.Int.Defs
import VictoryFairy.Model.Hooks

/-!
# Requests as READ COMMITTED transactions

`register`, `update` and `delete` of one user, each in a transaction of its own: it
first changes its registration row and then makes its rank updates one by one, each
in steps.  `findOne` returns the row as last committed, or as written by the
transaction itself; `save` loads the row again, compares and sends an `UPDATE` of
the columns that differ (an `INSERT` when there was no row).  A row written by a
transaction is locked until it ends: another write of the same key waits.

What a transaction has written is in its `buffer` until `commit`.
-/

namespace VictoryFairy

/-! ## The registration row of a request -/

inductive RegChange where
  | insert (row : RegisteredGame)
  | replace (old new : RegisteredGame)
  | remove (old : RegisteredGame)
deriving DecidableEq, Repr

namespace RegChange

/-- The row the change starts from. -/
def old : RegChange → Option RegisteredGame
  | .insert _ => none
  | .replace old _ => some old
  | .remove old => some old

/-- The row it leaves. -/
def new : RegChange → Option RegisteredGame
  | .insert row => some row
  | .replace _ new => some new
  | .remove _ => none

def id : RegChange → Nat
  | .insert row => row.id
  | .replace old _ => old.id
  | .remove old => old.id

def game : RegChange → String
  | .insert row => row.game
  | .replace old _ => old.game
  | .remove old => old.game

def apply (db : Db) : RegChange → Db
  | .insert row => db.withRegisteredGames (db.registeredGames.save row)
  | .replace _ new => db.withRegisteredGames (db.registeredGames.save new)
  | .remove old => db.removeRegisteredGame old.id

end RegChange

/-- Everything a request does before its rank updates, and the updates it will make.  The
stadium that `register` reads at its end is looked up here: games do not change. -/
def RegistrationRequest.begin (userId : Nat) (db : Db) :
    RegistrationRequest → Except AppError (RegChange × List RankUpdate)
  | .register dto newId => do
    let game ← getOneGame db dto.gameId
    let cheeringTeam ← findOneTeam db dto.cheeringTeamId
    let (_, saved) ← saveRegistration db (saveInput dto game cheeringTeam userId) newId
    match db.stadiums.find? game.stadium with
    | none => throw .typeError
    | some _ => return (.insert saved, registerUpdates saved game.date.getFullYear)
  | .update id dto => do
    let (old, _, changed) ← editedRegistration db id dto userId
    let (_, result) ← updateRegistration db id dto userId
    return (.replace old changed, result.teamCtx.rankUpdates userId)
  | .delete id => do
    let (old, _) ← findRegistration db id userId
    let (_, result) ← deleteRegistration db id userId
    return (.remove old, result.gameCtx.rankUpdates userId)

/-! ## Transactions -/

/-- Where `updateRankRecord` is: `findOne` has returned `row`; `save` is about to insert
`target`, or to set the columns in which `target` differed from the row loaded again. -/
inductive SavePhase where
  | idle
  | found (row : Option Rank)
  | insert (target : Rank)
  | update (row target : Rank) (columns : List RankColumn)
deriving DecidableEq, Repr

structure Tx where
  change : RegChange
  updates : List RankUpdate
  /-- the number of updates made -/
  next : Nat
  phase : SavePhase
  buffer : List Rank
deriving DecidableEq, Repr

def changedColumns (target loaded : Rank) : List RankColumn :=
  [.win, .lose, .tie, .cancel].filter fun c => target.get c ≠ loaded.get c

/-- `UPDATE … SET` the columns to the target's values. -/
def Rank.setColumns (row target : Rank) (columns : List RankColumn) : Rank :=
  columns.foldl (fun row c => row.set (target.get c) c) row

namespace Tx

def current (t : Tx) : Option RankUpdate := t.updates[t.next]?

/-- A rank row as the transaction's next statement sees it. -/
def visible (db : Db) (t : Tx) (k : RankKey) : Option Rank := (db.ranks.saveAll t.buffer).find? k

/-- The current update is made; `rows` were written for it. -/
def advance (t : Tx) (rows : List Rank) : Tx :=
  { t with next := t.next + 1, phase := .idle, buffer := t.buffer ++ rows }

/-- The registration, then the rank rows. -/
def apply (db : Db) (t : Tx) : Db :=
  (t.change.apply db).withRanks (db.ranks.saveAll t.buffer)

end Tx

/-- The committed database, and the transactions in the order of their start, `none` for
those that have ended. -/
structure RankRace where
  db : Db
  txs : List (Option Tx)

inductive TxEvent where
  | begin (r : RegistrationRequest)
  | find (i : Nat)
  | load (i : Nat)
  | write (i : Nat)
  | commit (i : Nat)
  | abort (i : Nat)
deriving DecidableEq, Repr

namespace RankRace

def tx (s : RankRace) (i : Nat) : Option Tx := s.txs[i]?.getD none

def setTx (s : RankRace) (i : Nat) (t : Option Tx) : RankRace := { s with txs := s.txs.set i t }

/-- Requests in flight are on different games, and the sequence hands out an id once. -/
def inUse (s : RankRace) (change : RegChange) : Bool :=
  s.txs.any fun t => t.any fun t => t.change.id = change.id || t.change.game = change.game

/-- Another transaction has written the row. -/
def locked (s : RankRace) (i : Nat) (k : RankKey) : Bool :=
  s.txs.zipIdx.any fun e => decide (e.2 ≠ i) && e.1.any fun t => t.buffer.any fun r => r.key = k

def findStep (s : RankRace) (i : Nat) (t : Tx) : RankRace :=
  match t.current, t.phase with
  | some u, .idle => s.setTx i (some { t with phase := .found (t.visible s.db u.1.key) })
  | _, _ => s

/-- `adjustRecord`, and the load at the start of `save`. -/
def loadStep (s : RankRace) (i : Nat) (t : Tx) : RankRace :=
  match t.current, t.phase with
  | some u, .found row =>
    match adjustedRank row u.1 u.2 with
    | .error _ => s.setTx i none
    | .ok target =>
      match row, t.visible s.db u.1.key with
      | some row, some loaded =>
        s.setTx i (some { t with phase := .update row target (changedColumns target loaded) })
      | _, _ => s.setTx i (some { t with phase := .insert target })
  | _, _ => s

/-- The statement of `save`; without a column to set none is sent. -/
def writeStep (s : RankRace) (i : Nat) (t : Tx) : RankRace :=
  match t.current, t.phase with
  | some u, .insert target =>
    if s.locked i u.1.key then s
    else if (t.visible s.db u.1.key).isSome || (s.db.users.find? target.user).isNone then
      s.setTx i none
    else s.setTx i (some (t.advance [target]))
  | some u, .update _ target columns =>
    if columns = [] then s.setTx i (some (t.advance []))
    else if s.locked i u.1.key then s
    else
      match t.visible s.db u.1.key with
      | none => s.setTx i (some (t.advance []))
      | some row => s.setTx i (some (t.advance [row.setColumns target columns]))
  | _, _ => s

def commitStep (s : RankRace) (i : Nat) (t : Tx) : RankRace :=
  if t.current = none then { db := t.apply s.db, txs := s.txs.set i none } else s

/-- Every request has committed or was rolled back. -/
def Finished (s : RankRace) : Prop := ∀ t ∈ s.txs, t = none

/-- An event of a transaction that has ended, or is elsewhere, changes nothing. -/
def step (userId : Nat) (s : RankRace) : TxEvent → RankRace
  | .begin r =>
    match r.begin userId s.db with
    | .error _ => s
    | .ok (change, updates) =>
      if s.inUse change then s
      else { s with txs := s.txs ++ [some ⟨change, updates, 0, .idle, []⟩] }
  | .find i => (s.tx i).elim s (s.findStep i)
  | .load i => (s.tx i).elim s (s.loadStep i)
  | .write i => (s.tx i).elim s (s.writeStep i)
  | .commit i => (s.tx i).elim s (s.commitStep i)
  | .abort i => s.setTx i none

end RankRace

end VictoryFairy
