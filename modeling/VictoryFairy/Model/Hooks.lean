import VictoryFairy.Model.Application
import VictoryFairy.Model.RankingQuery

/-!
# Post-commit work in steps

A hook reads the database and works on Redis after its request has committed, so
the steps of several hooks and of `deleteUser` may alternate in any order.

* `HookRun`: the requests of one user, each hook with its read and its write.
* `RedisRace`: any number of processes, each a list of Redis commands.
-/

namespace VictoryFairy

/-! ## The hooks of one user's requests -/

inductive RegistrationRequest where
  | register (dto : CreateRegisteredGameDto) (newId : Nat)
  | update (id : Nat) (dto : UpdateRegisteredGameInput)
  | delete (id : Nat)
deriving DecidableEq, Repr

/-- The database a request commits, and whether its hook refreshes the rankings. -/
def RegistrationRequest.commit (userId : Nat) (db : Db) :
    RegistrationRequest → Except AppError (Db × Bool)
  | .register dto newId => do
    let (db, _) ← VictoryFairy.register db dto userId newId
    return (db, true)
  | .update id dto => do
    let (db, result) ← VictoryFairy.update db id dto userId
    return (db, result.teamCtx.isChanged)
  | .delete id => do
    let (db, result) ← VictoryFairy.delete db id userId
    return (db, result.gameCtx.status ≠ none)

/-- `version` counts the hooks there were when the rank table was read. -/
inductive Hook where
  | pending
  | read (version : Nat) (data : Option AggregatedRankStats)
  | written (version : Nat)

structure HookRun where
  db : Db
  redis : Redis
  hooks : List Hook

inductive HookEvent where
  | request (r : RegistrationRequest)
  | outcomes (f : GameRow → Outcome)
  | read (i : Nat)
  | write (i : Nat)

namespace HookRun

/-- A hook that is not where the event needs it, and a rejected request, change nothing.
`updateRankings` of `undefined` throws before a command is sent. -/
def step (userId : Nat) (s : HookRun) : HookEvent → HookRun
  | .request r =>
    match r.commit userId s.db with
    | .error _ => s
    | .ok (db, refresh) =>
      { s with db, hooks := if refresh then s.hooks ++ [.pending] else s.hooks }
  | .outcomes f => { s with db := s.db.setOutcomes f }
  | .read i =>
    match s.hooks[i]? with
    | some .pending =>
      let data := aggregateRankStatsByUserId s.db userId
      { s with hooks := s.hooks.set i (.read s.hooks.length data) }
    | _ => s
  | .write i =>
    match s.hooks[i]? with
    | some (.read version data) =>
      { s with
        redis := data.elim s.redis (s.redis.updateRankings userId)
        hooks := s.hooks.set i (.written version) }
    | _ => s

end HookRun

/-! ## Redis commands of several processes -/

inductive RedisCommand where
  | hset (user : User)
  | zadd (k : RankingKey) (score : Int) (member : Nat)
  | del (userId : Nat)
  | zrem (k : RankingKey) (member : Nat)
deriving DecidableEq, Repr

def RedisCommand.exec (redis : Redis) : RedisCommand → Redis
  | .hset user => redis.saveUsers [user]
  | .zadd k score member => redis.zadd k score member
  | .del userId => redis.deleteUser userId
  | .zrem k member => redis.zrem k member

/-- Hooks with the aggregate they have read, and `deleteUser` with its list of teams. -/
inductive RedisProcess where
  | signUpHook (user : User) (data : AggregatedRankStats)
  | requestHook (userId : Nat) (data : AggregatedRankStats)
  | deleteUser (userId : Nat) (teamIds : List Nat)
deriving DecidableEq, Repr

def updateRankingsCommands (userId : Nat) (data : AggregatedRankStats) : List RedisCommand :=
  data.map fun e => .zadd e.1 e.2.getIntegerScoreForRedis userId

def RedisProcess.commands : RedisProcess → List RedisCommand
  | .signUpHook user data => .hset user :: updateRankingsCommands user.id data
  | .requestHook userId data => updateRankingsCommands userId data
  | .deleteUser userId teamIds =>
    .del userId :: .zrem .total userId :: teamIds.map fun teamId => .zrem (.team teamId) userId

structure RedisRace where
  redis : Redis
  /-- the commands each started process has still to send -/
  running : List (List RedisCommand)

inductive RaceEvent where
  | start (p : RedisProcess)
  | advance (i : Nat)
deriving DecidableEq, Repr

namespace RedisRace

def init : RedisRace := ⟨.empty, []⟩

/-- The command the `i`-th process sends next. -/
def nextCommand (s : RedisRace) (i : Nat) : Option RedisCommand := s.running[i]?.bind List.head?

def step (s : RedisRace) : RaceEvent → RedisRace
  | .start p => { s with running := s.running ++ [p.commands] }
  | .advance i =>
    match s.nextCommand i with
    | none => s
    | some c =>
      { redis := c.exec s.redis, running := s.running.modify i List.tail }

end RedisRace

end VictoryFairy
