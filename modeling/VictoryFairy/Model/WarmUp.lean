import VictoryFairy.Model.Hooks

/-!
# Warming the cache up

When Redis is ready, and once more when the application has started, an event makes
`initCacheUsers` write every user's profile; its own event then makes `initRankCaching`
write every user's rankings, all of them at the same time.  A run of the two is in one
of these phases; the runs that were started take their steps in any order.
-/

namespace VictoryFairy

/-- One user of `Promise.all` in `initRankCaching`. -/
structure RankCaching where
  userId : Nat
  /-- the commands to send; `none` before the rank table was read -/
  commands : Option (List RedisCommand)
deriving DecidableEq, Repr

inductive WarmUp where
  | connected
  /-- the pipeline of `saveUsers`, and what of it is to be sent -/
  | caching (users : List User) (commands : List RedisCommand)
  | ranking (users : List RankCaching)
  | ended
deriving DecidableEq, Repr

structure WarmUps where
  db : Db
  redis : Redis
  runs : List WarmUp

inductive WarmUpEvent where
  | ready (pong : Bool)
  | findUsers (run : Nat)
  | saveUser (run : Nat)
  | cachedUsers (run : Nat)
  | aggregate (run i : Nat)
  | zadd (run i : Nat)
  /-- requests work on the database -/
  | write (db : Db)

namespace WarmUp

/-- `initCacheUsers`, up to the commands. -/
def initCacheUsers (db : Db) : WarmUp :=
  let users := db.users.rows
  if users = [] then .ended else .caching users (users.map .hset)

def initRankCaching (userIdsArr : List Nat) : WarmUp :=
  if userIdsArr = [] then .ended else .ranking (userIdsArr.map fun userId => ⟨userId, none⟩)

end WarmUp

/-- A user without rank rows has no commands. -/
def RankCaching.aggregate (db : Db) (t : RankCaching) : RankCaching :=
  match t.commands with
  | none =>
    let data := aggregateRankStatsByUserId db t.userId
    { t with commands := some (data.elim [] (updateRankingsCommands t.userId)) }
  | some _ => t

namespace WarmUps

/-- `initializeCacheOnRedisReady`: the event is emitted when the ping is answered. -/
def initializeCacheOnRedisReady (s : WarmUps) (pong : Bool) : WarmUps :=
  if pong then { s with runs := s.runs ++ [.connected] } else s

/-- The commands of the pipeline are sent one after the other. -/
def saveUser (s : WarmUps) (run : Nat) : WarmUps :=
  match s.runs[run]? with
  | some (.caching users (c :: commands)) =>
    { s with redis := c.exec s.redis, runs := s.runs.set run (.caching users commands) }
  | _ => s

/-- `CACHED_USERS` is emitted when the whole pipeline was executed. -/
def cachedUsers (s : WarmUps) (run : Nat) : WarmUps :=
  match s.runs[run]? with
  | some (.caching users []) =>
    { s with runs := s.runs.set run (.initRankCaching (users.map User.id)) }
  | _ => s

def aggregate (s : WarmUps) (run i : Nat) : WarmUps :=
  match s.runs[run]? with
  | some (.ranking users) =>
    { s with runs := s.runs.set run (.ranking (users.modify i (RankCaching.aggregate s.db))) }
  | _ => s

def zadd (s : WarmUps) (run i : Nat) : WarmUps :=
  match s.runs[run]? with
  | some (.ranking users) =>
    match users[i]? with
    | some ⟨userId, some (c :: commands)⟩ =>
      { s with
        redis := c.exec s.redis
        runs := s.runs.set run (.ranking (users.set i ⟨userId, some commands⟩)) }
    | _ => s
  | _ => s

def step (s : WarmUps) : WarmUpEvent → WarmUps
  | .ready pong => s.initializeCacheOnRedisReady pong
  | .findUsers run =>
    match s.runs[run]? with
    | some .connected => { s with runs := s.runs.set run (.initCacheUsers s.db) }
    | _ => s
  | .saveUser run => s.saveUser run
  | .cachedUsers run => s.cachedUsers run
  | .aggregate run i => s.aggregate run i
  | .zadd run i => s.zadd run i
  | .write db => { s with db }

/-- The run has nothing left to do. -/
def Done : WarmUp → Prop
  | .connected | .caching _ _ => False
  | .ranking users => ∀ t ∈ users, t.commands = some []
  | .ended => True

instance decidableDone : DecidablePred Done
  | .connected => isFalse id
  | .caching _ _ => isFalse id
  | .ranking users => inferInstanceAs (Decidable (∀ t ∈ users, t.commands = some []))
  | .ended => isTrue trivial

/-- A run was started, and all are done. -/
def Completed (s : WarmUps) : Prop := s.runs ≠ [] ∧ ∀ r ∈ s.runs, Done r

end WarmUps

end VictoryFairy
