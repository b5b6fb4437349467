import VictoryFairy.Lib.Runs

/-!
# `RedisThrottlerStorageService`

`increment` sends `INCR`, and `EXPIRE` when the answer was `1`.  The commands of concurrent
calls interleave; a command that fails is not executed and rejects its call.  Times are
milliseconds, `ttl` is in seconds.
-/

namespace VictoryFairy

/-- The counter key in Redis. -/
structure HitCounter where
  hits : Nat
  expireAt : Option Nat
deriving DecidableEq, Repr

structure ThrottlerStorageRecord where
  totalHits : Nat
  isBlocked : Bool
  timeToExpire : Nat
  timeToBlockExpire : Nat
deriving DecidableEq, Repr

/-- Where a call of `increment` is: `now` is its `Date.now()`. -/
inductive IncrementCall where
  | incr (now : Nat)
  | expire (now hits : Nat)
  | returned (record : ThrottlerStorageRecord)
  | rejected
deriving DecidableEq, Repr

/-- What `increment` was called with. -/
structure ThrottleOptions where
  ttl : Nat
  limit : Nat
  blockDuration : Nat

structure ThrottleRun where
  time : Nat
  counter : Option HitCounter
  calls : List IncrementCall
deriving DecidableEq

inductive ThrottleEvent where
  | call
  | incr (i : Nat) (fails : Bool)
  | expire (i : Nat) (fails : Bool)
  | elapse (ms : Nat)
deriving DecidableEq, Repr

namespace ThrottleOptions

/-- The record a call returns. -/
def record (o : ThrottleOptions) (now hits : Nat) : ThrottlerStorageRecord where
  totalHits := hits
  isBlocked := hits > o.limit
  timeToExpire := now + o.ttl * 1000
  timeToBlockExpire := o.blockDuration

/-- What a call does after the answer of `INCR`. -/
def afterIncr (o : ThrottleOptions) (now hits : Nat) : IncrementCall :=
  if hits = 1 then .expire now hits else .returned (o.record now hits)

end ThrottleOptions

namespace ThrottleRun

def init : ThrottleRun := ⟨0, none, []⟩

/-- The counter, unless its time is over. -/
def live (s : ThrottleRun) : Option HitCounter :=
  s.counter.filter fun c => c.expireAt.all fun t => s.time < t

/-- `INCR`: `1` for a key that is missing; the expiry stays. -/
def incremented (s : ThrottleRun) : HitCounter :=
  match s.live with
  | none => { hits := 1, expireAt := none }
  | some c => { c with hits := c.hits + 1 }

/-- `EXPIRE` -/
def expired (s : ThrottleRun) (ttl : Nat) : Option HitCounter :=
  s.live.map fun c => { c with expireAt := some (s.time + ttl * 1000) }

/-- A command of a call that is not about to send it does nothing. -/
def step (o : ThrottleOptions) (s : ThrottleRun) : ThrottleEvent → ThrottleRun
  | .call => { s with calls := s.calls ++ [.incr s.time] }
  | .incr i fails =>
    match s.calls[i]? with
    | some (.incr now) =>
      if fails then { s with calls := s.calls.set i .rejected }
      else
        { s with
          counter := some s.incremented
          calls := s.calls.set i (o.afterIncr now s.incremented.hits) }
    | _ => s
  | .expire i fails =>
    match s.calls[i]? with
    | some (.expire now hits) =>
      if fails then { s with calls := s.calls.set i .rejected }
      else
        { s with
          counter := s.expired o.ttl
          calls := s.calls.set i (.returned (o.record now hits)) }
    | _ => s
  | .elapse ms => { s with time := s.time + ms }

/-- A request that nothing interrupts. -/
def request (o : ThrottleOptions) (s : ThrottleRun) : ThrottleRun :=
  Runs.run (step o) s [.call, .incr s.calls.length false, .expire s.calls.length false]

end ThrottleRun

end VictoryFairy
