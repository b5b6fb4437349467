import Mathlib.Data.List.Sort
import VictoryFairy.Model.Redis

/-!
# The ranking endpoint

`RankApplicationQueryService` reads a range of a sorted set and joins it with the
cached profiles.  A missing `id` in a profile hash throws.
-/

namespace VictoryFairy

/-! ## Ranges of a sorted set -/

/-- The order of `ZREVRANGE`: the higher score first, the greater member among equals. -/
def precedes (a b : Nat × Int) : Prop :=
  b.2 < a.2 ∨ (a.2 = b.2 ∧ toString b.1 ≤ toString a.1)

instance : DecidableRel precedes := fun a b =>
  inferInstanceAs (Decidable (b.2 < a.2 ∨ (a.2 = b.2 ∧ toString b.1 ≤ toString a.1)))

def reversed (z : ZSet) : List (Nat × Int) := z.rows.insertionSort precedes

/-- A negative index counts from the end. -/
def zrevrange (z : ZSet) (start stop : Int) : List (Nat × Int) :=
  let len : Int := z.rows.length
  let first := max (if start < 0 then len + start else start) 0
  let last := if stop < 0 then len + stop else stop
  if last < first then [] else ((reversed z).drop first.toNat).take (last - first + 1).toNat

def zrevrank (z : ZSet) (member : Nat) : Option Nat :=
  (reversed z).findIdx? fun e => e.1 == member

/-! ## The services -/

structure RefinedRankData where
  rank : Int
  userId : Nat
  score : Int
deriving DecidableEq, Repr

structure UserProfile where
  id : Nat
  nickname : Option String
  profileImage : Option String
deriving DecidableEq, Repr

structure RefinedRankDataWithProfile where
  rank : Int
  score : Int
  userId : Nat
  nickname : Option String
  profileImage : Option String
deriving DecidableEq, Repr

structure UserStatsResDto where
  userId : Nat
  totalGames : Nat
  win : Nat
deriving DecidableEq, Repr

structure RankNearbyResDto where
  nearBy : List RefinedRankDataWithProfile
  user : UserStatsResDto
deriving DecidableEq, Repr

namespace Redis

/-- The entries are numbered from `start + 1`, also when `start` is negative. -/
def getRefinedRankDataFromRedis (redis : Redis) (start stop : Int) (k : RankingKey) :
    List RefinedRankData :=
  (zrevrange (redis.rankings k) start stop).mapIdx fun i e =>
    { rank := start + 1 + i, userId := e.1, score := RankScoreVo.toDisplayScore e.2 }

/-- One turn of the loop; `parsedInfo` has the last entry of a key first. -/
def parseUserInfo (redis : Redis) (parsedInfo : List UserProfile) (userId : Nat) :
    Except AppError (List UserProfile) :=
  match (redis.userInfo userId).id with
  | none => .error .typeError
  | some id =>
    .ok ({ id, nickname := (redis.userInfo userId).nickname,
           profileImage := (redis.userInfo userId).profileImage } :: parsedInfo)

def getUserInfoByIds (redis : Redis) (userIds : List Nat) : Except AppError (List UserProfile) :=
  userIds.foldlM redis.parseUserInfo []

def concatRankDataWithUserProfile (redis : Redis) (rankData : List RefinedRankData) :
    Except AppError (List RefinedRankDataWithProfile) := do
  let userHashmap ← redis.getUserInfoByIds (rankData.map RefinedRankData.userId)
  rankData.mapM fun d =>
    match userHashmap.find? fun p => p.id == d.userId with
    | none => .error .typeError
    | some p =>
      .ok { rank := d.rank, score := d.score, userId := d.userId, nickname := p.nickname,
            profileImage := p.profileImage }

def getRankList (redis : Redis) (start stop : Int) (k : RankingKey) :
    Except AppError (List RefinedRankDataWithProfile) :=
  redis.concatRankDataWithUserProfile (redis.getRefinedRankDataFromRedis start stop k)

def getUserNearByWithUserStats (redis : Redis) (db : Db) (userId : Nat) (k : RankingKey) :
    Except AppError RankNearbyResDto := do
  let total := (aggregateRankStatsByUserId db userId).bind fun data => data.get .total
  let user : UserStatsResDto :=
    { userId, totalGames := total.elim 0 (·.getTotalCount), win := total.elim 0 (·.getWinCount) }
  match zrevrank (redis.rankings k) userId with
  | none => return { nearBy := [], user }
  | some userRank =>
    let nearBy ← redis.concatRankDataWithUserProfile
      (redis.getRefinedRankDataFromRedis (max ((userRank : Int) - 1) 0) (userRank + 1) k)
    return { nearBy, user }

end Redis

end VictoryFairy
