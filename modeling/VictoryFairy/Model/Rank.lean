import VictoryFairy.Model.RegisteredGame

/-!
# The `Rank` entity and the score of a record

One `Rank` row counts the settled registrations of a user with one cheering
team in one year.  `RankScoreVo` packs a record into the integer that Redis
sorts by.
-/

namespace VictoryFairy

/-- The counter columns, the values of `GameResultColumnMap`. -/
inductive RankColumn where
  | win
  | lose
  | tie
  | cancel
deriving DecidableEq, Repr

def GameResultColumnMap : RegisteredGameStatus → RankColumn
  | .win => .win
  | .lose => .lose
  | .tie => .tie
  | .noGame => .cancel

/-- The columns of the unique constraint of `rank`. -/
structure RankKey where
  user : Nat
  teamId : Nat
  activeYear : Nat
deriving DecidableEq, Repr

structure Rank where
  user : Nat
  teamId : Nat
  activeYear : Nat
  win : Nat
  lose : Nat
  tie : Nat
  cancel : Nat
deriving DecidableEq, Repr

namespace Rank

def key (r : Rank) : RankKey := ⟨r.user, r.teamId, r.activeYear⟩

/-- `this[column]` -/
def get (r : Rank) : RankColumn → Nat
  | .win => r.win
  | .lose => r.lose
  | .tie => r.tie
  | .cancel => r.cancel

def set (r : Rank) (n : Nat) : RankColumn → Rank
  | .win => { r with win := n }
  | .lose => { r with lose := n }
  | .tie => { r with tie := n }
  | .cancel => { r with cancel := n }

def validateDomain (r : Rank) : Except AppError Unit :=
  if r.teamId = 0 ∨ r.teamId > 10 then .error (.rank .invalidTeamId)
  else if r.user = 0 then .error (.rank .invalidUserId)
  else if r.activeYear = 0 then .error (.rank .invalidActiveYear)
  else .ok ()

/-- The services always call it without `records`. -/
def create (k : RankKey) : Except AppError Rank := do
  let rank : Rank :=
    { user := k.user, teamId := k.teamId, activeYear := k.activeYear,
      win := 0, lose := 0, tie := 0, cancel := 0 }
  rank.validateDomain
  return rank

/-- `column` is `undefined` for a `null` status: then the entity gets a property
that is no column, and no column changes. -/
def adjustRecord (r : Rank) (column : Option RankColumn) (isAdd : Bool) : Except AppError Rank :=
  match column with
  | none => .ok r
  | some c =>
    if isAdd then .ok (r.set (r.get c + 1) c)
    else if r.get c = 0 then .error (.rank .invalidRecordDecrease)
    else .ok (r.set (r.get c - 1) c)

def getTotalCount (r : Rank) : Nat := r.win + r.lose + r.tie + r.cancel

end Rank

/-! ## `RankScoreVo` -/

structure RankScoreVo where
  win : Nat
  lose : Nat
  tie : Nat
  cancel : Nat
deriving DecidableEq, Repr

namespace RankScoreVo

def BASE_SCORE : Int := 1000
def SCORE_MULTIPLIER : Int := 10
def SCALE_FACTOR : Int := 10000

def add (v : RankScoreVo) (others : List RankScoreVo) : RankScoreVo :=
  others.foldl (fun acc o =>
    ⟨acc.win + o.win, acc.lose + o.lose, acc.tie + o.tie, acc.cancel + o.cancel⟩) v

def getTotalCount (v : RankScoreVo) : Nat := v.win + v.lose + v.tie + v.cancel

def getWinCount (v : RankScoreVo) : Nat := v.win

def getIntegerScoreForRedis (v : RankScoreVo) : Int :=
  let rawScore := BASE_SCORE + ((v.win : Int) - v.lose) * SCORE_MULTIPLIER
  let scaledScore := rawScore * SCALE_FACTOR
  scaledScore + v.getTotalCount

/-- `Math.floor(score / SCALE_FACTOR)`, on the stored number. -/
def toDisplayScore (storedScore : Int) : Int := storedScore.fdiv SCALE_FACTOR

end RankScoreVo

/-! ## Lemmas -/

theorem GameResultColumnMap_injective : Function.Injective GameResultColumnMap := by
  intro a b h
  cases a <;> cases b <;> first | rfl | cases h

namespace Rank

@[simp] theorem key_set (r : Rank) (n : Nat) (c : RankColumn) : (r.set n c).key = r.key := by
  cases c <;> rfl

@[simp] theorem get_set (r : Rank) (n : Nat) (c c' : RankColumn) :
    (r.set n c).get c' = if c = c' then n else r.get c' := by
  cases c <;> cases c' <;> rfl

/-- A created row has the key it was asked for and counts nothing. -/
theorem create_ok {k : RankKey} {r : Rank} (h : create k = .ok r) :
    r.key = k ∧ (∀ c, r.get c = 0) ∧ 1 ≤ k.teamId ∧ k.teamId ≤ 10 := by
  unfold create validateDomain at h
  simp only [bind, Except.bind, pure, Except.pure] at h
  split at h
  · cases h
  · next hv =>
    split at hv
    · cases hv
    · next ht =>
      cases h
      exact ⟨rfl, fun c => by cases c <;> rfl, by omega, by omega⟩

/-- What `adjustRecord` does when it succeeds, column by column. -/
theorem adjustRecord_ok {r r' : Rank} {column : Option RankColumn} {isAdd : Bool}
    (h : r.adjustRecord column isAdd = .ok r') :
    r'.key = r.key ∧ ∀ c, if column = some c then
        (if isAdd then r'.get c = r.get c + 1 else r.get c = r'.get c + 1)
      else r'.get c = r.get c := by
  unfold adjustRecord at h
  cases column with
  | none => cases h; exact ⟨rfl, fun c => by simp⟩
  | some d =>
    cases isAdd with
    | true =>
      simp only [if_true] at h
      cases h
      refine ⟨key_set _ _ _, fun c => ?_⟩
      by_cases hc : d = c <;> simp [hc]
    | false =>
      simp only [Bool.false_eq_true, if_false] at h
      split at h
      · cases h
      · next hz =>
        cases h
        refine ⟨key_set _ _ _, fun c => ?_⟩
        by_cases hc : d = c
        · subst hc; simp; omega
        · simp [hc]

/-- A decrease is only rejected on an empty column. -/
theorem adjustRecord_dec {r : Rank} {c : RankColumn} (h : r.get c ≠ 0) :
    r.adjustRecord (some c) false = .ok (r.set (r.get c - 1) c) := by
  simp [adjustRecord, h]

end Rank

end VictoryFairy
