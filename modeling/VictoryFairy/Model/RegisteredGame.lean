import VictoryFairy.Model.Game

/-!
# The `RegisteredGame` entity

A user's registration of a game with the team they cheered for.  The status is
`null` (`none`) while the game is undecided; `determineStatus` computes it from
the game's status text and winner.

    resultOf row team = the status `determineStatus` gives for a stored game row
    isDecided status  = `determineStatus` assigns some status   (isDecided_iff)
-/

namespace VictoryFairy

inductive RegisteredGameStatus where
  | win
  | lose
  | tie
  | noGame
deriving DecidableEq, Repr

/-- The text stored in the column. -/
def RegisteredGameStatus.text : RegisteredGameStatus → String
  | .win => "Win"
  | .lose => "Lose"
  | .tie => "Tie"
  | .noGame => "No game"

def groundCondition : String := "그라운드사정"
def otherReason : String := "기타"

/-- `x || null` on an id: `0` and `undefined` become `null`. -/
def orNull (id : Option Nat) : Option Nat := id.filter fun n => n ≠ 0

/-- The status the method assigns, as a function of its argument and of the id
of the cheering team. -/
def determineStatus (status : String) (winnerTeamId : Option Nat) (cheeringTeam : Nat) :
    Option RegisteredGameStatus :=
  if isCanceled status ∨ status = groundCondition ∨ status = otherReason then some .noGame
  else if status = finished then
    match orNull winnerTeamId with
    | none => some .tie
    | some w => some (if w = cheeringTeam then .win else .lose)
  else none

/-- A status text that decides the game. -/
def isDecided (status : String) : Bool :=
  isCanceled status || status == groundCondition || status == otherReason || status == finished

structure RegisteredGame where
  id : Nat
  image : Option String
  seat : String
  review : String
  status : Option RegisteredGameStatus
  game : String
  user : Nat
  cheeringTeam : Nat
deriving DecidableEq, Repr

namespace RegisteredGame

/-- The columns take the texts. -/
def HasTexts (r : RegisteredGame) : Prop :=
  IsText r.seat ∧ IsText r.review ∧ ∀ image ∈ r.image, IsText image

instance (r : RegisteredGame) : Decidable r.HasTexts := inferInstanceAs (Decidable (_ ∧ _ ∧ _))

/-- `user` and `game` are always the objects `create` has just assigned. -/
def validateDomain (r : RegisteredGame) : Except AppError Unit :=
  if r.cheeringTeam = 0 then .error (.registeredGame .cheeringTeamRequired)
  else if r.seat = "" then .error (.registeredGame .seatRequired)
  else if r.review = "" then .error (.registeredGame .reviewRequired)
  else .ok ()

def validateCheeringTeam (r : RegisteredGame) (homeTeamId awayTeamId : Nat) :
    Except AppError Unit :=
  if r.cheeringTeam ≠ homeTeamId ∧ r.cheeringTeam ≠ awayTeamId then
    .error (.registeredGame .invalidCheeringTeam)
  else .ok ()

structure CreateProps where
  image : Option String
  seat : String
  review : String
  userId : Nat
  cheeringTeamId : Nat
  gameId : String
  homeTeamId : Nat
  awayTeamId : Nat
deriving DecidableEq, Repr

/-- `id` is what the sequence hands out when the entity is inserted. -/
def create (id : Nat) (props : CreateProps) : Except AppError RegisteredGame := do
  let registeredGame : RegisteredGame :=
    { id, image := props.image, seat := props.seat, review := props.review, status := none,
      game := props.gameId, user := props.userId, cheeringTeam := props.cheeringTeamId }
  registeredGame.validateDomain
  registeredGame.validateCheeringTeam props.homeTeamId props.awayTeamId
  return registeredGame

def updateReviewAndSeat (r : RegisteredGame) (review seat : String) : RegisteredGame :=
  if r.review = review ∧ r.seat = seat then r else { r with review, seat }

/-- An `undefined` image (outer `none`) is assigned too, and leaves the stored
column alone when the entity is saved. -/
def updateImage (r : RegisteredGame) (image : Option (Option String)) : RegisteredGame :=
  match image with
  | none => r
  | some image => if r.image = image then r else { r with image }

def changeStatusWhenCheeringTeamChanged (r : RegisteredGame) : RegisteredGame :=
  if r.status = some .win then { r with status := some .lose }
  else if r.status = some .lose then { r with status := some .win }
  else r

def updateCheeringTeam (r : RegisteredGame) (cheeringTeamId homeTeamId awayTeamId : Nat) :
    Except AppError RegisteredGame :=
  if r.cheeringTeam = cheeringTeamId then .ok r
  else do
    let r := { r with cheeringTeam := cheeringTeamId }
    r.validateCheeringTeam homeTeamId awayTeamId
    return r.changeStatusWhenCheeringTeamChanged

end RegisteredGame

/-- The status `determineStatus` gives for a stored game and a cheering team. -/
def GameRow.resultOf (row : GameRow) (team : Nat) : Option RegisteredGameStatus :=
  determineStatus row.status (orNull row.winningTeam) team

/-! ## Lemmas -/

@[simp] theorem orNull_orNull (id : Option Nat) : orNull (orNull id) = orNull id := by
  cases id with
  | none => rfl
  | some n => by_cases h : n = 0 <;> simp [orNull, Option.filter, h]

theorem determineStatus_orNull (status : String) (winner : Option Nat) (team : Nat) :
    determineStatus status (orNull winner) team = determineStatus status winner team := by
  simp [determineStatus]

/-- `determineStatus` assigns a status exactly for the decided texts, whatever the
winner and the team. -/
theorem isDecided_iff (status : String) (winner : Option Nat) (team : Nat) :
    isDecided status = true ↔ determineStatus status winner team ≠ none := by
  unfold isDecided determineStatus
  simp only [Bool.or_eq_true, beq_iff_eq]
  by_cases hn : isCanceled status = true ∨ status = groundCondition ∨ status = otherReason
  · rw [if_pos hn]
    simp only [ne_eq, reduceCtorEq, not_false_eq_true, iff_true]
    tauto
  · rw [if_neg hn]
    by_cases hf : status = finished
    · rw [if_pos hf]
      cases orNull winner <;> simp [hf]
    · rw [if_neg hf]
      simp only [ne_eq, not_true_eq_false, iff_false]
      tauto

/-- The result of a finished game. -/
theorem determineStatus_finished (winner : Option Nat) (team : Nat) :
    determineStatus finished winner team =
      match orNull winner with
      | none => some .tie
      | some w => some (if w = team then .win else .lose) := by
  unfold determineStatus
  rw [if_neg (by decide), if_pos rfl]

/-- **Changing sides.**  When the winner is one of the two teams, swapping `Win` and
`Lose` is what `determineStatus` gives for the other team. -/
theorem determineStatus_swap (status : String) (winner : Option Nat) (home away old new : Nat)
    (hw : ∀ w, winner = some w → w = home ∨ w = away) (ho : old = home ∨ old = away)
    (hn : new = home ∨ new = away) (hne : old ≠ new) :
    determineStatus status winner new =
      match determineStatus status winner old with
      | some .win => some .lose
      | some .lose => some .win
      | s => s := by
  unfold determineStatus
  split
  · rfl
  · split
    · cases h : orNull winner with
      | none => rfl
      | some w =>
        have hsome : winner = some w := by
          cases winner with
          | none => cases h
          | some n =>
            unfold orNull at h
            rw [Option.filter_eq_some_iff] at h
            exact h.1
        have hcase : w = old ∨ w = new := by
          rcases hw w hsome with e | e <;> rcases ho with o | o <;> rcases hn with n | n <;> omega
        rcases hcase with e | e
        · simp [e, hne]
        · simp [e, Ne.symm hne]
    · rfl

end VictoryFairy
