import VictoryFairy.Lib.Runs
import VictoryFairy.Model.Game

/-!
# The stored winner

Three writers share a game row: `upsert` of a created game, the live update and the
final update.  Only a write of `경기종료` through `determineWinner` assigns the
winner; the other writes change status and scores and leave the column.

    updateInProgressGame_eq, updateFinishedMatch_cases, upsert_eq : the row written
    winner_consistent_iff : the winner fits after every write exactly when no write
                            that leaves the column changes who has won
-/

namespace VictoryFairy

open Runs

/-! ## The rows written -/

namespace GameRow

theorem written_cases (row : GameRow) :
    (row.written = .ok row ∧ Fits row.status row.homeTeamScore row.awayTeamScore) ∨
      ∃ e, row.written = .error e ∧ ¬ Fits row.status row.homeTeamScore row.awayTeamScore := by
  unfold written
  by_cases hfits : Fits row.status row.homeTeamScore row.awayTeamScore
  · rw [if_neg (not_not.2 hfits.1), if_neg (not_not.2 hfits)]
    exact Or.inl ⟨rfl, hfits⟩
  · right
    split
    · exact ⟨_, rfl, hfits⟩
    · exact ⟨_, rfl, hfits⟩

/-- The input has both scores, and the columns take what it writes. -/
def Takes (row : GameRow) (input : UpdateGameScoreInput) : Prop :=
  input.homeScore ≠ none ∧ input.awayScore ≠ none ∧
    Fits (row.nextStatus input.status) input.homeScore input.awayScore

instance (row : GameRow) (input : UpdateGameScoreInput) : Decidable (row.Takes input) :=
  inferInstanceAs (Decidable (_ ∧ _ ∧ _))

/-- The row the live update is to write. -/
def inProgress (row : GameRow) (input : UpdateGameScoreInput) : GameRow :=
  { row with
    status := row.nextStatus input.status, homeTeamScore := input.homeScore,
    awayTeamScore := input.awayScore }

/-- The live update writes status and scores, if it can. -/
theorem updateInProgressGame_eq (row : GameRow) (input : UpdateGameScoreInput) :
    row.updateInProgressGame input = if row.Takes input then row.inProgress input else row := by
  unfold updateInProgressGame
  by_cases hmissing : input.awayScore = none ∨ input.homeScore = none
  · rw [if_pos hmissing, if_neg fun ht => hmissing.elim ht.2.1 ht.1]
  · rw [if_neg hmissing]
    rw [not_or] at hmissing
    have hentity : (row.toGame.updateInProgressMatch input.status input.homeScore
        input.awayScore).overwrite row = row.inProgress input := by
      unfold Game.updateInProgressMatch
      rw [Game.updateStatus_toGame]
      rfl
    unfold Game.save
    rw [hentity]
    rcases (row.inProgress input).written_cases with ⟨hok, hfits⟩ | ⟨e, he, hfits⟩
    · rw [hok]
      exact (if_pos ⟨hmissing.2, hmissing.1, hfits⟩).symm
    · rw [he]
      exact (if_neg fun ht => hfits ht.2.2).symm

/-- The entity of the final update: status, scores, and the winner of a finished game. -/
def finishedEntity (row : GameRow) (status : Option String) (home away : Int) : Game :=
  { row.toGame with
    status := some (row.nextStatus status), homeTeamScore := some home, awayTeamScore := some away,
    winningTeam := some (if row.nextStatus status = finished then
      winnerBy finished (some home) (some away) row.homeTeam row.awayTeam else row.winningTeam) }

theorem finishedEntity_eq (row : GameRow) (status : Option String) (home away : Int) :
    ((row.toGame.updateStatus status).updateScore (some home) (some away)).determineWinner =
      row.finishedEntity status home away := by
  rw [Game.updateStatus_toGame, Game.determineWinner_eq,
    Game.determineWinner_winningTeam _ (row.nextStatus status) rfl]
  unfold finishedEntity Game.updateScore toGame
  dsimp only
  split
  · next h => rw [h]
  · rfl

/-- `validateDomain` throws for a team that plays itself, and for a winner of a game that
has not started; a finished game has passed through `determineWinner` before. -/
theorem validateDomain_finishedEntity (row : GameRow) (status : Option String) (home away : Int) :
    (row.finishedEntity status home away).validateDomain = .ok () ↔
      row.homeTeam ≠ row.awayTeam ∧
        ¬ (row.nextStatus status = preGame ∧ row.winningTeam ≠ none) := by
  have hpre : preGame ≠ finished := by decide
  unfold Game.validateDomain finishedEntity Game.hasWinner toGame
  simp only [Option.some.injEq, Option.getD_some, ne_eq, reduceCtorEq, not_false_eq_true, true_and,
    false_and, and_false, if_false]
  by_cases ht : row.homeTeam = row.awayTeam
  · simp [ht]
  · rw [if_neg ht]
    by_cases hf : row.nextStatus status = finished
    · have hw : home ≠ away → (winnerBy finished (some home) (some away) row.homeTeam
          row.awayTeam).isSome := by
        intro hne
        simp [winnerBy, hne]
      simp only [hf, if_true, Ne.symm hpre, false_and, if_false, true_and]
      by_cases hs : home = away
      · simp [hs, ht]
      · simp [hs, hw hs, ht]
    · simp only [hf, if_false, false_and]
      by_cases hp : row.nextStatus status = preGame
      · cases hw : row.winningTeam <;> simp [hp, ht]
      · simp [hp, ht]

/-- The row the final update is to write. -/
def ended (row : GameRow) (input : UpdateGameScoreInput) : GameRow :=
  { row.inProgress input with
    winningTeam := if row.nextStatus input.status = finished then
      winnerBy finished input.homeScore input.awayScore row.homeTeam row.awayTeam
      else row.winningTeam }

/-- The final update writes the row, or leaves the one there is: it may return early, or throw. -/
theorem updateFinishedMatch_cases (row : GameRow) (input : UpdateGameScoreInput) :
    (row.updateFinishedMatch input = .ok (row.ended input) ∧ row.Takes input ∧
      row.homeTeam ≠ row.awayTeam ∧
      ¬ (row.nextStatus input.status = preGame ∧ row.winningTeam ≠ none)) ∨
    ((∀ row', row.updateFinishedMatch input = .ok row' → row' = row) ∧
      (row.Takes input → row.homeTeam = row.awayTeam ∨
        (row.nextStatus input.status = preGame ∧ row.winningTeam ≠ none))) := by
  unfold updateFinishedMatch
  by_cases hmissing : input.awayScore = none ∨ input.homeScore = none
  · rw [if_pos hmissing]
    exact Or.inr ⟨fun row' h => (Except.ok.inj h).symm, fun ht => (hmissing.elim ht.2.1 ht.1).elim⟩
  rw [if_neg hmissing]
  rw [not_or] at hmissing
  obtain ⟨away, ha⟩ := Option.ne_none_iff_exists'.1 hmissing.1
  obtain ⟨home, hh⟩ := Option.ne_none_iff_exists'.1 hmissing.2
  have hv := validateDomain_finishedEntity row input.status home away
  have hended : (row.finishedEntity input.status home away).overwrite row = row.ended input := by
    unfold ended inProgress
    rw [hh, ha]
    rfl
  unfold Game.updateFinishedMatch
  rw [hh, ha, finishedEntity_eq]
  dsimp only
  cases hd : (row.finishedEntity input.status home away).validateDomain with
  | ok u =>
    obtain ⟨hteams, hpre⟩ := hv.1 hd
    dsimp only
    unfold Game.save
    rw [hended]
    rcases (row.ended input).written_cases with ⟨hok, hfits⟩ | ⟨e, he, hfits⟩
    · exact Or.inl ⟨hok, ⟨hmissing.2, hmissing.1, hfits⟩, hteams, hpre⟩
    · refine Or.inr ⟨fun row' h => ?_, fun ht => absurd ht.2.2 hfits⟩
      rw [he] at h
      cases h
  | error e =>
    refine Or.inr ⟨fun row' h => (by cases h), fun _ => ?_⟩
    rw [hd] at hv
    by_contra hc
    rw [not_or] at hc
    exact absurd (hv.2 hc) (by simp)

end GameRow

namespace Game

/-- The entity `create` returns. -/
def created (props : CreateProps) : Game :=
  { ofProps props with
    status := if props.status = "" then none else some props.status
    homeTeamScore := props.homeTeamScore
    awayTeamScore := props.awayTeamScore
    winningTeam := if props.status = finished then
      some (GameRow.winnerBy finished props.homeTeamScore props.awayTeamScore props.homeTeam
        props.awayTeam) else none }

theorem created_eq (props : CreateProps) :
    (((ofProps props).updateStatus (some props.status)).updateScore props.homeTeamScore
      props.awayTeamScore).determineWinner = created props := by
  have hempty : ("" : String) ≠ finished := by decide
  by_cases hs : props.status = ""
  · simp [updateStatus, updateScore, determineWinner, created, ofProps, hs, hempty]
  · have hstatus : (ofProps props).updateStatus (some props.status) =
        { ofProps props with status := some props.status } := by
      simp [updateStatus, ofProps, hs]
    rw [hstatus, determineWinner_eq, determineWinner_winningTeam _ props.status rfl]
    unfold created updateScore ofProps
    dsimp only
    rw [if_neg hs]
    split
    · next h => rw [h]
    · rfl

/-- Only a team that plays itself is rejected: the other checks look at a winner that
`determineWinner` has just assigned. -/
theorem create_eq (props : CreateProps) :
    create props = if props.homeTeam = props.awayTeam then .error (.game .sameHomeAwayTeam)
      else .ok (created props) := by
  have hempty : ("" : String) ≠ finished := by decide
  have hpre : finished ≠ preGame := by decide
  unfold create
  rw [created_eq]
  dsimp only
  unfold validateDomain hasWinner
  by_cases ht : props.homeTeam = props.awayTeam
  · simp [created, ofProps, ht]
  · by_cases hf : props.status = finished
    · cases hh : props.homeTeamScore with
      | none =>
        cases ha : props.awayTeamScore <;>
          simp [created, ofProps, ht, hf, Ne.symm hempty, hpre, hh, ha, GameRow.winnerBy]
      | some home =>
        cases ha : props.awayTeamScore with
        | none => simp [created, ofProps, ht, hf, Ne.symm hempty, hpre, hh, ha, GameRow.winnerBy]
        | some away =>
          by_cases he : home = away <;>
            simp [created, ofProps, ht, hf, Ne.symm hempty, hpre, hh, ha, GameRow.winnerBy, he]
    · by_cases hs : props.status = "" <;> simp [created, ofProps, ht, hf, hs]

end Game

/-- The row an `upsert` is to leave of the game with this id. -/
def Game.CreateProps.upserted (props : Game.CreateProps) (id : String) (stored : Option GameRow) :
    GameRow where
  id := stored.elim id GameRow.id
  date := props.date
  time := props.time
  status := props.status
  homeTeamScore := props.homeTeamScore
  awayTeamScore := props.awayTeamScore
  homeTeam := props.homeTeam
  awayTeam := props.awayTeam
  stadium := props.stadium
  winningTeam :=
    if props.status = finished then
      GameRow.winnerBy finished props.homeTeamScore props.awayTeamScore props.homeTeam props.awayTeam
    else stored.bind GameRow.winningTeam

theorem Game.upsertRow_created (props : Game.CreateProps) (stored : Option GameRow) :
    (Game.created props).upsertRow stored =
      if props.status = "" then .error (.db .notNullViolation)
      else (props.upserted props.id stored).written := by
  unfold Game.upsertRow Game.created Game.ofProps Game.save Game.overwrite
    Game.CreateProps.upserted
  dsimp only
  by_cases hs : props.status = ""
  · rw [if_pos hs, if_pos hs]
  · rw [if_neg hs, if_neg hs]
    by_cases hf : props.status = finished <;> cases stored <;> simp [hf]

/-- What `upsert` writes: nothing for a team that plays itself, an empty status or values
the columns do not take, and otherwise every column but the winner of a game that is not
finished. -/
theorem upsert_eq (id : String) (stored : Option GameRow) (props : Game.CreateProps) :
    (GameWrite.upsert props).apply id stored =
      if props.homeTeam = props.awayTeam ∨ props.status = "" ∨
          ¬ GameRow.Fits props.status props.homeTeamScore props.awayTeamScore then stored
      else some (props.upserted id stored) := by
  unfold GameWrite.apply
  dsimp only
  rw [Game.create_eq]
  by_cases ht : props.homeTeam = props.awayTeam
  · simp [ht]
  · rw [if_neg ht]
    dsimp only
    rw [Game.upsertRow_created]
    by_cases hs : props.status = ""
    · simp [hs]
    · rw [if_neg hs]
      simp only [ht, hs, false_or]
      rcases (props.upserted id stored).written_cases with ⟨hok, hfits⟩ | ⟨e, he, hfits⟩
      · have hnot : ¬ ¬ GameRow.Fits props.status props.homeTeamScore props.awayTeamScore :=
          not_not.2 hfits
        rw [if_neg hnot, show ({ props with id } : Game.CreateProps).upserted id stored =
          props.upserted id stored from rfl, hok]
      · have hnot : ¬ GameRow.Fits props.status props.homeTeamScore props.awayTeamScore := hfits
        rw [if_pos hnot, show ({ props with id } : Game.CreateProps).upserted id stored =
          props.upserted id stored from rfl, he]

/-! ## When a write keeps the winner consistent -/

/-- `WinnerConsistent` in words: a winner exactly for a finished game with two different
scores, and then the team with the higher one. -/
theorem GameRow.winnerConsistent_iff (row : GameRow) :
    row.WinnerConsistent ↔
      (row.winningTeam ≠ none ↔ row.status = finished ∧ ∃ home away,
        row.homeTeamScore = some home ∧ row.awayTeamScore = some away ∧ home ≠ away) ∧
      ∀ team home away, row.winningTeam = some team → row.homeTeamScore = some home →
        row.awayTeamScore = some away → team = if away < home then row.homeTeam else row.awayTeam := by
  unfold WinnerConsistent winnerOf winnerBy
  by_cases hf : row.status = finished
  · cases hh : row.homeTeamScore with
    | none => cases row.winningTeam <;> simp [hf]
    | some home =>
      cases ha : row.awayTeamScore with
      | none => cases row.winningTeam <;> simp [hf]
      | some away =>
        by_cases he : home = away <;> cases row.winningTeam <;> simp [hf, he]
  · cases row.winningTeam <;> simp [hf]

/-- A write that leaves the winner's column does not change who has won: it is made
without effect or rejected by the columns, it writes `경기종료` through `determineWinner`, or
status and scores give the same winner before and after. -/
def KeepsWinner (stored : Option GameRow) : GameWrite → Prop
  | .upsert props =>
    props.homeTeam = props.awayTeam ∨ props.status = "" ∨
      ¬ GameRow.Fits props.status props.homeTeamScore props.awayTeamScore ∨
      props.status = finished ∨ ∀ row, stored = some row → row.winnerOf = none
  | .updateInProgressGame input =>
    ∀ row, stored = some row → row.Takes input →
      GameRow.winnerBy (row.nextStatus input.status) input.homeScore input.awayScore row.homeTeam
        row.awayTeam = row.winnerOf
  | .updateFinishedMatch input =>
    ∀ row, stored = some row → row.Takes input →
      row.homeTeam = row.awayTeam ∨ row.nextStatus input.status = finished ∨
        row.nextStatus input.status = preGame ∨ row.winnerOf = none

theorem winnerBy_of_ne {status : String} (h : status ≠ finished) (home away : Option Int)
    (homeTeam awayTeam : Nat) : GameRow.winnerBy status home away homeTeam awayTeam = none := by
  unfold GameRow.winnerBy
  rw [if_neg h]

theorem upsert_consistent_iff {id : String} {stored : Option GameRow} (props : Game.CreateProps)
    (h : ∀ row, stored = some row → row.WinnerConsistent) :
    (∀ row, (GameWrite.upsert props).apply id stored = some row → row.WinnerConsistent) ↔
      KeepsWinner stored (.upsert props) := by
  rw [upsert_eq]
  unfold KeepsWinner
  by_cases hskip : props.homeTeam = props.awayTeam ∨ props.status = "" ∨
      ¬ GameRow.Fits props.status props.homeTeamScore props.awayTeamScore
  · rw [if_pos hskip]
    exact iff_of_true h (hskip.imp_right fun hs => hs.imp_right Or.inl)
  · rw [if_neg hskip]
    rw [not_or, not_or] at hskip
    simp only [Option.some.injEq, forall_eq', hskip.1, hskip.2.1, hskip.2.2, false_or]
    unfold Game.CreateProps.upserted
    by_cases hf : props.status = finished
    · simp [hf, GameRow.WinnerConsistent, GameRow.winnerOf]
    · simp only [hf, if_false, false_or, GameRow.WinnerConsistent, GameRow.winnerOf,
        winnerBy_of_ne hf]
      cases hst : stored with
      | none => simp
      | some row =>
        have hrow : row.winningTeam = row.winnerOf := h row hst
        simp only [Option.bind_some, Option.some.injEq, forall_eq', hrow]
        rfl

theorem updateInProgressGame_consistent_iff {id : String} {stored : Option GameRow}
    (input : UpdateGameScoreInput) (h : ∀ row, stored = some row → row.WinnerConsistent) :
    (∀ row, (GameWrite.updateInProgressGame input).apply id stored = some row →
        row.WinnerConsistent) ↔ KeepsWinner stored (.updateInProgressGame input) := by
  unfold GameWrite.apply KeepsWinner
  cases hst : stored with
  | none => simp
  | some row =>
    have hrow : row.winningTeam = row.winnerOf := h row hst
    simp only [Option.map_some, Option.some.injEq, forall_eq']
    rw [row.updateInProgressGame_eq input]
    by_cases htakes : row.Takes input
    · rw [if_pos htakes]
      simp only [GameRow.WinnerConsistent, GameRow.inProgress, hrow, htakes, true_implies]
      exact eq_comm
    · rw [if_neg htakes]
      exact iff_of_true hrow fun ht => absurd ht htakes

theorem updateFinishedMatch_consistent_iff {id : String} {stored : Option GameRow}
    (input : UpdateGameScoreInput) (h : ∀ row, stored = some row → row.WinnerConsistent) :
    (∀ row, (GameWrite.updateFinishedMatch input).apply id stored = some row →
        row.WinnerConsistent) ↔ KeepsWinner stored (.updateFinishedMatch input) := by
  unfold GameWrite.apply KeepsWinner
  cases hst : stored with
  | none => simp
  | some row =>
    have hrow : row.winningTeam = row.winnerOf := h row hst
    simp only [Option.map_some, Option.some.injEq, forall_eq']
    rcases row.updateFinishedMatch_cases input with ⟨hok, htakes, hteams, hpre⟩ | ⟨hsame, hcause⟩
    · rw [hok]
      simp only [htakes, hteams, true_implies, false_or]
      by_cases hf : row.nextStatus input.status = finished
      · refine iff_of_true ?_ (Or.inl hf)
        simp [GameRow.WinnerConsistent, GameRow.winnerOf, GameRow.ended, GameRow.inProgress, hf]
      · have hnew : (row.ended input).WinnerConsistent ↔ row.winningTeam = none := by
          simp [GameRow.WinnerConsistent, GameRow.winnerOf, GameRow.ended, GameRow.inProgress, hf,
            winnerBy_of_ne hf]
        rw [hnew, ← hrow]
        by_cases hstatus : row.nextStatus input.status = preGame
        · simp [hstatus, by simpa [hstatus] using hpre]
        · simp [hf, hstatus]
    · refine iff_of_true ?_ fun ht => ?_
      · cases hupdate : row.updateFinishedMatch input with
        | error e => exact hrow
        | ok row' =>
          rw [hsame row' hupdate]
          exact hrow
      · rcases hcause ht with hteams | hpre
        · exact Or.inl hteams
        · exact Or.inr (Or.inr (Or.inl hpre.1))

theorem apply_consistent_iff {id : String} {stored : Option GameRow} (write : GameWrite)
    (h : ∀ row, stored = some row → row.WinnerConsistent) :
    (∀ row, write.apply id stored = some row → row.WinnerConsistent) ↔ KeepsWinner stored write := by
  cases write with
  | upsert props => exact upsert_consistent_iff props h
  | updateInProgressGame input => exact updateInProgressGame_consistent_iff input h
  | updateFinishedMatch input => exact updateFinishedMatch_consistent_iff input h

/-- **Winner consistency.**  The stored winner is the team with the higher score of a
finished game, and none otherwise, after every write to the row of a game id exactly when
every write keeps the winner. -/
theorem winner_consistent_iff (id : String) (writes : List GameWrite) :
    Always (GameWrite.apply id) (fun stored => ∀ row, stored = some row → row.WinnerConsistent)
        none writes ↔
      Guarded (GameWrite.apply id) KeepsWinner none writes := by
  refine always_iff_guarded (I := fun _ => True) (fun _ _ _ => trivial)
    (fun stored write _ h => apply_consistent_iff write h) trivial ?_ writes
  intro row hrow
  cases hrow

/-- The final poll: its first write stores `경기종료` with different scores and no winner. -/
theorem winner_inconsistent_between_writes :
    ¬ Always (GameWrite.apply "20250601HHLG0")
      (fun stored => ∀ row, stored = some row → row.WinnerConsistent) none
      [.upsert ⟨"20250601HHLG0", ⟨2025, 6, 1⟩, "14:00:00", preGame, none, none, 1, 2, 1⟩,
       .updateInProgressGame ⟨some 5, some 3, some finished⟩] := by
  intro h
  have hlast := h.last _ rfl
  revert hlast
  decide

end VictoryFairy
