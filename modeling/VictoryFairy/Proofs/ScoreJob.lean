import VictoryFairy.Proofs.Ledger
import VictoryFairy.Proofs.Winner
import VictoryFairy.Model.ScoreJob

/-!
# What a poll leaves

    batch_eq             : the settlement commits nothing, whatever is pending
    batch_settles_iff    : so it settles a game exactly when nothing is pending
    scoreJobCallback_iff : a decided poll is recorded, and ends the polling, exactly
                           when its text is one the callback tests for and its scores
                           are there
-/

namespace VictoryFairy

open Runs

/-! ## The settlement -/

theorem saveBulk_wrapped (db : Db) {rs : List RegisteredGame} (f : RegisteredGame → RegisteredGame)
    (h : rs ≠ []) :
    saveBulk db (rs.map fun r => SaveElement.wrapped (f r)) = .error (.db .notNullViolation) := by
  obtain ⟨r, rs, rfl⟩ := List.exists_cons_of_ne_nil h
  rfl

/-- Nothing is ever committed: with pending rows the first insert is rejected. -/
theorem batch_eq (db : Db) (gameId : String) : batchBulkGameResultUpdateByGameId db gameId = db := by
  unfold batchBulkGameResultUpdateByGameId settleRegistrations
  cases getOneGame db gameId with
  | error e => rfl
  | ok game =>
    by_cases hp : getPendingByGameId db gameId = []
    · simp [bind, Except.bind, pure, Except.pure, hp]
    · simp only [bind, Except.bind, hp, if_false,
        saveBulk_wrapped db (fun r => r.determineStatus game.status (orNull game.winningTeam)) hp]

/-- The row was pending when the settlement of the game started. -/
def IsPending (db : Db) (gameId : String) (r : RegisteredGame) : Prop :=
  r ∈ db.registeredGames.rows ∧ r.game = gameId ∧ r.status = none

theorem mem_getPendingByGameId {db : Db} {gameId : String} {r : RegisteredGame} :
    r ∈ getPendingByGameId db gameId ↔ IsPending db gameId r := by
  simp [getPendingByGameId, IsPending]

/-- The number of pending rows that `game`'s result puts into the column `s` of `k`. -/
def newlySettled (db : Db) (game : GameRow) (k : RankKey) (s : RegisteredGameStatus) : Nat :=
  db.registeredGames.total fun r =>
    if r.game = game.id ∧ r.status = none ∧ game.resultOf r.cheeringTeam = some s ∧
        (⟨r.user, r.cheeringTeam, game.date.getFullYear⟩ : RankKey) = k then 1 else 0

/-- What settling the pending registrations of `game` is to leave. -/
structure Settles (db db' : Db) (game : GameRow) : Prop where
  pending : ∀ r, IsPending db game.id r →
    db'.registeredGames.find? r.id = some { r with status := game.resultOf r.cheeringTeam }
  others : ∀ r ∈ db.registeredGames.rows, ¬ IsPending db game.id r →
    db'.registeredGames.find? r.id = some r
  noNew : ∀ id, db.registeredGames.find? id = none → db'.registeredGames.find? id = none
  ranks : ∀ k s, db'.recorded k (GameResultColumnMap s) =
    db.recorded k (GameResultColumnMap s) + newlySettled db game k s
  ledger : db'.Ledger

theorem newlySettled_eq_zero {db : Db} {game : GameRow} (h : ∀ r, ¬ IsPending db game.id r)
    (k : RankKey) (s : RegisteredGameStatus) : newlySettled db game k s = 0 := by
  refine Table.total_eq_zero.2 fun r hr => if_neg fun hc => h r ⟨hr, hc.1, hc.2.1⟩

/-- **Settlement.**  For a game with a decided status, the settlement leaves what it
is to leave exactly when no registration of the game is pending. -/
theorem batch_settles_iff (db : Db) (game : GameRow) (hdecided : isDecided game.status = true)
    (hledger : db.Ledger) :
    Settles db (batchBulkGameResultUpdateByGameId db game.id) game ↔
      getPendingByGameId db game.id = [] := by
  rw [batch_eq]
  constructor
  · intro h
    refine List.eq_nil_iff_forall_not_mem.2 fun r hr => ?_
    have hp := mem_getPendingByGameId.1 hr
    have hstill := Table.find?_of_mem hp.1
    rw [h.pending r hp] at hstill
    have hnone : game.resultOf r.cheeringTeam = none :=
      (congrArg RegisteredGame.status (Option.some.inj hstill)).trans hp.2.2
    exact (isDecided_iff game.status (orNull game.winningTeam) r.cheeringTeam).1 hdecided hnone
  · intro hnil
    have hno : ∀ r, ¬ IsPending db game.id r := by
      intro r hp
      have hm := mem_getPendingByGameId.2 hp
      rw [hnil] at hm
      cases hm
    refine ⟨fun r hp => absurd hp (hno r), fun r hr _ => Table.find?_of_mem hr, fun _ h => h, ?_, hledger⟩
    intro k s
    rw [newlySettled_eq_zero hno]
    rfl

/-- A fan whose registration is pending. -/
def pendingFan : RegisteredGame := ⟨1, none, "A1", "good", none, "20250601HHLG0", 7, 1⟩

def onePending : Db :=
  { leagueDb with
    games := Table.empty.save wonGame
    registeredGames := Table.empty.save pendingFan }

theorem onePending_ledger : onePending.Ledger := by
  intro k s
  have hzero : onePending.tally k s = 0 := by
    refine Table.total_eq_zero.2 fun r hr => ?_
    obtain rfl : r = pendingFan := by simpa [onePending, Table.mem_save, Table.empty] using hr
    simp [Db.counts, pendingFan]
  rw [hzero]
  rfl

theorem batch_settles_onePending :
    Settles onePending (batchBulkGameResultUpdateByGameId onePending wonGame.id) wonGame ↔
      getPendingByGameId onePending wonGame.id = [] :=
  batch_settles_iff onePending wonGame (by decide) onePending_ledger

/-- The pending registration of a game that is over stays pending. -/
theorem onePending_not_settled :
    isDecided wonGame.status = true ∧ onePending.games.find? wonGame.id = some wonGame ∧
      onePending.Ledger ∧
      ¬ Settles onePending (batchBulkGameResultUpdateByGameId onePending wonGame.id) wonGame := by
  refine ⟨by decide, by decide, onePending_ledger, fun h => ?_⟩
  have hfan := h.pending pendingFan ⟨by decide, rfl, rfl⟩
  revert hfan
  decide

/-! ## The callback -/

theorem GameRow.updateInProgressGame_id (row : GameRow) (input : UpdateGameScoreInput) :
    (row.updateInProgressGame input).id = row.id := by
  rw [row.updateInProgressGame_eq input]
  split <;> rfl

theorem find?_updateInProgressGame (db : Db) (gameId : String) (input : UpdateGameScoreInput) :
    (updateInProgressGame db gameId input).games.find? gameId =
      (db.games.find? gameId).map fun row => row.updateInProgressGame input := by
  unfold updateInProgressGame
  cases hf : db.games.find? gameId with
  | none => simp [hf]
  | some row =>
    have hid : (row.updateInProgressGame input).id = gameId :=
      (row.updateInProgressGame_id input).trans (Table.find?_key hf)
    dsimp only
    rw [Db.withGames_games, ← hid, Table.find?_save_self]
    rfl

/-- The final update keeps the key, and so does a rejected one. -/
theorem GameRow.updateFinishedMatch_id {row row' : GameRow} {input : UpdateGameScoreInput}
    (h : row.updateFinishedMatch input = .ok row') : row'.id = row.id := by
  rcases row.updateFinishedMatch_cases input with ⟨hok, -⟩ | ⟨hsame, -⟩
  · obtain rfl := Except.ok.inj (hok.symm.trans h)
    rfl
  · rw [hsame row' h]

/-- The final update of a stored game saves its row, or throws. -/
theorem updateFinishedMatch_of_find? {db : Db} {gameId : String} (input : UpdateGameScoreInput)
    {row : GameRow} (hf : db.games.find? gameId = some row) :
    updateFinishedMatch db gameId input =
      (row.updateFinishedMatch input).map fun row' => db.withGames (db.games.save row') := by
  unfold updateFinishedMatch
  split
  · next hm =>
    have hkey : db.games.find? row.id = some row := by
      rw [show row.id = gameId from Table.find?_key hf]
      exact hf
    rw [show row.updateFinishedMatch input = .ok row by
      unfold GameRow.updateFinishedMatch
      rw [if_pos hm]]
    show Except.ok db = .ok (db.withGames (db.games.save row))
    rw [Table.save_of_find? hkey]
    rfl
  · rw [hf]
    rfl

theorem find?_updateFinishedMatch {db db' : Db} {gameId : String} {input : UpdateGameScoreInput}
    (h : updateFinishedMatch db gameId input = .ok db') {row : GameRow}
    (hf : db.games.find? gameId = some row) :
    ∃ row', row.updateFinishedMatch input = .ok row' ∧ db' = db.withGames (db.games.save row') ∧
      db'.games.find? gameId = some row' := by
  rw [updateFinishedMatch_of_find? input hf] at h
  cases hrow : row.updateFinishedMatch input with
  | error e => rw [hrow] at h; cases h
  | ok row' =>
    rw [hrow] at h
    cases h
    have hid : row'.id = gameId :=
      (GameRow.updateFinishedMatch_id hrow).trans (Table.find?_key hf)
    exact ⟨row', rfl, rfl, by rw [Db.withGames_games, ← hid, Table.find?_save_self]⟩

theorem scoreJobCallback_flags (gameId : String) (job : ScoreJob) (input : UpdateGameScoreInput) :
    ((scoreJobCallback gameId job input).running =
        if isTerminal input.status then false else job.running) ∧
      ((scoreJobCallback gameId job input).registered =
        if isTerminal input.status then false else job.registered) := by
  unfold scoreJobCallback
  dsimp only
  split
  · cases updateFinishedMatch (updateInProgressGame job.db gameId input) gameId input <;>
      exact ⟨rfl, rfl⟩
  · exact ⟨rfl, rfl⟩

/-! ## The row a poll leaves -/

/-- The row a poll leaves: live save, then for a terminal text the final save unless it
throws. -/
def GameRow.afterPoll (row : GameRow) (input : UpdateGameScoreInput) : GameRow :=
  let row := row.updateInProgressGame input
  if isTerminal input.status then
    match row.updateFinishedMatch input with
    | .error _ => row
    | .ok row => row
  else row

namespace GameRow

variable (row : GameRow) (input : UpdateGameScoreInput)

/-- The second write of a poll writes the status of the first. -/
theorem inProgress_nextStatus :
    (row.inProgress input).nextStatus input.status = row.nextStatus input.status := by
  unfold inProgress nextStatus
  dsimp only
  cases input.status with
  | none => rfl
  | some s =>
    dsimp only
    split <;> rfl

theorem ended_twice : (row.inProgress input).ended input = row.ended input := by
  have hnext := row.inProgress_nextStatus input
  have hlive : (row.inProgress input).inProgress input = row.inProgress input := by
    show { row.inProgress input with
      status := (row.inProgress input).nextStatus input.status, homeTeamScore := input.homeScore,
      awayTeamScore := input.awayScore } = row.inProgress input
    rw [hnext]
    rfl
  unfold ended
  rw [hlive, hnext]
  rfl

/-- What the final save leaves after the live one: the row of the live save, or the one it is
to write. -/
theorem afterPoll_cases :
    row.afterPoll input = row.updateInProgressGame input ∨
      (row.Takes input ∧ row.afterPoll input = row.ended input) := by
  unfold afterPoll
  dsimp only
  split
  · cases hfin : (row.updateInProgressGame input).updateFinishedMatch input with
    | error e => exact Or.inl rfl
    | ok row' =>
      dsimp only
      rw [row.updateInProgressGame_eq input] at hfin ⊢
      by_cases htakes : row.Takes input
      · rw [if_pos htakes] at hfin ⊢
        rcases (row.inProgress input).updateFinishedMatch_cases input with ⟨hok, -⟩ | ⟨hsame, -⟩
        · exact Or.inr ⟨htakes,
            (Except.ok.inj (hok.symm.trans hfin)).symm.trans (row.ended_twice input)⟩
        · exact Or.inl (hsame row' hfin)
      · rw [if_neg htakes] at hfin ⊢
        rcases row.updateFinishedMatch_cases input with ⟨-, ht, -⟩ | ⟨hsame, -⟩
        · exact absurd ht htakes
        · exact Or.inl (hsame row' hfin)
  · exact Or.inl rfl

/-- A poll that cannot be written leaves the row. -/
theorem afterPoll_of_not_takes (h : ¬ row.Takes input) : row.afterPoll input = row := by
  rcases row.afterPoll_cases input with he | ⟨ht, -⟩
  · rw [he, row.updateInProgressGame_eq input, if_neg h]
  · exact absurd ht h

theorem afterPoll_status :
    (row.afterPoll input).status =
      if row.Takes input then row.nextStatus input.status else row.status := by
  by_cases htakes : row.Takes input
  · rw [if_pos htakes]
    rcases row.afterPoll_cases input with he | ⟨-, he⟩
    · rw [he, row.updateInProgressGame_eq input, if_pos htakes]
      rfl
    · rw [he]
      rfl
  · rw [if_neg htakes, row.afterPoll_of_not_takes input htakes]

/-- Of the row's id, date, place and teams nothing changes; the winner stays, or is the team
with the higher score. -/
theorem afterPoll_eq :
    ∃ o : Outcome, row.afterPoll input = row.withOutcome o ∧
      (o.winningTeam = row.winningTeam ∨ ∃ homeScore awayScore,
        o.winningTeam = winnerBy finished homeScore awayScore row.homeTeam row.awayTeam) := by
  rcases row.afterPoll_cases input with he | ⟨-, he⟩
  · rw [he, row.updateInProgressGame_eq input]
    split
    · exact ⟨⟨row.nextStatus input.status, input.homeScore, input.awayScore, row.winningTeam⟩, rfl,
        Or.inl rfl⟩
    · exact ⟨⟨row.status, row.homeTeamScore, row.awayTeamScore, row.winningTeam⟩, rfl, Or.inl rfl⟩
  · refine ⟨⟨row.nextStatus input.status, input.homeScore, input.awayScore,
      (row.ended input).winningTeam⟩, he, ?_⟩
    unfold ended
    dsimp only
    split
    · exact Or.inr ⟨_, _, rfl⟩
    · exact Or.inl rfl

end GameRow

theorem GameRow.afterPoll_id (row : GameRow) (input : UpdateGameScoreInput) :
    (row.afterPoll input).id = row.id := by
  obtain ⟨o, ho, -⟩ := row.afterPoll_eq input
  rw [ho]
  rfl

/-- **The callback on the database.**  It saves the row a poll leaves, and nothing else. -/
theorem scoreJobCallback_db (job : ScoreJob) {gameId : String} {row : GameRow}
    (input : UpdateGameScoreInput) (hrow : job.db.games.find? gameId = some row) :
    (scoreJobCallback gameId job input).db =
      job.db.withGames (job.db.games.save (row.afterPoll input)) := by
  have hlive : updateInProgressGame job.db gameId input =
      job.db.withGames (job.db.games.save (row.updateInProgressGame input)) := by
    unfold updateInProgressGame
    rw [hrow]
  have hstored : (updateInProgressGame job.db gameId input).games.find? gameId =
      some (row.updateInProgressGame input) := by
    rw [find?_updateInProgressGame, hrow]
    rfl
  have hfin := updateFinishedMatch_of_find? input hstored
  unfold scoreJobCallback GameRow.afterPoll
  dsimp only
  by_cases ht : isTerminal input.status = true
  · rw [if_pos ht, if_pos ht, hfin]
    cases hok : (row.updateInProgressGame input).updateFinishedMatch input with
    | error e =>
      rw [hlive]
      rfl
    | ok row' =>
      have hid : (row.updateInProgressGame input).id = row'.id :=
        (GameRow.updateFinishedMatch_id hok).symm
      have htwice : (job.db.games.save (row.updateInProgressGame input)).save row' =
          job.db.games.save row' := Table.save_save _ hid
      show batchBulkGameResultUpdateByGameId _ gameId = job.db.withGames (job.db.games.save row')
      rw [batch_eq, hlive, ← htwice]
      rfl
  · rw [if_neg ht, if_neg ht, hlive]

/-- A poll of a game that is not stored changes nothing. -/
theorem scoreJobCallback_db_missing (job : ScoreJob) {gameId : String} (input : UpdateGameScoreInput)
    (hrow : job.db.games.find? gameId = none) : (scoreJobCallback gameId job input).db = job.db := by
  have hlive : updateInProgressGame job.db gameId input = job.db := by
    unfold updateInProgressGame
    rw [hrow]
  unfold scoreJobCallback
  dsimp only
  rw [hlive]
  split
  · cases hfin : updateFinishedMatch job.db gameId input with
    | error e => rfl
    | ok db =>
      unfold updateFinishedMatch at hfin
      split at hfin
      · cases hfin
        exact batch_eq _ gameId
      · rw [hrow] at hfin
        cases hfin
  · rfl

/-- What a poll with the text `s` is to leave of the game and of its active job. -/
def PollRecorded (gameId s : String) (after : ScoreJob) : Prop :=
  (isDecided s = true →
    (after.db.games.find? gameId).map GameRow.status = some s ∧
      after.running = false ∧ after.registered = false) ∧
  (isDecided s = false → after.running = true ∧ after.registered = true)

/-- A terminal text is not empty, so the status is written. -/
theorem nextStatus_of_terminal (row : GameRow) {s : String} (h : isTerminal (some s) = true) :
    row.nextStatus (some s) = s := by
  have hne : s ≠ "" := by
    rintro rfl
    revert h
    decide
  exact if_neg hne

/-- The row a terminal poll leaves, if it can be written. -/
theorem GameRow.afterPoll_terminal (game : GameRow) (hteams : game.homeTeam ≠ game.awayTeam)
    {s : String} (hterminal : isTerminal (some s) = true) {homeScore awayScore : Option Int}
    (htakes : game.Takes ⟨homeScore, awayScore, some s⟩) :
    game.afterPoll ⟨homeScore, awayScore, some s⟩ =
      { game with
        status := s, homeTeamScore := homeScore, awayTeamScore := awayScore
        winningTeam := if s = finished then
          winnerBy finished homeScore awayScore game.homeTeam game.awayTeam
          else game.winningTeam } := by
  have hpre : s ≠ preGame := by
    rintro rfl
    revert hterminal
    decide
  have hnext : ∀ row : GameRow, row.nextStatus (some s) = s :=
    fun row => nextStatus_of_terminal row hterminal
  have hended : game.ended ⟨homeScore, awayScore, some s⟩ = { game with
      status := s, homeTeamScore := homeScore, awayTeamScore := awayScore
      winningTeam := if s = finished then
        winnerBy finished homeScore awayScore game.homeTeam game.awayTeam else game.winningTeam } := by
    unfold ended inProgress
    simp only [hnext]
  have hlive := game.updateInProgressGame_eq ⟨homeScore, awayScore, some s⟩
  rw [if_pos htakes] at hlive
  have htakes' : (game.inProgress ⟨homeScore, awayScore, some s⟩).Takes
      ⟨homeScore, awayScore, some s⟩ := by
    refine ⟨htakes.1, htakes.2.1, ?_⟩
    rw [game.inProgress_nextStatus ⟨homeScore, awayScore, some s⟩]
    exact htakes.2.2
  unfold afterPoll
  rw [if_pos hterminal, hlive]
  rcases (game.inProgress ⟨homeScore, awayScore, some s⟩).updateFinishedMatch_cases
    ⟨homeScore, awayScore, some s⟩ with ⟨hok, -⟩ | ⟨-, hcause⟩
  · rw [hok, game.ended_twice]
    exact hended
  · rcases hcause htakes' with hsame | ⟨hstatus, -⟩
    · exact absurd hsame hteams
    · rw [hnext] at hstatus
      exact absurd hstatus hpre

/-- The stored status after the callback: the poll's, when it can be written. -/
theorem scoreJobCallback_status (job : ScoreJob) (row : GameRow) (input : UpdateGameScoreInput)
    (hrow : job.db.games.find? row.id = some row) :
    ((scoreJobCallback row.id job input).db.games.find? row.id).map GameRow.status =
      some (if row.Takes input then row.nextStatus input.status else row.status) := by
  have hsaved := Table.find?_save_self job.db.games (row.afterPoll input)
  rw [row.afterPoll_id input] at hsaved
  rw [scoreJobCallback_db job input hrow, Db.withGames_games, hsaved, Option.map_some,
    row.afterPoll_status input]

/-- **A decided poll.**  For every stored game with an active job and every poll: the poll is
recorded and ends the polling as it should exactly when its text is undecided, or the
callback tests for it, both scores are there and the columns take them and the text (or the
status is stored already). -/
theorem scoreJobCallback_iff (db : Db) (row : GameRow) (hrow : db.games.find? row.id = some row)
    (s : String) (homeScore awayScore : Option Int) :
    PollRecorded row.id s (scoreJobCallback row.id { db, running := true, registered := true }
        { homeScore, awayScore, status := some s }) ↔
      (isDecided s = true → isTerminal (some s) = true ∧
        ((homeScore ≠ none ∧ awayScore ≠ none ∧ GameRow.Fits s homeScore awayScore) ∨
          row.status = s)) := by
  obtain ⟨hrun, hreg⟩ := scoreJobCallback_flags row.id { db, running := true, registered := true }
    { homeScore, awayScore, status := some s }
  have hstatus := scoreJobCallback_status { db, running := true, registered := true } row
    { homeScore, awayScore, status := some s } hrow
  unfold PollRecorded
  rw [hrun, hreg, hstatus]
  by_cases ht : isTerminal (some s) = true
  · have hdec : isDecided s = true := by
      unfold isTerminal at ht
      unfold isDecided
      simp only [Option.any_some, Bool.or_eq_true] at ht ⊢
      tauto
    have htakes : row.Takes ⟨homeScore, awayScore, some s⟩ ↔
        homeScore ≠ none ∧ awayScore ≠ none ∧ GameRow.Fits s homeScore awayScore := by
      unfold GameRow.Takes
      rw [nextStatus_of_terminal row ht]
    simp only [ht, hdec, if_true, nextStatus_of_terminal row ht, and_true, true_implies,
      Bool.true_eq_false, false_implies, true_and, Option.some.injEq]
    rw [← htakes]
    split
    · next h => exact iff_of_true rfl (Or.inl h)
    · next h => rw [or_iff_right h]
  · simp only [ht, if_false, false_and, imp_false, Bool.false_eq_true, and_self,
      implies_true, and_true]
    cases isDecided s <;> simp

/-- A game stored before its start. -/
def comingGame : GameRow :=
  ⟨"20250601HHLG0", ⟨2025, 6, 1⟩, "14:00:00", preGame, none, none, 1, 2, none, 1⟩

def comingDb : Db := { leagueDb with games := Table.empty.save comingGame }

theorem scoreJobCallback_coming :
    PollRecorded comingGame.id "우천취소"
        (scoreJobCallback comingGame.id { db := comingDb, running := true, registered := true }
          { homeScore := none, awayScore := none, status := some "우천취소" }) ↔
      (isDecided "우천취소" = true → isTerminal (some "우천취소") = true ∧
        (((none : Option Int) ≠ none ∧ (none : Option Int) ≠ none ∧
          GameRow.Fits "우천취소" none none) ∨ comingGame.status = "우천취소")) :=
  scoreJobCallback_iff comingDb comingGame (by decide) "우천취소" none none

/-- A game cancelled before it has scores: the job is gone, the game is stored as before. -/
theorem cancelled_not_recorded :
    comingDb.games.find? comingGame.id = some comingGame ∧
      ¬ PollRecorded comingGame.id "우천취소"
        (scoreJobCallback comingGame.id { db := comingDb, running := true, registered := true }
          { homeScore := none, awayScore := none, status := some "우천취소" }) := by
  refine ⟨by decide, fun h => ?_⟩
  have hstored := (h.1 (by decide)).1
  revert hstored
  decide

end VictoryFairy
