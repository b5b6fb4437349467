import VictoryFairy.Proofs.ScoreJob
import VictoryFairy.Model.RegisterRace

/-!
# What a registration at the end of a game records

Nothing changes a registration after its commit, the settlement of the poll included.  So
in the end each one has the result of the row its request has read, and this row is the
one before the poll, the one between its two saves, or the final one.

    pollStep_inv         : the stored row in each phase of the poll
    step_recorded        : one event adds a right row exactly if the request has read one
    register_ending_iff  : a completed run is right exactly when all its commits are
    afterPoll_hasResult  : what is read after the final save is right
    poll_alone           : with nothing in between, the poll is the callback
    register_alone       : and a request is `register`
-/

namespace VictoryFairy

open Runs

/-! ## The poll -/

/-- The game's row when the phase starts, if it was `game` before the poll. -/
def PollPhase.row (game : GameRow) (input : UpdateGameScoreInput) : PollPhase → GameRow
  | .updateInProgressGame => game
  | .updateFinishedMatch => game.updateInProgressGame input
  | _ => game.afterPoll input

structure PollInv (gameId : String) (game : GameRow) (input : UpdateGameScoreInput) (db : Db)
    (phase : PollPhase) : Prop where
  stored : db.games.find? gameId = some (phase.row game input)
  terminal : phase = .updateFinishedMatch → isTerminal input.status = true
  wrapped : ∀ updates, phase = .saveBulk updates →
    ∃ (rs : List RegisteredGame) (f : RegisteredGame → RegisteredGame),
      rs ≠ [] ∧ updates = rs.map fun r => SaveElement.wrapped (f r)

section

variable {gameId : String} {game : GameRow} {input : UpdateGameScoreInput}

/-- The saves write the game's row and no registration; the settlement writes nothing. -/
theorem pollStep_inv {db : Db} {phase : PollPhase} (h : PollInv gameId game input db phase) :
    PollInv gameId game input (pollStep gameId input db phase).1 (pollStep gameId input db phase).2 ∧
      (pollStep gameId input db phase).1.registeredGames = db.registeredGames := by
  cases phase with
  | updateInProgressGame =>
    have hstored : (updateInProgressGame db gameId input).games.find? gameId =
        some (game.updateInProgressGame input) := by
      rw [find?_updateInProgressGame, h.stored]
      rfl
    refine ⟨?_, ?_⟩
    · unfold pollStep
      dsimp only
      split
      · next hterminal => exact ⟨hstored, fun _ => hterminal, fun _ he => by cases he⟩
      · next hlive =>
        refine ⟨?_, fun he => (by cases he), fun _ he => by cases he⟩
        rw [hstored]
        unfold PollPhase.row GameRow.afterPoll
        rw [if_neg hlive]
    · show (updateInProgressGame db gameId input).registeredGames = _
      unfold updateInProgressGame
      split <;> rfl
  | updateFinishedMatch =>
    have hterminal := h.terminal rfl
    unfold pollStep
    dsimp only
    have hrow : db.games.find? gameId = some (game.updateInProgressGame input) := h.stored
    cases hfin : updateFinishedMatch db gameId input with
    | error e =>
      refine ⟨⟨?_, fun he => (by cases he), fun _ he => by cases he⟩, rfl⟩
      show db.games.find? gameId = some (game.afterPoll input)
      have hthrow := updateFinishedMatch_of_find? input hrow
      rw [hfin] at hthrow
      unfold GameRow.afterPoll
      rw [if_pos hterminal, hrow]
      cases hgame : (game.updateInProgressGame input).updateFinishedMatch input with
      | error e => rfl
      | ok row' => rw [hgame] at hthrow; cases hthrow
    | ok db' =>
      obtain ⟨row', hok, rfl, hrow'⟩ := find?_updateFinishedMatch hfin hrow
      refine ⟨⟨?_, fun he => (by cases he), fun _ he => by cases he⟩, rfl⟩
      show (db.withGames (db.games.save row')).games.find? gameId = some (game.afterPoll input)
      unfold GameRow.afterPoll
      rw [if_pos hterminal, hrow', hok]
  | getByGameId =>
    have hrow : db.games.find? gameId = some (game.afterPoll input) := h.stored
    unfold pollStep getOneGame
    rw [hrow]
    dsimp only
    split
    · exact ⟨⟨hrow, fun he => (by cases he), fun _ he => by cases he⟩, rfl⟩
    · next hpending =>
      refine ⟨⟨hrow, fun he => (by cases he), fun updates he => ?_⟩, rfl⟩
      cases he
      exact ⟨_, _, hpending, rfl⟩
  | saveBulk updates =>
    obtain ⟨rs, f, hrs, rfl⟩ := h.wrapped updates rfl
    unfold pollStep
    dsimp only
    rw [saveBulk_wrapped db f hrs]
    exact ⟨⟨h.stored, fun he => (by cases he), fun _ he => by cases he⟩, rfl⟩
  | finished => exact ⟨h, rfl⟩

end

/-- **A poll alone.**  The four steps, with nothing in between, are the callback. -/
theorem poll_alone (gameId : String) (input : UpdateGameScoreInput) (job : ScoreJob) :
    run (RegisterRace.step gameId input) ⟨job.db, .updateInProgressGame, []⟩
        [.poll, .poll, .poll, .poll] =
      ⟨(scoreJobCallback gameId job input).db, .finished, []⟩ := by
  have hsteps : run (RegisterRace.step gameId input) ⟨job.db, .updateInProgressGame, []⟩
        [.poll, .poll, .poll, .poll] =
      (let p := pollStep gameId input job.db .updateInProgressGame
       let p := pollStep gameId input p.1 p.2
       let p := pollStep gameId input p.1 p.2
       let p := pollStep gameId input p.1 p.2
       ⟨p.1, p.2, []⟩) := rfl
  rw [hsteps]
  unfold scoreJobCallback
  dsimp only [pollStep]
  by_cases ht : isTerminal input.status = true
  · simp only [ht, if_true]
    cases updateFinishedMatch (updateInProgressGame job.db gameId input) gameId input with
    | error e => rfl
    | ok db =>
      dsimp only
      unfold batchBulkGameResultUpdateByGameId settleRegistrations
      cases getOneGame db gameId with
      | error e => rfl
      | ok game =>
        by_cases hp : getPendingByGameId db gameId = []
        · simp only [hp, if_true]
          rfl
        · simp only [hp, if_false, bind, Except.bind]
          cases saveBulk db ((getPendingByGameId db gameId).map fun r =>
            SaveElement.wrapped (r.determineStatus game.status (orNull game.winningTeam))) <;> rfl
  · simp only [ht]
    rfl

/-! ## The requests -/

/-- **A request alone.**  With nothing in between, the steps of a request are `register`. -/
theorem register_alone (gameId : String) (input : UpdateGameScoreInput) (phase : PollPhase)
    {db db' : Db} {dto : CreateRegisteredGameDto} {userId newId : Nat}
    {response : RegisteredGameWithGameResponseDto}
    (h : register db dto userId newId = .ok (db', response)) :
    run (RegisterRace.step gameId input) ⟨db, phase, []⟩
        [.request dto userId newId, .read 0, .create 0, .insert 0, .commit 0] =
      ⟨db', phase, [⟨dto, userId, newId, .ended⟩]⟩ := by
  unfold register at h
  obtain ⟨game, hgame, h⟩ := bind_eq_ok.1 h
  obtain ⟨team, hteam, h⟩ := bind_eq_ok.1 h
  obtain ⟨⟨db1, row⟩, hsave, h⟩ := bind_eq_ok.1 h
  obtain ⟨db2, hrecord, h⟩ := bind_eq_ok.1 h
  obtain ⟨stadium, hstadium, rfl⟩ : ∃ stadium,
      db2.stadiums.find? game.stadium = some stadium ∧ db2 = db' := by
    split at h
    · cases h
    · next stadium hstadium =>
      cases h
      exact ⟨stadium, hstadium, rfl⟩
  unfold saveRegistration at hsave
  obtain ⟨row', hnew, hsave⟩ := bind_eq_ok.1 hsave
  obtain ⟨db1', hinsert, hsave⟩ := bind_eq_ok.1 hsave
  cases hsave
  obtain ⟨-, huser, -, hrowTeam, -⟩ := newRegisteredGame_ok hnew
  have hcommit : commitRegistration db game row = .ok db2 := by
    unfold commitRegistration
    rw [hinsert, huser, hrowTeam]
    refine bind_eq_ok.2 ⟨db1, rfl, bind_eq_ok.2 ⟨db2, hrecord, ?_⟩⟩
    simp only [hstadium]
    rfl
  have hrequested : RegisterRace.step gameId input ⟨db, phase, []⟩ (.request dto userId newId) =
      ⟨db, phase, [⟨dto, userId, newId, .started⟩]⟩ := rfl
  have hread : RegisterRace.step gameId input ⟨db, phase, [⟨dto, userId, newId, .started⟩]⟩
      (.read 0) = ⟨db, phase, [⟨dto, userId, newId, .read game team⟩]⟩ := by
    simp [RegisterRace.step, RegisterRace.onRequest, RegisterRace.readStep,
      RegisterRace.setPhase, hgame, hteam]
  have hcreated : RegisterRace.step gameId input
      ⟨db, phase, [⟨dto, userId, newId, .read game team⟩]⟩ (.create 0) =
        ⟨db, phase, [⟨dto, userId, newId, .created game row⟩]⟩ := by
    simp [RegisterRace.step, RegisterRace.onRequest, RegisterRace.createStep,
      RegisterRace.setPhase, hnew]
  have hinserted : RegisterRace.step gameId input
      ⟨db, phase, [⟨dto, userId, newId, .created game row⟩]⟩ (.insert 0) =
        ⟨db, phase, [⟨dto, userId, newId, .inserted game row⟩]⟩ := by
    simp [RegisterRace.step, RegisterRace.onRequest, RegisterRace.insertStep,
      RegisterRace.setPhase, RegisterRace.blocked, hinsert]
  have hcommitted : RegisterRace.step gameId input
      ⟨db, phase, [⟨dto, userId, newId, .inserted game row⟩]⟩ (.commit 0) =
        ⟨db2, phase, [⟨dto, userId, newId, .ended⟩]⟩ := by
    simp [RegisterRace.step, RegisterRace.onRequest, RegisterRace.commitStep,
      RegisterRace.setPhase, hcommit]
  rw [run_cons, hrequested, run_cons, hread, run_cons, hcreated, run_cons, hinserted, run_cons,
    hcommitted, run_nil]

/-- The result of the row for the team is not null if its status is decided, and no tie at
different scores. -/
structure HasResult (row : GameRow) (team : Nat) : Prop where
  decided : isDecided row.status = true → row.resultOf team ≠ none
  tie : row.resultOf team = some .tie → row.homeTeamScore = row.awayTeamScore

/-- The registration has the result of the game's row, which is right. -/
def Records (row : GameRow) (r : RegisteredGame) : Prop :=
  r.status = row.resultOf r.cheeringTeam ∧ HasResult row r.cheeringTeam

def AllRecord (gameId : String) (row : GameRow) (db : Db) : Prop :=
  ∀ r ∈ db.registeredGames.rows, r.game = gameId → Records row r

theorem commitRegistration_ok {db db' : Db} {game : GameRow} {row : RegisteredGame}
    (h : commitRegistration db game row = .ok db') :
    db'.games = db.games ∧ db'.registeredGames = db.registeredGames.save row ∧
      ∀ o ∈ db.registeredGames.rows, o.id ≠ row.id := by
  unfold commitRegistration at h
  obtain ⟨db1, hins, h⟩ := bind_eq_ok.1 h
  obtain ⟨db2, hrecord, h⟩ := bind_eq_ok.1 h
  obtain rfl : db2 = db' := by
    split at h
    · cases h
    · cases h; rfl
  obtain ⟨rfl, hfresh, -⟩ := insertRegisteredGame_ok hins
  rw [recordSaved_eq] at hrecord
  obtain ⟨rows, hwrites, -⟩ := applyRankUpdates_ok hrecord
  rw [hwrites.eq]
  exact ⟨rfl, rfl, fun o ho => (hfresh o ho).1⟩

/-- A new row is one more to be right. -/
theorem allRecord_save {gameId : String} {final : GameRow} {db db' : Db} {row : RegisteredGame}
    (hrows : db'.registeredGames = db.registeredGames.save row)
    (hfresh : ∀ o ∈ db.registeredGames.rows, o.id ≠ row.id) :
    AllRecord gameId final db' ↔
      AllRecord gameId final db ∧ (row.game = gameId → Records final row) := by
  unfold AllRecord
  rw [hrows]
  constructor
  · intro h
    exact ⟨fun r hr => h r (Table.mem_save.2 (Or.inr ⟨hr, hfresh r hr⟩)),
      fun hg => h row (Table.mem_save.2 (Or.inl rfl)) hg⟩
  · rintro ⟨hold, hnew⟩ r hr hg
    rcases Table.mem_save.1 hr with rfl | ⟨hr, -⟩
    · exact hnew hg
    · exact hold r hr hg

structure RegisterInv (gameId : String) (game : GameRow) (input : UpdateGameScoreInput)
    (s : RegisterRace) : Prop where
  poll : PollInv gameId game input s.db s.poll
  status : ∀ t ∈ s.requests, ∀ seen row,
    t.phase = .created seen row ∨ t.phase = .inserted seen row →
      row.status = seen.resultOf row.cheeringTeam

/-- The request that commits a registration of the game has read a row with the result of the
final one. -/
def CommitsResult (gameId : String) (final : GameRow) (s : RegisterRace) : RegisterEvent → Prop
  | .commit i => ∀ t seen row db', s.requests[i]? = some t → t.phase = .inserted seen row →
      commitRegistration s.db seen row = .ok db' → row.game = gameId →
        seen.resultOf row.cheeringTeam = final.resultOf row.cheeringTeam ∧
          HasResult final row.cheeringTeam
  | _ => True

section

variable {gameId : String} {game : GameRow} {input : UpdateGameScoreInput} {s : RegisterRace}

/-- A request goes to its next phase. -/
theorem RegisterInv.setPhase (h : RegisterInv gameId game input s) (i : Nat) (phase : RegisterPhase)
    (hphase : ∀ seen row, phase = .created seen row ∨ phase = .inserted seen row →
      row.status = seen.resultOf row.cheeringTeam) :
    RegisterInv gameId game input (s.setPhase i phase) := by
  refine ⟨h.poll, fun t ht seen row hcase => ?_⟩
  rcases mem_modify_cases ht with ht | ⟨u, -, rfl⟩
  · exact h.status t ht seen row hcase
  · exact hphase seen row hcase

theorem RegisterInv.ended (h : RegisterInv gameId game input s) (i : Nat) :
    RegisterInv gameId game input (s.setPhase i .ended) :=
  h.setPhase i .ended fun seen row hcase => by simp at hcase

variable (gameId game input) in
/-- The step from `s` to `s'` keeps the invariant and adds nothing wrong exactly if `P`. -/
def AddsRightIff (s s' : RegisterRace) (P : Prop) : Prop :=
  RegisterInv gameId game input s' ∧
    (AllRecord gameId (game.afterPoll input) s'.db ↔
      AllRecord gameId (game.afterPoll input) s.db ∧ P)

/-- A step that leaves the database alone adds nothing. -/
theorem addsRightIff_of_same {s' : RegisterRace} {P : Prop}
    (hinv : RegisterInv gameId game input s') (hdb : s'.db = s.db) (hP : P) :
    AddsRightIff gameId game input s s' P := by
  unfold AddsRightIff
  rw [hdb]
  exact ⟨hinv, fun h => ⟨h, hP⟩, And.left⟩

/-- An event of a request that does not exist changes nothing. -/
theorem addsRightIff_onRequest (h : RegisterInv gameId game input s) {i : Nat}
    {f : RegisterTx → RegisterRace} {P : Prop} (hnone : s.requests[i]? = none → P)
    (hsome : ∀ t, s.requests[i]? = some t → AddsRightIff gameId game input s (f t) P) :
    AddsRightIff gameId game input s (s.onRequest i f) P := by
  unfold RegisterRace.onRequest
  cases ht : s.requests[i]? with
  | none => exact addsRightIff_of_same h rfl (hnone ht)
  | some t => exact hsome t ht

theorem readStep_adds (h : RegisterInv gameId game input s) (i : Nat) (t : RegisterTx) :
    AddsRightIff gameId game input s (s.readStep i t t.phase) True := by
  unfold RegisterRace.readStep
  split
  · split
    · exact addsRightIff_of_same (h.setPhase i _ fun seen row hcase => by simp at hcase) rfl trivial
    · exact addsRightIff_of_same (h.ended i) rfl trivial
  · exact addsRightIff_of_same h rfl trivial

theorem createStep_adds (h : RegisterInv gameId game input s) (i : Nat) (t : RegisterTx) :
    AddsRightIff gameId game input s (s.createStep i t t.phase) True := by
  unfold RegisterRace.createStep
  split
  · split
    · exact addsRightIff_of_same (h.ended i) rfl trivial
    · next row hrow =>
      obtain ⟨-, -, -, -, -, -, hstatus⟩ := newRegisteredGame_ok hrow
      refine addsRightIff_of_same (h.setPhase i _ fun seen' row' hcase => ?_) rfl trivial
      rcases hcase with he | he
      · cases he; exact hstatus
      · cases he
  · exact addsRightIff_of_same h rfl trivial

theorem insertStep_adds (h : RegisterInv gameId game input s) {i : Nat} {t : RegisterTx}
    (ht : s.requests[i]? = some t) :
    AddsRightIff gameId game input s (s.insertStep i t.phase) True := by
  unfold RegisterRace.insertStep
  split
  · next seen row hp =>
    split
    · exact addsRightIff_of_same h rfl trivial
    · split
      · exact addsRightIff_of_same (h.ended i) rfl trivial
      · refine addsRightIff_of_same (h.setPhase i _ fun seen' row' hcase => ?_) rfl trivial
        rcases hcase with he | he
        · cases he
        · cases he
          exact h.status t (List.mem_of_getElem? ht) _ _ (Or.inl hp)
  · exact addsRightIff_of_same h rfl trivial

/-- A commit adds one row, which has the result of the row its request has read. -/
theorem commitStep_adds (h : RegisterInv gameId game input s) {i : Nat} {t : RegisterTx}
    (ht : s.requests[i]? = some t) :
    AddsRightIff gameId game input s (s.commitStep i t.phase)
      (CommitsResult gameId (game.afterPoll input) s (.commit i)) := by
  unfold RegisterRace.commitStep
  split
  · next seen row hp =>
    have hstatus := h.status t (List.mem_of_getElem? ht) seen row (Or.inr hp)
    cases hcommit : commitRegistration s.db seen row with
    | error e =>
      refine addsRightIff_of_same (h.ended i) rfl fun t' seen' row' db' ht' hp' hok => ?_
      cases ht.symm.trans ht'
      cases hp.symm.trans hp'
      rw [hcommit] at hok
      cases hok
    | ok db' =>
      obtain ⟨hgames, hrows, hfresh⟩ := commitRegistration_ok hcommit
      refine ⟨⟨⟨?_, h.poll.terminal, h.poll.wrapped⟩, (h.ended i).status⟩, ?_⟩
      · show db'.games.find? gameId = _
        rw [hgames]
        exact h.poll.stored
      · show AllRecord gameId _ db' ↔ _
        rw [allRecord_save hrows hfresh]
        refine and_congr_right fun _ => ⟨fun hrecords t' seen' row' db'' ht' hp' _ hg => ?_,
          fun hc hg => ?_⟩
        · cases ht.symm.trans ht'
          cases hp.symm.trans hp'
          exact ⟨hstatus.symm.trans (hrecords hg).1, (hrecords hg).2⟩
        · obtain ⟨hread, hresult⟩ := hc t seen row db' ht hp hcommit hg
          exact ⟨hstatus.trans hread, hresult⟩
  · next hp =>
    refine addsRightIff_of_same h rfl fun t' seen row db' ht' hp' => ?_
    cases ht.symm.trans ht'
    exact absurd hp' (hp seen row)

/-- What one event does to the registrations: nothing, or a commit adds a row. -/
theorem step_recorded (h : RegisterInv gameId game input s) (e : RegisterEvent) :
    AddsRightIff gameId game input s (s.step gameId input e)
      (CommitsResult gameId (game.afterPoll input) s e) := by
  cases e with
  | poll =>
    obtain ⟨hpoll, hrows⟩ := pollStep_inv h.poll
    refine ⟨⟨hpoll, h.status⟩, ?_⟩
    show AllRecord gameId _ (pollStep gameId input s.db s.poll).1 ↔ _ ∧ True
    unfold AllRecord
    rw [hrows, and_true]
  | request dto userId newId =>
    refine addsRightIff_of_same ⟨h.poll, fun t ht seen row hcase => ?_⟩ rfl trivial
    rcases List.mem_append.1 ht with ht | ht
    · exact h.status t ht seen row hcase
    · rw [List.mem_singleton.1 ht] at hcase
      simp at hcase
  | read i => exact addsRightIff_onRequest h (fun _ => trivial) fun t _ => readStep_adds h i t
  | create i => exact addsRightIff_onRequest h (fun _ => trivial) fun t _ => createStep_adds h i t
  | insert i => exact addsRightIff_onRequest h (fun _ => trivial) fun t ht => insertStep_adds h ht
  | commit i =>
    refine addsRightIff_onRequest h (fun hnone t seen row db' ht => ?_) fun t ht =>
      commitStep_adds h ht
    rw [hnone] at ht
    cases ht
  | abort i => exact addsRightIff_of_same (h.ended i) rfl trivial

end

/-! ## Whole runs -/

/-- **The final row.**  A terminal poll that can be written leaves a row with a result for every
team: what is read after the final save is right, and not null. -/
theorem afterPoll_hasResult (game : GameRow) (hteams : game.homeTeam ≠ game.awayTeam)
    (hhome : game.homeTeam ≠ 0) (haway : game.awayTeam ≠ 0) {s : String}
    (hterminal : isTerminal (some s) = true) (home away : Int) (team : Nat)
    (htakes : game.Takes ⟨some home, some away, some s⟩) :
    HasResult (game.afterPoll ⟨some home, some away, some s⟩) team ∧
      (game.afterPoll ⟨some home, some away, some s⟩).resultOf team ≠ none := by
  have hdecided : isDecided s = true := by
    unfold isTerminal at hterminal
    unfold isDecided
    simp only [Option.any_some, Bool.or_eq_true] at hterminal ⊢
    tauto
  rw [game.afterPoll_terminal hteams hterminal htakes]
  have hresult := (isDecided_iff s (orNull (if s = finished then
    GameRow.winnerBy finished (some home) (some away) game.homeTeam game.awayTeam
    else game.winningTeam)) team).1 hdecided
  refine ⟨⟨fun _ => hresult, fun htie => ?_⟩, hresult⟩
  show some home = some away
  by_contra hne
  have hscores : home ≠ away := fun he => hne (congrArg some he)
  unfold GameRow.resultOf at htie
  dsimp only at htie
  rw [determineStatus_orNull] at htie
  by_cases hf : s = finished
  · have hwinner : GameRow.winnerBy finished (some home) (some away) game.homeTeam game.awayTeam =
        some (if away < home then game.homeTeam else game.awayTeam) := by
      unfold GameRow.winnerBy
      rw [if_pos rfl]
      exact if_neg hscores
    have hnull : orNull (some (if away < home then game.homeTeam else game.awayTeam)) =
        some (if away < home then game.homeTeam else game.awayTeam) := by
      unfold orNull
      split <;> simp [Option.filter, hhome, haway]
    rw [if_pos hf, hf, hwinner, determineStatus_finished, hnull] at htie
    have hneither := Option.some.inj htie
    split at hneither <;> split at hneither <;> cases hneither
  · unfold determineStatus at htie
    rw [if_neg hf] at htie
    split at htie <;> cases htie

/-- Once all is over, every registration of the game has the result of the game's row. -/
def RegisterRace.Settled (gameId : String) (s : RegisterRace) : Prop :=
  ∀ row, s.db.games.find? gameId = some row → AllRecord gameId row s.db

/-- **Registering while a game ends.**  For every run of requests and of one poll of the game
that is over: all registrations of the game are right exactly when those there were
already have the result of the row the poll leaves, and every request that has committed
one had read a row with this result. -/
theorem register_ending_iff (gameId : String) (game : GameRow) (input : UpdateGameScoreInput)
    (db : Db) (hgame : db.games.find? gameId = some game) (events : List RegisterEvent)
    (hover : (run (RegisterRace.step gameId input) ⟨db, .updateInProgressGame, []⟩ events).Completed) :
    (run (RegisterRace.step gameId input) ⟨db, .updateInProgressGame, []⟩ events).Settled gameId ↔
      AllRecord gameId (game.afterPoll input) db ∧
        Guarded (RegisterRace.step gameId input) (CommitsResult gameId (game.afterPoll input))
          ⟨db, .updateInProgressGame, []⟩ events := by
  have hinit : RegisterInv gameId game input ⟨db, .updateInProgressGame, []⟩ :=
    ⟨⟨hgame, fun he => (by cases he), fun _ he => by cases he⟩, fun t ht => by cases ht⟩
  have hinv := always_of_step (I := RegisterInv gameId game input)
    (fun s e h => (step_recorded h e).1) hinit events
  -- the final row is stored in the end
  have hfinal := hinv.last.poll.stored
  rw [hover.1] at hfinal
  have hsettled : (run (RegisterRace.step gameId input) ⟨db, .updateInProgressGame, []⟩
      events).Settled gameId ↔ AllRecord gameId (game.afterPoll input)
        (run (RegisterRace.step gameId input) ⟨db, .updateInProgressGame, []⟩ events).db := by
    constructor
    · exact fun h => h _ hfinal
    · intro h row hrow
      obtain rfl := Option.some.inj (hfinal.symm.trans hrow)
      exact h
  rw [hsettled]
  exact run_iff_guarded (I := RegisterInv gameId game input)
    (P := fun s : RegisterRace => AllRecord gameId (game.afterPoll input) s.db)
    (fun s e h => step_recorded h e) hinit events

/-- The game of `comingDb` has ended 5:3. -/
def homeWins : UpdateGameScoreInput := ⟨some 5, some 3, some finished⟩

def registerComing : List RegisterEvent :=
  [.request ⟨none, "A1", "good", "20250601HHLG0", 1⟩ 7 1, .read 0, .create 0, .insert 0, .commit 0]

/-- A registration after the two saves. -/
theorem register_ending_afterwards :
    (run (RegisterRace.step "20250601HHLG0" homeWins) ⟨comingDb, .updateInProgressGame, []⟩
        (.poll :: .poll :: .poll :: registerComing)).Settled "20250601HHLG0" ↔
      AllRecord "20250601HHLG0" (comingGame.afterPoll homeWins) comingDb ∧
        Guarded (RegisterRace.step "20250601HHLG0" homeWins)
          (CommitsResult "20250601HHLG0" (comingGame.afterPoll homeWins))
          ⟨comingDb, .updateInProgressGame, []⟩ (.poll :: .poll :: .poll :: registerComing) :=
  register_ending_iff "20250601HHLG0" comingGame homeWins comingDb (by decide) _
    ⟨by decide, by decide⟩

/-- The request reads the game between the two saves: `Tie` at 5:3. -/
theorem register_between_saves :
    ∃ s, s = run (RegisterRace.step "20250601HHLG0" homeWins) ⟨comingDb, .updateInProgressGame, []⟩
        (.poll :: registerComing ++ [.poll, .poll, .poll]) ∧
      s.Completed ∧ ¬ s.Settled "20250601HHLG0" ∧
      s.db.registeredGames.rows.map RegisteredGame.status = [some .tie] := by
  refine ⟨_, rfl, ⟨by decide, by decide⟩, fun h => ?_, by decide⟩
  have htie := h (comingGame.afterPoll homeWins) (by decide)
    ⟨1, none, "A1", "good", some .tie, "20250601HHLG0", 7, 1⟩ (by decide) rfl
  exact absurd htie.1 (by decide)

end VictoryFairy
