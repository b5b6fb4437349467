import VictoryFairy.Proofs.Acceptance
import VictoryFairy.Proofs.Season

/-!
# Stored registrations

`RegisteredGame.create` checks the two texts and the team; afterwards only the team is checked
again.  Whether the stored rows stay valid is decided by the accepted updates, and the status
they swap is the one `determineStatus` would give.

    run_valid_iff : rows stay valid exactly while no accepted update empties a text
    flips_agree   : swapping `Win` and `Lose` agrees with the result of the game
-/

namespace VictoryFairy

open Runs

/-! ## Valid rows -/

/-- What `RegisteredGame.create` enforces. -/
structure ValidRow (db : Db) (r : RegisteredGame) : Prop where
  seat : r.seat ≠ ""
  review : r.review ≠ ""
  side : OnSide db r

def ValidRows (db : Db) : Prop := ∀ r ∈ db.registeredGames.rows, ValidRow db r

/-- A registration keeps a side of its game. -/
theorem edit_onSide {db : Db} {old changed : RegisteredGame} {game : GameRow} {newTeam : Nat}
    (hold : OnSide db old) (hgame : db.games.find? old.game = some game)
    (hedit : IsEdit game newTeam old changed) : OnSide db changed := by
  obtain ⟨row, hrow, hside⟩ := hold
  obtain rfl := Option.some.inj (hgame.symm.trans hrow)
  refine ⟨game, hedit.game_eq ▸ hgame, ?_⟩
  rw [hedit.team]
  rcases hedit.side with hsame | hnew
  · exact hsame ▸ hside
  · exact hnew

theorem OnSide.of_games {db db' : Db} {r : RegisteredGame} (hgames : db'.games = db.games)
    (h : OnSide db r) : OnSide db' r := by
  unfold OnSide
  rw [hgames]
  exact h

/-- A valid row is saved among valid rows. -/
theorem ValidRows.save {db db' : Db} {row : RegisteredGame} (h : ValidRows db) (hrow : ValidRow db row)
    (hgames : db'.games = db.games) (hregs : db'.registeredGames = db.registeredGames.save row) :
    ValidRows db' := by
  intro r hr
  rw [hregs] at hr
  rcases Table.mem_save.1 hr with rfl | ⟨hold, -⟩
  · exact ⟨hrow.seat, hrow.review, hrow.side.of_games hgames⟩
  · obtain ⟨hseat, hreview, hside⟩ := h r hold
    exact ⟨hseat, hreview, hside.of_games hgames⟩

/-! ## What the requests store -/

theorem RegisteredGame.create_valid {newId : Nat} {props : CreateProps} {row : RegisteredGame}
    (h : create newId props = .ok row) : props.seat ≠ "" ∧ props.review ≠ "" := by
  unfold create at h
  obtain ⟨_, hv, -⟩ := bind_eq_ok.1 h
  unfold validateDomain at hv
  split at hv
  · cases hv
  · split at hv
    · cases hv
    · next hseat =>
      split at hv
      · cases hv
      · next hreview => exact ⟨hseat, hreview⟩

theorem newRegisteredGame_texts {db : Db} {data : SaveRegisteredGameInput} {newId : Nat}
    {row : RegisteredGame} (h : newRegisteredGame db data newId = .ok row) :
    row.seat = data.seat ∧ row.review = data.review ∧ data.seat ≠ "" ∧ data.review ≠ "" := by
  unfold newRegisteredGame at h
  split at h
  · cases h
  · obtain ⟨created, hcreate, h⟩ := bind_eq_ok.1 h
    obtain ⟨hseat, hreview⟩ := RegisteredGame.create_valid hcreate
    obtain ⟨rfl, -⟩ := RegisteredGame.create_ok hcreate
    cases h
    exact ⟨rfl, rfl, hseat, hreview⟩

theorem saveRegistration_texts {db db' : Db} {data : SaveRegisteredGameInput} {newId : Nat}
    {row : RegisteredGame} (h : saveRegistration db data newId = .ok (db', row)) :
    row.seat = data.seat ∧ row.review = data.review ∧ data.seat ≠ "" ∧ data.review ≠ "" := by
  unfold saveRegistration at h
  obtain ⟨saved, hsaved, h⟩ := bind_eq_ok.1 h
  obtain ⟨_, -, h⟩ := bind_eq_ok.1 h
  cases h
  exact newRegisteredGame_texts hsaved

/-- A registration stores a valid row of the values it was given. -/
theorem register_stores {db db' : Db} {dto : CreateRegisteredGameDto} {userId newId : Nat}
    {response : RegisteredGameWithGameResponseDto}
    (h : register db dto userId newId = .ok (db', response)) :
    ∃ row, ValidRow db row ∧ row.seat = dto.seat ∧ row.review = dto.review ∧ row.game = dto.gameId ∧
      row.cheeringTeam = dto.cheeringTeamId ∧ db'.games = db.games ∧
      db'.registeredGames = db.registeredGames.save row := by
  obtain ⟨game, team, db1, saved, hgame, hteam, hsave, hrank⟩ := register_steps h
  obtain ⟨hseat, hreview, hseatGiven, hreviewGiven⟩ := saveRegistration_texts hsave
  obtain ⟨hnew, -, hrowGame, hrowTeam, -, rfl⟩ := saveRegistration_ok (getOneGame_ok hgame) hsave
  have hside : OnSide db saved := ⟨game, hnew.found, hnew.side⟩
  refine ⟨saved, ⟨hseat ▸ hseatGiven, hreview ▸ hreviewGiven, hside⟩, hseat, hreview, hrowGame,
    hrowTeam.trans (findOneTeam_ok hteam), ?_⟩
  obtain ⟨ranks, rfl⟩ := recordSaved_ok hrank
  exact ⟨rfl, rfl⟩

/-- An update stores a registration with the texts it was given, whatever they are. -/
theorem update_stores {db db' : Db} {id : Nat} {dto : UpdateRegisteredGameInput} {userId : Nat}
    {result : UpdateRegisteredGameResult} (h : update db id dto userId = .ok (db', result)) :
    ∃ r game changed, findRegistration db id userId = .ok (r, game) ∧
      IsEdit game dto.cheeringTeamId r changed ∧ changed.seat = dto.seat ∧
      changed.review = dto.review ∧ db'.games = db.games ∧
      db'.registeredGames = db.registeredGames.save changed := by
  rw [update_eq] at h
  obtain ⟨⟨db1, result1⟩, hsaved, h⟩ := bind_eq_ok.1 h
  obtain ⟨db2, hranks, h⟩ := bind_eq_ok.1 h
  cases h
  obtain ⟨r, game, changed, hedited, -, -, -, rfl⟩ := updateRegistration_ok hsaved
  obtain ⟨hr, hu, hgame, hedit, -⟩ := editedRegistration_ok hedited
  obtain ⟨hseat, hreview⟩ := editedRegistration_texts hedited
  obtain ⟨rows, hw, -⟩ := applyRankUpdates_ok hranks
  refine ⟨r, game, changed, findRegistration_of hr hu hgame, hedit, hseat, hreview, ?_⟩
  rw [hw.eq]
  exact ⟨rfl, rfl⟩

theorem delete_stores {db db' : Db} {id userId : Nat} {result : DeleteRegisteredGameResult}
    (h : delete db id userId = .ok (db', result)) :
    db'.games = db.games ∧ db'.registeredGames = db.registeredGames.remove id := by
  obtain ⟨r, game, -, -, -, -, -, hranks⟩ := delete_ok h
  obtain ⟨rows, hw, -⟩ := applyRankUpdates_ok hranks
  rw [hw.eq]
  exact ⟨rfl, rfl⟩

/-! ## Runs of requests -/

/-- The database after a request of a user; a rejected one leaves it. -/
def Db.serve (db : Db) (q : Nat × RegistrationRequest) : Db := committed db (q.2.commit q.1 db)

/-- The cheering team of an update is a team of the registered game. -/
def UpdatesOnSide (db : Db) (id userId newTeam : Nat) : Prop :=
  ∃ r game, findRegistration db id userId = .ok (r, game) ∧
    (newTeam = game.homeTeam ∨ newTeam = game.awayTeam)

/-- The values of the request are not those of a valid row. -/
def Breaks (db : Db) : Nat × RegistrationRequest → Prop
  | (_, .register dto _) => dto.seat = "" ∨ dto.review = "" ∨
      ¬ ∃ game, db.games.find? dto.gameId = some game ∧
        (dto.cheeringTeamId = game.homeTeam ∨ dto.cheeringTeamId = game.awayTeam)
  | (userId, .update id dto) => dto.seat = "" ∨ dto.review = "" ∨
      ¬ UpdatesOnSide db id userId dto.cheeringTeamId
  | (_, .delete _) => False

/-- The stored rows stay valid, and a request with invalid values is rejected without a trace. -/
def StaysValid (db : Db) (q : Nat × RegistrationRequest) : Prop :=
  ValidRows (db.serve q) ∧ (Breaks db q → db.serve q = db ∧ ∃ e, q.2.commit q.1 db = .error e)

/-- An update that finds what it needs brings both texts. -/
def BringsTexts (db : Db) : Nat × RegistrationRequest → Prop
  | (userId, .update id dto) =>
    (∃ r game, findRegistration db id userId = .ok (r, game) ∧
      UpdateAccepted db r game dto) → dto.seat ≠ "" ∧ dto.review ≠ ""
  | _ => True

theorem staysValid_of_error {db : Db} {q : Nat × RegistrationRequest} {e : AppError}
    (h : ValidRows db) (he : q.2.commit q.1 db = .error e) : StaysValid db q := by
  have hsame : db.serve q = db := committed_error he
  refine ⟨?_, fun _ => ⟨hsame, e, he⟩⟩
  rw [hsame]
  exact h

theorem register_staysValid {db : Db} (h : ValidRows db) (userId : Nat)
    (dto : CreateRegisteredGameDto) (newId : Nat) : StaysValid db (userId, .register dto newId) := by
  cases hok : (RegistrationRequest.register dto newId).commit userId db with
  | error e => exact staysValid_of_error h hok
  | ok p =>
    obtain ⟨db', refresh⟩ := p
    have hserve : db.serve (userId, .register dto newId) = db' := committed_ok hok
    obtain ⟨⟨db1, response⟩, hregister, hok⟩ := bind_eq_ok.1 hok
    cases hok
    obtain ⟨row, hrow, hseat, hreview, hgame, hteam, hgames, hregs⟩ := register_stores hregister
    refine ⟨hserve ▸ h.save hrow hgames hregs, ?_⟩
    rintro (hempty | hempty | hside)
    · exact absurd (hseat.trans hempty) hrow.seat
    · exact absurd (hreview.trans hempty) hrow.review
    · obtain ⟨game, hfound, hside'⟩ := hrow.side
      exact absurd ⟨game, hgame ▸ hfound, hteam ▸ hside'⟩ hside

/-- An update is the request that looks at no text. -/
theorem update_staysValid_iff {db : Db} (h : ValidRows db) (userId id : Nat)
    (dto : UpdateRegisteredGameInput) :
    StaysValid db (userId, .update id dto) ↔ BringsTexts db (userId, .update id dto) := by
  cases hok : (RegistrationRequest.update id dto).commit userId db with
  | error e =>
    refine ⟨fun _ haccepted => ?_, fun _ => staysValid_of_error h hok⟩
    obtain ⟨db', result, hupdate⟩ := update_accepted_iff.2 haccepted
    simp only [RegistrationRequest.commit, hupdate] at hok
    cases hok
  | ok p =>
    obtain ⟨db', refresh⟩ := p
    have hserve : db.serve (userId, .update id dto) = db' := committed_ok hok
    obtain ⟨⟨db1, result⟩, hupdate, hok⟩ := bind_eq_ok.1 hok
    cases hok
    obtain ⟨r, game, changed, hfind, hedit, hseat, hreview, hgames, hregs⟩ := update_stores hupdate
    obtain ⟨hr, -, hgame⟩ := findRegistration_ok hfind
    have hside : OnSide db changed := edit_onSide (h r (Table.mem_of_find? hr)).side hgame hedit
    constructor
    · rintro ⟨hvalid, -⟩ -
      rw [hserve] at hvalid
      have hchanged := hvalid changed (hregs ▸ Table.mem_save.2 (Or.inl rfl))
      exact ⟨hseat ▸ hchanged.seat, hreview ▸ hchanged.review⟩
    · intro htexts
      obtain ⟨hseatGiven, hreviewGiven⟩ := htexts (update_accepted_iff.1 ⟨db', result, hupdate⟩)
      refine ⟨hserve ▸ h.save ⟨hseat ▸ hseatGiven, hreview ▸ hreviewGiven, hside⟩ hgames hregs, ?_⟩
      rintro (hempty | hempty | hout)
      · exact absurd hempty hseatGiven
      · exact absurd hempty hreviewGiven
      · obtain ⟨game', hfound, hsides⟩ := hside
        rw [hedit.game_eq, hgame] at hfound
        cases hfound
        exact absurd ⟨r, game, hfind, hedit.team ▸ hsides⟩ hout

theorem delete_staysValid {db : Db} (h : ValidRows db) (userId id : Nat) :
    StaysValid db (userId, .delete id) := by
  refine ⟨?_, nofun⟩
  cases hok : (RegistrationRequest.delete id).commit userId db with
  | error e => exact (staysValid_of_error h hok).1
  | ok p =>
    obtain ⟨db', refresh⟩ := p
    have hserve : db.serve (userId, .delete id) = db' := committed_ok hok
    obtain ⟨⟨db1, result⟩, hdelete, hok⟩ := bind_eq_ok.1 hok
    cases hok
    obtain ⟨hgames, hregs⟩ := delete_stores hdelete
    rw [hserve]
    intro r hr
    rw [hregs] at hr
    obtain ⟨hseat, hreview, hside⟩ := h r (Table.mem_remove.1 hr).1
    exact ⟨hseat, hreview, hside.of_games hgames⟩

/-- One request. -/
theorem staysValid_iff {db : Db} (h : ValidRows db) (q : Nat × RegistrationRequest) :
    StaysValid db q ↔ BringsTexts db q := by
  obtain ⟨userId, request⟩ := q
  cases request with
  | register dto newId => exact iff_of_true (register_staysValid h userId dto newId) trivial
  | update id dto => exact update_staysValid_iff h userId id dto
  | delete id => exact iff_of_true (delete_staysValid h userId id) trivial

/-- **Stored rows stay valid.**  In a run of requests from valid rows, every state has valid rows
and every request with invalid values is rejected, exactly when no accepted update has an empty
seat or review. -/
theorem run_valid_iff (db : Db) (hvalid : ValidRows db) (qs : List (Nat × RegistrationRequest)) :
    Guarded Db.serve StaysValid db qs ↔ Guarded Db.serve BringsTexts db qs :=
  guarded_congr (I := ValidRows) (C := StaysValid) (D := BringsTexts)
    (fun _ q h => staysValid_iff h q) (fun _ q h hq => ((staysValid_iff h q).2 hq).1) hvalid qs

/-- The league after the home team has won. -/
def wonDb : Db := { leagueDb with games := ⟨[wonGame], List.nodup_singleton _⟩ }

theorem wonDb_valid : ValidRows wonDb := nofun

theorem run_valid_kept :
    Guarded Db.serve StaysValid wonDb
      [(7, .register ⟨none, "A1", "good", "20250601HHLG0", 1⟩ 1), (7, .update 1 ⟨2, "B2", "fine", none⟩)] :=
  (run_valid_iff wonDb wonDb_valid _).2 ⟨trivial, fun _ => by decide, trivial⟩

/-- An update empties the seat of a registration. -/
theorem run_valid_emptied :
    ValidRows wonDb ∧
      ((wonDb.serve (7, .register ⟨none, "A1", "good", "20250601HHLG0", 1⟩ 1)).serve
        (7, .update 1 ⟨1, "", "good", none⟩)).registeredGames.find? 1 =
          some ⟨1, none, "", "good", some .win, "20250601HHLG0", 7, 1⟩ ∧
      ¬ Guarded Db.serve StaysValid wonDb
        [(7, .register ⟨none, "A1", "good", "20250601HHLG0", 1⟩ 1),
          (7, .update 1 ⟨1, "", "good", none⟩)] := by
  have hstored : ((wonDb.serve (7, .register ⟨none, "A1", "good", "20250601HHLG0", 1⟩ 1)).serve
      (7, .update 1 ⟨1, "", "good", none⟩)).registeredGames.find? 1 =
        some ⟨1, none, "", "good", some .win, "20250601HHLG0", 7, 1⟩ := rfl
  refine ⟨wonDb_valid, hstored, fun ⟨_, ⟨hvalid, _⟩, _⟩ => ?_⟩
  exact (hvalid _ (Table.mem_of_find? hstored)).seat rfl

/-! ## Swapping the result -/

/-- One call; the entity of a rejected one is thrown away. -/
def RegisteredGame.callUpdate (homeTeam awayTeam : Nat) (r : RegisteredGame) (newTeam : Nat) :
    RegisteredGame :=
  match r.updateCheeringTeam newTeam homeTeam awayTeam with
  | .error _ => r
  | .ok changed => changed

/-- The registration is for one of the teams and has the result of the game for it. -/
structure Agrees (status : String) (winner : Option Nat) (homeTeam awayTeam : Nat)
    (r : RegisteredGame) : Prop where
  side : r.cheeringTeam = homeTeam ∨ r.cheeringTeam = awayTeam
  status : r.status = determineStatus status winner r.cheeringTeam

/-- One call keeps it. -/
theorem Agrees.callUpdate {status : String} {winner : Option Nat} {homeTeam awayTeam : Nat}
    {r : RegisteredGame} (hwinner : ∀ w, winner = some w → w = homeTeam ∨ w = awayTeam)
    (h : Agrees status winner homeTeam awayTeam r) (newTeam : Nat) :
    Agrees status winner homeTeam awayTeam (r.callUpdate homeTeam awayTeam newTeam) := by
  unfold RegisteredGame.callUpdate
  split
  · exact h
  · next changed hchanged =>
    unfold RegisteredGame.updateCheeringTeam at hchanged
    split at hchanged
    · cases hchanged
      exact h
    · next hne =>
      obtain ⟨_, hv, hchanged⟩ := bind_eq_ok.1 hchanged
      cases hchanged
      have hside : newTeam = homeTeam ∨ newTeam = awayTeam :=
        RegisteredGame.validateCheeringTeam_ok hv
      rw [RegisteredGame.changeStatus_eq]
      refine ⟨hside, ?_⟩
      dsimp only
      rw [h.status]
      exact (determineStatus_swap status winner homeTeam awayTeam r.cheeringTeam newTeam hwinner
        h.side hside hne).symm

/-- **Swapping agrees.**  Through any calls with any teams, the status is the one
`determineStatus` gives for the cheering team. -/
theorem flips_agree (status : String) (winner : Option Nat) (homeTeam awayTeam : Nat)
    (hwinner : ∀ w, winner = some w → w = homeTeam ∨ w = awayTeam) (r : RegisteredGame)
    (hside : r.cheeringTeam = homeTeam ∨ r.cheeringTeam = awayTeam)
    (hstatus : r.status = determineStatus status winner r.cheeringTeam) (newTeams : List Nat) :
    Always (RegisteredGame.callUpdate homeTeam awayTeam)
      (fun r => r.status = determineStatus status winner r.cheeringTeam) r newTeams :=
  (always_of_step (I := Agrees status winner homeTeam awayTeam)
    (fun _ newTeam h => h.callUpdate hwinner newTeam) ⟨hside, hstatus⟩ newTeams).imp
    fun _ h => h.status

theorem flips_agree_won :
    Always (RegisteredGame.callUpdate 1 2)
      (fun r => r.status = determineStatus finished (some 1) r.cheeringTeam)
      ⟨1, none, "A1", "good", some .win, "20250601HHLG0", 7, 1⟩ [2, 5, 2, 1] :=
  flips_agree finished (some 1) 1 2 (by decide) _ (Or.inl rfl) rfl [2, 5, 2, 1]

end VictoryFairy
