import VictoryFairy.Proofs.Registrations
import VictoryFairy.Proofs.Scores

/-!
# The record and the opponents

My page sums the rank rows of a user, the statistics count the registrations themselves and
leave out the cancelled games only.

    countGame_foldl    : what the loop counts
    sum_rank_column    : what the rank rows of a ledger add up to
    versus_agrees_iff  : the two agree while no game of the user is undecided
-/

namespace VictoryFairy

open OverallOppTeamResDto

/-! ## The loop -/

namespace VersusGame

def isWin (game : VersusGame) : Bool := game.status = some .win

def isHomeWin (game : VersusGame) : Bool := game.status = some .win ∧ game.homeId = game.supId

/-- The loop counts the game for the other team. -/
def isCounted (game : VersusGame) : Bool := game.status ≠ some .noGame

end VersusGame

def OverallOppTeamResDto.oppWins (stats : OverallOppTeamResDto) : Nat :=
  stats.oppTeam.total fun e => e.2.win

def OverallOppTeamResDto.oppTotals (stats : OverallOppTeamResDto) : Nat :=
  stats.oppTeam.total fun e => e.2.total

theorem opp_eq (stats : OverallOppTeamResDto) (oppId : Nat) :
    (stats.oppTeam.find? oppId).elim 0 (fun e => e.2.total) = (stats.opp oppId).total ∧
    (stats.oppTeam.find? oppId).elim 0 (fun e => e.2.win) = (stats.opp oppId).win := by
  unfold opp
  cases stats.oppTeam.find? oppId <;> exact ⟨rfl, rfl⟩

/-- One game. -/
theorem countGame_step (stats : OverallOppTeamResDto) (game : VersusGame) :
    (stats.countGame game).totalWin = stats.totalWin + (if game.isWin then 1 else 0) ∧
    (stats.countGame game).homeWin = stats.homeWin + (if game.isHomeWin then 1 else 0) ∧
    (stats.countGame game).oppWins = stats.oppWins + (if game.isWin then 1 else 0) ∧
    (stats.countGame game).oppTotals = stats.oppTotals + (if game.isCounted then 1 else 0) := by
  unfold countGame VersusGame.isWin VersusGame.isHomeWin VersusGame.isCounted
  by_cases hno : game.status = some .noGame
  · simp [hno]
  · rw [if_neg hno]
    refine ⟨?_, ?_, ?_, ?_⟩
    · by_cases hwin : game.status = some .win <;> simp [hwin]
    · by_cases hwin : game.status = some .win ∧ game.homeId = game.supId <;> simp [hwin]
    · refine Table.total_save_add ?_
      rw [(opp_eq stats _).2]
      by_cases hwin : game.status = some .win <;> simp [hwin]
    · refine Table.total_save_add ?_
      rw [(opp_eq stats _).1]
      simp [hno]

theorem countGame_foldl (games : List VersusGame) (stats : OverallOppTeamResDto) :
    (games.foldl countGame stats).totalWin = stats.totalWin + games.countP VersusGame.isWin ∧
    (games.foldl countGame stats).homeWin = stats.homeWin + games.countP VersusGame.isHomeWin ∧
    (games.foldl countGame stats).oppWins = stats.oppWins + games.countP VersusGame.isWin ∧
    (games.foldl countGame stats).oppTotals =
      stats.oppTotals + games.countP VersusGame.isCounted := by
  induction games generalizing stats with
  | nil => exact ⟨rfl, rfl, rfl, rfl⟩
  | cons game games ih =>
    obtain ⟨htotal, hhome, hwins, htotals⟩ := countGame_step stats game
    obtain ⟨ihtotal, ihhome, ihwins, ihtotals⟩ := ih (stats.countGame game)
    simp only [List.foldl_cons, List.countP_cons]
    omega

/-! ## The registrations -/

def registrationsOf (db : Db) (userId : Nat) : List RegisteredGame :=
  db.registeredGames.rows.filter fun r => r.user = userId

/-- The game and the cheering team of every registration exist, as their foreign keys demand. -/
def Joined (db : Db) : Prop := ∀ r ∈ db.registeredGames.rows,
  (db.games.find? r.game).isSome ∧ (db.teams.find? r.cheeringTeam).isSome

/-- The user cheered for the home team. -/
def isHomeGame (db : Db) (r : RegisteredGame) : Bool :=
  (db.games.find? r.game).any fun game => game.homeTeam = r.cheeringTeam

section

variable {db : Db} {userId : Nat}

theorem versusGame_joined (hjoined : Joined db) {r : RegisteredGame}
    (hr : r ∈ db.registeredGames.rows) : ∃ game, versusGame db r = some game ∧
      game.status = r.status ∧ (game.homeId = game.supId ↔ isHomeGame db r = true) := by
  obtain ⟨hgame, hteam⟩ := hjoined r hr
  obtain ⟨game, hgame⟩ := Option.isSome_iff_exists.1 hgame
  obtain ⟨team, hteam⟩ := Option.isSome_iff_exists.1 hteam
  have hid : team.id = r.cheeringTeam := Table.find?_key hteam
  refine ⟨⟨game.winningTeam, game.homeTeam, game.awayTeam, r.status, team.id⟩, ?_, rfl, ?_⟩
  · unfold versusGame
    rw [hgame, hteam]
    rfl
  · unfold isHomeGame
    rw [hgame, hid, Option.any_some, decide_eq_true_iff]

/-- No registration is lost in the joins. -/
theorem countP_versusGames (hjoined : Joined db) {p : VersusGame → Bool} {q : RegisteredGame → Bool}
    (h : ∀ r game, game.status = r.status → (game.homeId = game.supId ↔ isHomeGame db r = true) →
      p game = q r) :
    (versusGames db userId).countP p = (registrationsOf db userId).countP q := by
  unfold versusGames
  rw [List.countP_filterMap]
  refine List.countP_congr fun r hr => ?_
  obtain ⟨game, hgame, hstatus, hhome⟩ := versusGame_joined hjoined (List.mem_filter.1 hr).1
  rw [hgame, Option.map_some, Option.getD_some, h r game hstatus hhome]

/-- The statistics, counted on the registrations. -/
theorem versusStats_eq (hjoined : Joined db) (userId : Nat) :
    (getUserVersusTeamStats db userId).totalWin =
      (registrationsOf db userId).countP (fun r => r.status = some .win) ∧
    (getUserVersusTeamStats db userId).homeWin =
      (registrationsOf db userId).countP (fun r => r.status = some .win ∧ isHomeGame db r) ∧
    (getUserVersusTeamStats db userId).oppWins =
      (registrationsOf db userId).countP (fun r => r.status = some .win) ∧
    (getUserVersusTeamStats db userId).oppTotals =
      (registrationsOf db userId).countP (fun r => r.status ≠ some .noGame) := by
  have hwin : (versusGames db userId).countP VersusGame.isWin =
      (registrationsOf db userId).countP (fun r => r.status = some .win) :=
    countP_versusGames hjoined fun r game hstatus _ => by rw [VersusGame.isWin, hstatus]
  have hhome : (versusGames db userId).countP VersusGame.isHomeWin =
      (registrationsOf db userId).countP (fun r => r.status = some .win ∧ isHomeGame db r) :=
    countP_versusGames hjoined fun r game hstatus hhome => by
      simp only [VersusGame.isHomeWin, hstatus, hhome]
  have hcounted : (versusGames db userId).countP VersusGame.isCounted =
      (registrationsOf db userId).countP (fun r => r.status ≠ some .noGame) :=
    countP_versusGames hjoined fun r game hstatus _ => by rw [VersusGame.isCounted, hstatus]
  obtain ⟨h1, h2, h3, h4⟩ := countGame_foldl (versusGames db userId) ⟨0, 0, .empty⟩
  rw [Nat.zero_add, hwin] at h1
  rw [Nat.zero_add, hhome] at h2
  refine ⟨h1, h2, h3.trans ?_, h4.trans ?_⟩
  · rw [hwin]
    exact Nat.zero_add _
  · rw [hcounted]
    exact Nat.zero_add _

/-! ## The rank rows -/

/-- The rank row a registration counts for. -/
def rankKeyOf (db : Db) (r : RegisteredGame) : RankKey :=
  ⟨r.user, r.cheeringTeam, (db.yearOf r.game).getD 0⟩

theorem hit_joined (hjoined : Joined db) {r : RegisteredGame} (hr : r ∈ db.registeredGames.rows)
    (k : RankKey) (s : RegisteredGameStatus) :
    db.hit k s r = if rankKeyOf db r = k ∧ r.status = some s then 1 else 0 := by
  obtain ⟨game, hgame⟩ := Option.isSome_iff_exists.1 (hjoined r hr).1
  have hyear : db.yearOf r.game = some game.date.getFullYear := by
    unfold Db.yearOf
    rw [hgame]
    rfl
  unfold rankKeyOf
  rw [Db.hit_eq hyear, hyear, Option.getD_some]

/-- The registrations of the user with the status. -/
def settledWith (db : Db) (userId : Nat) (s : RegisteredGameStatus) : List RegisteredGame :=
  (registrationsOf db userId).filter fun r => r.status = some s

theorem mem_settledWith {s : RegisteredGameStatus} {r : RegisteredGame} :
    r ∈ settledWith db userId s ↔
      r ∈ db.registeredGames.rows ∧ r.user = userId ∧ r.status = some s := by
  unfold settledWith registrationsOf
  rw [List.mem_filter, List.mem_filter, and_assoc, decide_eq_true_iff, decide_eq_true_iff]

/-- A counter is the number of the settled registrations of its row. -/
theorem rank_column_eq (hledger : db.Ledger) (hjoined : Joined db) {row : Rank}
    (hrow : row ∈ rowsOf db userId) (s : RegisteredGameStatus) :
    row.get (GameResultColumnMap s) =
      ((settledWith db userId s).map fun r => if rankKeyOf db r = row.key then 1 else 0).sum := by
  obtain ⟨hmem, huser⟩ := mem_rowsOf.1 hrow
  have hrecorded : db.recorded row.key (GameResultColumnMap s) = row.get (GameResultColumnMap s) := by
    unfold Db.recorded
    rw [Table.find?_of_mem hmem]
    rfl
  have htally : db.tally row.key s = ((settledWith db userId s).map (db.hit row.key s)).sum := by
    unfold settledWith registrationsOf
    rw [List.filter_filter]
    refine (Table.sum_filter_eq _ _ _ fun r hr hout => ?_).symm
    show db.hit row.key s r = 0
    rw [hit_joined hjoined hr]
    refine if_neg fun h => ?_
    have hsame : r.user = userId := (congrArg RankKey.user h.1).trans huser
    simp [hsame, h.2] at hout
  rw [← hrecorded, hledger, htally]
  refine congrArg List.sum (List.map_congr_left fun r hr => ?_)
  obtain ⟨hr, -, hstatus⟩ := mem_settledWith.1 hr
  simp only [hit_joined hjoined hr, hstatus, and_true]

/-- A settled registration has its rank row. -/
theorem rankKeyOf_mem (hledger : db.Ledger) (hjoined : Joined db) {s : RegisteredGameStatus}
    {r : RegisteredGame} (hr : r ∈ settledWith db userId s) :
    rankKeyOf db r ∈ (rowsOf db userId).map Rank.key := by
  obtain ⟨hmem, huser, hstatus⟩ := mem_settledWith.1 hr
  have hone : 1 ≤ db.recorded (rankKeyOf db r) (GameResultColumnMap s) := by
    rw [hledger]
    refine le_trans ?_ (Table.le_total (db.hit (rankKeyOf db r) s) hmem)
    rw [hit_joined hjoined hmem, if_pos ⟨rfl, hstatus⟩]
  unfold Db.recorded at hone
  cases hfind : db.ranks.find? (rankKeyOf db r) with
  | none =>
    rw [hfind] at hone
    cases hone
  | some row =>
    have hkey := Table.find?_key hfind
    have hrow : row.user = userId := (congrArg RankKey.user hkey).trans huser
    exact List.mem_map.2 ⟨row, mem_rowsOf.2 ⟨Table.mem_of_find? hfind, hrow⟩, hkey⟩

/-- The rank rows of a ledger add up to the registrations with the status. -/
theorem sum_rank_column (hledger : db.Ledger) (hjoined : Joined db) (userId : Nat)
    (s : RegisteredGameStatus) :
    ((rowsOf db userId).map fun row => row.get (GameResultColumnMap s)).sum =
      (registrationsOf db userId).countP fun r => r.status = some s := by
  have hkeys : ((rowsOf db userId).map Rank.key).Nodup :=
    db.ranks.nodup.sublist (List.filter_sublist.map Rank.key)
  have hgroups := Table.sum_groups (fun _ => 1) (rankKeyOf db) (settledWith db userId s) _ hkeys
    fun r hr => rankKeyOf_mem hledger hjoined hr
  rw [List.map_congr_left fun row hrow => rank_column_eq hledger hjoined hrow s]
  rw [List.map_map] at hgroups
  refine hgroups.trans ?_
  rw [List.map_const', List.sum_replicate_nat, Nat.mul_one, List.countP_eq_length_filter]
  rfl

/-! ## The two pages -/

theorem countP_statuses (l : List RegisteredGame) :
    l.countP (fun r => r.status ≠ some .noGame) =
      l.countP (fun r => r.status = some .win) + l.countP (fun r => r.status = some .lose) +
        l.countP (fun r => r.status = some .tie) + l.countP fun r => r.status = none := by
  induction l with
  | nil => rfl
  | cons r l ih =>
    simp only [List.countP_cons, ih]
    rcases hstatus : r.status with - | s
    · simp
      omega
    · cases s <;> simp <;> omega

/-- My page of the user, read from the registrations. -/
theorem myPage_record (hledger : db.Ledger) (hjoined : Joined db) {page : UserMyPageDto}
    (h : getUserMyPageInfo db userId = .ok page) :
    page.record.win = some ((registrationsOf db userId).countP fun r => r.status = some .win : Int) ∧
    page.record.lose = some ((registrationsOf db userId).countP fun r => r.status = some .lose : Int) ∧
    page.record.tie = some ((registrationsOf db userId).countP fun r => r.status = some .tie : Int) := by
  have hsum := sum_rank_column hledger hjoined userId
  rw [getUserMyPageInfo_ok h, totalEntry_eq, ← hsum, ← hsum, ← hsum]
  exact ⟨rfl, rfl, rfl⟩

end

/-- The wins of the statistics are those of the record. -/
structure WinsAgree (db : Db) (userId : Nat) (record : RankRecordResDto)
    (stats : OverallOppTeamResDto) : Prop where
  totalWin : record.win = some (stats.totalWin : Int)
  homeWin : stats.homeWin =
    (registrationsOf db userId).countP fun r => r.status = some .win ∧ isHomeGame db r
  oppWins : stats.oppWins = stats.totalWin

/-- So are the games. -/
structure StatsAgree (db : Db) (userId : Nat) (record : RankRecordResDto)
    (stats : OverallOppTeamResDto) : Prop extends WinsAgree db userId record stats where
  oppTotals : ∃ win lose tie, record.win = some win ∧ record.lose = some lose ∧
    record.tie = some tie ∧ (stats.oppTotals : Int) = win + lose + tie

/-- **The opponents and the record.**  With a ledger the wins agree; the games agree exactly
when none of the user's is undecided. -/
theorem versus_agrees_iff (db : Db) (userId : Nat) (hledger : db.Ledger) (hjoined : Joined db)
    (huser : (db.users.find? userId).isSome) :
    ∃ page, getUserMyPageInfo db userId = .ok page ∧
      WinsAgree db userId page.record (getUserVersusTeamStats db userId) ∧
      (StatsAgree db userId page.record (getUserVersusTeamStats db userId) ↔
        ∀ r ∈ db.registeredGames.rows, r.user = userId → r.status ≠ none) := by
  obtain ⟨page, hpage⟩ := exists_myPage huser
  obtain ⟨hwin, hlose, htie⟩ := myPage_record hledger hjoined hpage
  obtain ⟨htotal, hhome, hopp, hcounted⟩ := versusStats_eq hjoined userId
  have hwins : WinsAgree db userId page.record (getUserVersusTeamStats db userId) :=
    ⟨by rw [hwin, htotal], hhome, hopp.trans htotal.symm⟩
  have hnone : (registrationsOf db userId).countP (fun r => r.status = none) = 0 ↔
      ∀ r ∈ db.registeredGames.rows, r.user = userId → r.status ≠ none := by
    simp [registrationsOf, List.countP_eq_zero]
  rw [countP_statuses] at hcounted
  refine ⟨page, hpage, hwins, ?_⟩
  rw [← hnone]
  constructor
  · intro h
    obtain ⟨win, lose, tie, hw, hl, ht, hsum⟩ := h.oppTotals
    rw [hwin, Option.some.injEq] at hw
    rw [hlose, Option.some.injEq] at hl
    rw [htie, Option.some.injEq] at ht
    omega
  · intro hzero
    refine ⟨hwins, _, _, _, hwin, hlose, htie, ?_⟩
    rw [hcounted, hzero, Nat.add_zero]
    push_cast
    rfl

/-- The fan has seen the home team win. -/
def seenDb : Db :=
  { leagueDb with
    games := ⟨[wonGame], by decide⟩
    registeredGames := ⟨[⟨1, none, "A1", "good", some .win, wonGame.id, 7, 1⟩], by decide⟩
    ranks := Table.empty.save ⟨7, 1, 2025, 1, 0, 0, 0⟩ }

theorem seenDb_ledger : seenDb.Ledger := by
  intro k s
  have hrecorded : seenDb.recorded k (GameResultColumnMap s) =
      if (⟨7, 1, 2025⟩ : RankKey) = k ∧ s = .win then 1 else 0 := by
    have hfind : seenDb.ranks.find? k =
        if (⟨7, 1, 2025⟩ : RankKey) = k then some ⟨7, 1, 2025, 1, 0, 0, 0⟩ else none :=
      Table.find?_save Table.empty _ k
    unfold Db.recorded
    rw [hfind]
    by_cases hk : (⟨7, 1, 2025⟩ : RankKey) = k
    · subst hk
      cases s <;> rfl
    · rw [if_neg hk, if_neg fun h => hk h.1]
      rfl
  have htally : seenDb.tally k s = seenDb.hit k s ⟨1, none, "A1", "good", some .win, wonGame.id, 7, 1⟩ :=
    Nat.add_zero _
  have hyear : seenDb.yearOf wonGame.id = some 2025 := rfl
  rw [hrecorded, htally, Db.hit_eq hyear]
  simp [eq_comm]

theorem versus_agrees_seen : ∃ page, getUserMyPageInfo seenDb 7 = .ok page ∧
    StatsAgree seenDb 7 page.record (getUserVersusTeamStats seenDb 7) ∧
    (getUserVersusTeamStats seenDb 7).oppTeam.rows = [(2, ⟨1, 1⟩)] := by
  have hjoined : Joined seenDb := fun r hr => by rw [List.mem_singleton.1 hr]; exact ⟨rfl, rfl⟩
  obtain ⟨page, hpage, -, hagree⟩ := versus_agrees_iff seenDb 7 seenDb_ledger hjoined rfl
  refine ⟨page, hpage, hagree.2 fun r hr _ => ?_, by decide⟩
  rw [List.mem_singleton.1 hr]
  exact Option.some_ne_none _

/-- A game that is still to come is counted against the other team. -/
theorem versus_counts_coming :
    (pendingDb .empty).Ledger ∧ Joined (pendingDb .empty) ∧
    ∃ page, getUserMyPageInfo (pendingDb .empty) 7 = .ok page ∧
      page.record.win = some 0 ∧ page.record.lose = some 0 ∧ page.record.tie = some 0 ∧
      (getUserVersusTeamStats (pendingDb .empty) 7).oppTotals = 1 ∧
      ¬ StatsAgree (pendingDb .empty) 7 page.record (getUserVersusTeamStats (pendingDb .empty) 7) := by
  have hledger : (pendingDb .empty).Ledger := by
    intro k s
    refine Eq.symm (Table.total_eq_zero.2 fun r hr => ?_)
    rw [List.mem_singleton.1 hr]
    simp [Db.counts]
  have hjoined : Joined (pendingDb .empty) :=
    fun r hr => by rw [List.mem_singleton.1 hr]; exact ⟨rfl, rfl⟩
  have hopp : (getUserVersusTeamStats (pendingDb .empty) 7).oppTotals = 1 := by decide
  obtain ⟨page, hpage⟩ := exists_myPage (show ((pendingDb .empty).users.find? 7).isSome from rfl)
  obtain ⟨hwin, hlose, htie⟩ := myPage_record hledger hjoined hpage
  refine ⟨hledger, hjoined, page, hpage, hwin, hlose, htie, hopp, fun h => ?_⟩
  obtain ⟨win, lose, tie, hw, hl, ht, hsum⟩ := h.oppTotals
  cases hwin.symm.trans hw
  cases hlose.symm.trans hl
  cases htie.symm.trans ht
  rw [hopp] at hsum
  cases hsum

end VictoryFairy
