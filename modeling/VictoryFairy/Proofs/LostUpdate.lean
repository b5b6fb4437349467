import VictoryFairy.Proofs.Ledger
import VictoryFairy.Model.RankTransactions

/-!
# Concurrent requests and lost updates

Every transaction in flight carries its own promise (`TxInv`): its registration row is
untouched by the others, and its uncommitted rank rows are the committed ones plus
the net effect of the updates it has made.  Rank rows that a transaction has
written are locked, so the commit of one keeps the promises of the others; a commit
then exchanges one registration and makes up for it, as a request alone does.

The promise is kept by an `UPDATE` that hits the values `findOne` returned
(`FreshWrite`), and by no other.

    begin_txInv        : a transaction starts with the promise
    commit_txInv       : the commit of another one keeps it
    step_raceInv       : one event keeps all promises and the ledger, if fresh
    no_lost_update     : hence so does a run of fresh writes
    solo_commit        : alone, a transaction is the request of the sequential model
-/

namespace VictoryFairy

open Runs

/-! ## The registration row -/

namespace RegChange

/-- The change starts from what is stored. -/
structure Fits (change : RegChange) (db : Db) : Prop where
  old : db.registeredGames.find? change.id = change.old
  new : ∀ r, change.new = some r → r.id = change.id

theorem apply_games (change : RegChange) (db : Db) : (change.apply db).games = db.games := by
  cases change <;> rfl

theorem apply_users (change : RegChange) (db : Db) : (change.apply db).users = db.users := by
  cases change <;> rfl

/-- The tally gains the new row's hit and loses the old one's. -/
theorem tally_apply {change : RegChange} {db : Db} (h : change.Fits db) (k : RankKey)
    (s : RegisteredGameStatus) :
    (change.apply db).tally k s + change.old.elim 0 (db.hit k s) =
      db.tally k s + change.new.elim 0 (db.hit k s) := by
  cases change with
  | insert row =>
    have hsave := db.tally_save row k s
    rw [show db.registeredGames.find? row.id = none from h.old] at hsave
    exact hsave
  | replace old new =>
    have hsave := db.tally_save new k s
    rw [show new.id = old.id from h.new new rfl,
      show db.registeredGames.find? old.id = some old from h.old] at hsave
    exact hsave
  | remove old =>
    have hremove := db.tally_remove old.id k s
    rw [show db.registeredGames.find? old.id = some old from h.old] at hremove
    exact hremove

/-- A row of another id is left alone. -/
theorem find?_apply {change : RegChange} {db : Db} (h : change.Fits db) {id : Nat}
    (hne : change.id ≠ id) :
    (change.apply db).registeredGames.find? id = db.registeredGames.find? id := by
  cases change with
  | insert row => exact Table.find?_save_of_ne _ hne
  | replace old new =>
    have hid : new.id = old.id := h.new new rfl
    exact Table.find?_save_of_ne _ (by rw [hid]; exact hne)
  | remove old =>
    show (db.registeredGames.remove old.id).find? id = _
    rw [Table.find?_remove]
    exact if_neg hne

end RegChange

/-! ## The promise of a transaction -/

/-- The sum of the net effects of the updates made so far. -/
def Tx.made (t : Tx) (k : RankKey) (c : RankColumn) : Int :=
  ((t.updates.take t.next).map fun u => u.net k c).sum

/-- What the phase remembers of the current update `u`. -/
def PhaseInv (db : Db) (t : Tx) (u : RankUpdate) : Prop :=
  match t.phase with
  | .idle => True
  | .found row => ∀ r, row = some r → r.key = u.1.key ∧ (t.visible db u.1.key).isSome
  | .insert target => target.key = u.1.key ∧ ∀ c, (target.get c : Int) = u.net u.1.key c
  | .update row target _ =>
    (t.visible db u.1.key).isSome ∧ ∀ c, (target.get c : Int) = row.get c + u.net u.1.key c

structure TxInv (db : Db) (t : Tx) : Prop where
  change : t.change.Fits db
  net : ∀ k s, ((t.change.new.elim 0 (db.hit k s) : Nat) : Int) -
      (t.change.old.elim 0 (db.hit k s) : Nat) =
    (t.updates.map fun u => u.net k (GameResultColumnMap s)).sum
  written : ∀ k c, ((db.withRanks (db.ranks.saveAll t.buffer)).recorded k c : Int) =
    db.recorded k c + t.made k c
  phase : ∀ u, t.current = some u → PhaseInv db t u

/-! ### At the start -/

theorem begin_txInv {userId : Nat} {db : Db} {r : RegistrationRequest} {change : RegChange}
    {updates : List RankUpdate} (h : r.begin userId db = .ok (change, updates)) :
    TxInv db ⟨change, updates, 0, .idle, []⟩ := by
  -- nothing is written yet, so only the registration needs a look
  suffices hreg : change.Fits db ∧ ∀ k s,
      ((change.new.elim 0 (db.hit k s) : Nat) : Int) - (change.old.elim 0 (db.hit k s) : Nat) =
        (updates.map fun u => u.net k (GameResultColumnMap s)).sum from
    ⟨hreg.1, hreg.2, fun k c => (Int.add_zero _).symm, fun u _ => trivial⟩
  unfold RegistrationRequest.begin at h
  cases r with
  | register dto newId =>
    obtain ⟨game, hgame, h⟩ := bind_eq_ok.1 h
    obtain ⟨team, -, h⟩ := bind_eq_ok.1 h
    obtain ⟨⟨db1, saved⟩, hsave, h⟩ := bind_eq_ok.1 h
    dsimp only at h
    split at h
    · cases h
    · cases h
      obtain ⟨hnew, -⟩ := saveRegistration_ok (getOneGame_ok hgame) hsave
      have hy : db.yearOf saved.game = some game.date.getFullYear := by simp [Db.yearOf, hnew.found]
      refine ⟨⟨?_, fun r hr => by cases hr; rfl⟩, fun k s => ?_⟩
      · exact Table.find?_eq_none.2 fun o ho he => (hnew.fresh o ho).1 (he.trans hnew.id)
      · rw [sum_registerUpdates hy]
        simp [RegChange.new, RegChange.old]
  | update id dto =>
    obtain ⟨⟨old, game, changed⟩, hedited, h⟩ := bind_eq_ok.1 h
    obtain ⟨⟨db1, result⟩, hupdate, h⟩ := bind_eq_ok.1 h
    cases h
    obtain ⟨r, game', changed', hedited', -, hctx, -, -⟩ := updateRegistration_ok hupdate
    rw [hedited] at hedited'
    cases hedited'
    obtain ⟨hr, rfl, hg, hedit, -⟩ := editedRegistration_ok hedited
    have hy : db.yearOf old.game = some game.date.getFullYear := by simp [Db.yearOf, hg]
    have hid : old.id = id := Table.find?_key hr
    refine ⟨⟨?_, fun r hr => by cases hr; exact hedit.id⟩, fun k s => ?_⟩
    · show db.registeredGames.find? old.id = some old
      rw [hid, hr]
    · rw [sum_teamUpdates hy hedit hctx]
      rfl
  | delete id =>
    obtain ⟨⟨old, game⟩, hfind, h⟩ := bind_eq_ok.1 h
    obtain ⟨⟨db1, result⟩, hdelete, h⟩ := bind_eq_ok.1 h
    cases h
    obtain ⟨hr, rfl, hg⟩ := findRegistration_ok hfind
    have hctx : result.gameCtx =
        { status := old.status, teamId := old.cheeringTeam, year := game.date.getFullYear } := by
      unfold deleteRegistration at hdelete
      rw [hfind] at hdelete
      cases hdelete
      rfl
    have hy : db.yearOf old.game = some game.date.getFullYear := by simp [Db.yearOf, hg]
    have hid : old.id = id := Table.find?_key hr
    refine ⟨⟨?_, fun r hr => by cases hr⟩, fun k s => ?_⟩
    · show db.registeredGames.find? old.id = some old
      rw [hid, hr]
    · rw [sum_gameUpdates hy hctx]
      simp [RegChange.new, RegChange.old]

/-! ### Under the commit of another transaction -/

theorem Tx.apply_recorded (db : Db) (t : Tx) (k : RankKey) (c : RankColumn) :
    (t.apply db).recorded k c = (db.withRanks (db.ranks.saveAll t.buffer)).recorded k c := rfl

theorem recorded_saveAll_of_notMem (db : Db) (l : List Rank) {k : RankKey}
    (h : ∀ r ∈ l, r.key ≠ k) (c : RankColumn) :
    (db.withRanks (db.ranks.saveAll l)).recorded k c = db.recorded k c := by
  unfold Db.recorded
  rw [Db.withRanks_ranks, Table.find?_saveAll_of_notMem _ _ h]

/-- The commit of `t` keeps the promise of `t'`, whose row and rank rows are others. -/
theorem commit_txInv {db : Db} {t t' : Tx} (ht : TxInv db t) (h : TxInv db t')
    (hid : t.change.id ≠ t'.change.id) (hlock : ∀ r ∈ t.buffer, ∀ r' ∈ t'.buffer, r.key ≠ r'.key) :
    TxInv (t.apply db) t' := by
  have hhit : ∀ k s, (t.apply db).hit k s = db.hit k s := by
    intro k s
    funext r
    have hgames : (t.apply db).games = db.games := t.change.apply_games db
    unfold Db.hit Db.counts Db.yearOf
    rw [hgames]
  refine ⟨⟨?_, h.change.new⟩, fun k s => ?_, fun k c => ?_, fun u hu => ?_⟩
  · exact (RegChange.find?_apply ht.change hid).trans h.change.old
  · rw [hhit]
    exact h.net k s
  · have hold := h.written k c
    by_cases hk : ∃ r' ∈ t'.buffer, r'.key = k
    · -- the row is `t'`'s own, and locked: the commit has not written it
      have hsame : ((t.apply db).withRanks ((t.apply db).ranks.saveAll t'.buffer)).recorded k c =
          (db.withRanks (db.ranks.saveAll t'.buffer)).recorded k c := by
        unfold Db.recorded
        rw [Db.withRanks_ranks, Db.withRanks_ranks,
          Table.find?_saveAll_of_mem (t.apply db).ranks db.ranks t'.buffer hk]
      have hkeep : (t.apply db).recorded k c = db.recorded k c := by
        rw [Tx.apply_recorded]
        refine recorded_saveAll_of_notMem db t.buffer (fun r hr he => ?_) c
        obtain ⟨r', hr', hk'⟩ := hk
        exact hlock r hr r' hr' (he.trans hk'.symm)
      rw [hsame, hkeep]
      exact hold
    · -- `t'` has not written the row, so its updates add nothing there
      have hno : ∀ r' ∈ t'.buffer, r'.key ≠ k := fun r' hr' he => hk ⟨r', hr', he⟩
      rw [recorded_saveAll_of_notMem _ _ hno] at hold ⊢
      omega
  · -- a row that was there stays
    have hseen : (t'.visible db u.1.key).isSome → (t'.visible (t.apply db) u.1.key).isSome := by
      intro hsome
      unfold Tx.visible at hsome ⊢
      by_cases hk : ∃ r' ∈ t'.buffer, r'.key = u.1.key
      · rw [Table.find?_saveAll_of_mem (t.apply db).ranks db.ranks t'.buffer hk]
        exact hsome
      · have hno : ∀ r' ∈ t'.buffer, r'.key ≠ u.1.key := fun r' hr' he => hk ⟨r', hr', he⟩
        rw [Table.find?_saveAll_of_notMem _ _ hno] at hsome ⊢
        exact Table.isSome_find?_saveAll db.ranks t.buffer hsome
    have hp := h.phase u hu
    unfold PhaseInv at hp ⊢
    cases hphase : t'.phase with
    | idle => trivial
    | insert target => rw [hphase] at hp; exact hp
    | update row target columns => rw [hphase] at hp; exact ⟨hseen hp.1, hp.2⟩
    | found row =>
      rw [hphase] at hp
      exact fun r hr => ⟨(hp r hr).1, hseen (hp r hr).2⟩

/-! ### Its own steps -/

section

variable {db : Db} {t : Tx} {u : RankUpdate}

theorem Tx.made_advance (hu : t.current = some u) (rows : List Rank) (k : RankKey) (c : RankColumn) :
    (t.advance rows).made k c = t.made k c + u.net k c := by
  obtain ⟨hlt, hget⟩ := List.getElem?_eq_some_iff.1 hu
  unfold Tx.made Tx.advance
  rw [List.take_add_one, List.getElem?_eq_getElem hlt, hget]
  simp

/-- Making an update without a write, when it adds nothing. -/
theorem TxInv.skip (h : TxInv db t) (hu : t.current = some u) (hz : ∀ c, u.net u.1.key c = 0) :
    TxInv db (t.advance []) := by
  refine ⟨h.change, h.net, fun k c => ?_, fun v _ => trivial⟩
  have hnet : u.net k c = 0 := by
    by_cases hk : u.1.key = k
    · rw [← hk]; exact hz c
    · unfold RankUpdate.net
      rw [if_neg fun hc => hk hc.1]
  rw [Tx.made_advance hu, hnet, Int.add_zero]
  have hbuf : (t.advance []).buffer = t.buffer := List.append_nil _
  rw [hbuf]
  exact h.written k c

/-- Writing a row that is the visible one plus the update's net effect. -/
theorem TxInv.write (h : TxInv db t) (hu : t.current = some u) {row : Rank}
    (hkey : row.key = u.1.key)
    (hrow : ∀ c, (row.get c : Int) = (t.visible db u.1.key).elim 0 (·.get c) + u.net u.1.key c) :
    TxInv db (t.advance [row]) := by
  refine ⟨h.change, h.net, fun k c => ?_, fun v _ => trivial⟩
  have hwritten := h.written k c
  have hsave : (db.withRanks (db.ranks.saveAll (t.buffer ++ [row]))).recorded k c =
      if row.key = k then row.get c else (db.withRanks (db.ranks.saveAll t.buffer)).recorded k c := by
    rw [Table.saveAll_concat]
    exact recorded_saveRank (db.withRanks (db.ranks.saveAll t.buffer)) row k c
  rw [Tx.made_advance hu]
  show ((db.withRanks (db.ranks.saveAll (t.buffer ++ [row]))).recorded k c : Int) = _
  rw [hsave]
  by_cases hk : row.key = k
  · have hk' : u.1.key = k := hkey.symm.trans hk
    have hget := hrow c
    rw [hk'] at hget
    rw [if_pos hk, hget]
    change ((t.visible db k).elim 0 (·.get c) : Nat) = db.recorded k c + t.made k c at hwritten
    omega
  · have hnet : u.net k c = 0 := by
      unfold RankUpdate.net
      rw [if_neg fun hc => hk (hkey.trans hc.1)]
    rw [if_neg hk, hnet]
    omega

end

/-! ## Columns -/

theorem Rank.key_setColumns (row target : Rank) (columns : List RankColumn) :
    (row.setColumns target columns).key = row.key := by
  unfold setColumns
  induction columns generalizing row with
  | nil => rfl
  | cons c columns ih => rw [List.foldl_cons, ih, key_set]

theorem Rank.get_setColumns (row target : Rank) (columns : List RankColumn) (c : RankColumn) :
    (row.setColumns target columns).get c = if c ∈ columns then target.get c else row.get c := by
  unfold setColumns
  induction columns generalizing row with
  | nil => rfl
  | cons d columns ih =>
    rw [List.foldl_cons, ih, get_set]
    by_cases hc : c ∈ columns
    · simp [hc]
    · by_cases hd : d = c
      · simp [hd]
      · simp [hc, hd, Ne.symm hd]

/-! ## All transactions -/

/-- An `UPDATE` that is sent sets only columns that still hold what `findOne` returned, and
the column to adjust is among them. -/
def FreshWrite (s : RankRace) : TxEvent → Prop
  | .write i => ∀ t u row target columns, s.tx i = some t → t.current = some u →
      t.phase = .update row target columns → (columns = [] ∨ s.locked i u.1.key = false) →
      ∀ c, if c ∈ columns then ∀ now, t.visible s.db u.1.key = some now → now.get c = row.get c
        else target.get c = row.get c
  | _ => True

structure RaceInv (s : RankRace) : Prop where
  ledger : s.db.Ledger
  tx : ∀ i t, s.tx i = some t → TxInv s.db t
  locks : ∀ i j t t', s.tx i = some t → s.tx j = some t' → i ≠ j →
    ∀ r ∈ t.buffer, ∀ r' ∈ t'.buffer, r.key ≠ r'.key
  ids : ∀ i j t t', s.tx i = some t → s.tx j = some t' → i ≠ j → t.change.id ≠ t'.change.id

namespace RankRace

theorem tx_eq_some {s : RankRace} {i : Nat} {t : Tx} :
    s.tx i = some t ↔ s.txs[i]? = some (some t) := by
  unfold tx
  cases s.txs[i]? with
  | none => simp
  | some o => simp

theorem tx_setTx {s : RankRace} {i j : Nat} {o : Option Tx} {t : Tx}
    (h : (s.setTx i o).tx j = some t) : (j = i ∧ o = some t) ∨ (j ≠ i ∧ s.tx j = some t) := by
  rcases getElem?_set_cases (tx_eq_some.1 h) with ⟨hj, ht⟩ | ⟨hj, ht⟩
  · exact Or.inl ⟨hj, ht.symm⟩
  · exact Or.inr ⟨hj, tx_eq_some.2 ht⟩

theorem locked_eq_false {s : RankRace} {i : Nat} {k : RankKey} (h : s.locked i k = false) {j : Nat}
    {t : Tx} (hne : j ≠ i) (ht : s.tx j = some t) {r : Rank} (hr : r ∈ t.buffer) : r.key ≠ k := by
  intro hk
  have hmem : (some t, j) ∈ s.txs.zipIdx := by
    rw [List.mem_zipIdx_iff_getElem?]
    exact tx_eq_some.1 ht
  have hfalse := List.any_eq_false.1 h _ hmem
  refine hfalse ?_
  simp only [hne, ne_eq, not_false_eq_true, decide_true, Option.any_some, Bool.true_and,
    List.any_eq_true, decide_eq_true_eq]
  exact ⟨r, hr, hk⟩

end RankRace

/-- One transaction goes on: its row stays, and what it writes nobody else has locked. -/
theorem RaceInv.set {s : RankRace} (h : RaceInv s) {i : Nat} {t t' : Tx} (ht : s.tx i = some t)
    (hinv : TxInv s.db t') (hchange : t'.change = t.change)
    (hbuffer : ∀ r ∈ t'.buffer, r ∈ t.buffer ∨ s.locked i r.key = false) :
    RaceInv (s.setTx i (some t')) := by
  have hdisjoint : ∀ j u, j ≠ i → s.tx j = some u → ∀ r ∈ t'.buffer, ∀ r' ∈ u.buffer,
      r.key ≠ r'.key := by
    intro j u hj hu r hr r' hr' he
    rcases hbuffer r hr with hr | hr
    · exact h.locks i j t u ht hu (Ne.symm hj) r hr r' hr' he
    · exact RankRace.locked_eq_false hr hj hu hr' he.symm
  refine ⟨h.ledger, fun j u hu => ?_, fun j k u v hu hv hne r hr r' hr' => ?_,
    fun j k u v hu hv hne => ?_⟩
  · rcases RankRace.tx_setTx hu with ⟨-, hself⟩ | ⟨-, hother⟩
    · obtain rfl := Option.some.inj hself
      exact hinv
    · exact h.tx j u hother
  · rcases RankRace.tx_setTx hu with ⟨hj, hself⟩ | ⟨hj, hother⟩
    · obtain rfl := Option.some.inj hself
      rcases RankRace.tx_setTx hv with ⟨hk, -⟩ | ⟨hk, hother⟩
      · exact absurd (hj.trans hk.symm) hne
      · exact hdisjoint k v hk hother r hr r' hr'
    · rcases RankRace.tx_setTx hv with ⟨-, hself⟩ | ⟨-, hother'⟩
      · obtain rfl := Option.some.inj hself
        exact fun he => hdisjoint j u hj hother r' hr' r hr he.symm
      · exact h.locks j k u v hother hother' hne r hr r' hr'
  · rcases RankRace.tx_setTx hu with ⟨hj, hself⟩ | ⟨hj, hother⟩
    · obtain rfl := Option.some.inj hself
      rw [hchange]
      rcases RankRace.tx_setTx hv with ⟨hk, -⟩ | ⟨hk, hother⟩
      · exact absurd (hj.trans hk.symm) hne
      · exact h.ids i k t v ht hother (Ne.symm hk)
    · rcases RankRace.tx_setTx hv with ⟨-, hself⟩ | ⟨-, hother'⟩
      · obtain rfl := Option.some.inj hself
        rw [hchange]
        exact h.ids j i u t hother ht hj
      · exact h.ids j k u v hother hother' hne

/-- A transaction that ends without a commit leaves nothing. -/
theorem RaceInv.drop {s : RankRace} (h : RaceInv s) (i : Nat) : RaceInv (s.setTx i none) := by
  have hold : ∀ j t, (s.setTx i none).tx j = some t → s.tx j = some t := by
    intro j t ht
    rcases RankRace.tx_setTx ht with ⟨-, ht⟩ | ⟨-, ht⟩
    · cases ht
    · exact ht
  exact ⟨h.ledger, fun j t ht => h.tx j t (hold j t ht),
    fun j k t t' ht ht' => h.locks j k t t' (hold j t ht) (hold k t' ht'),
    fun j k t t' ht ht' => h.ids j k t t' (hold j t ht) (hold k t' ht')⟩

/-! ### One event -/

theorem begin_raceInv {userId : Nat} {s : RankRace} (h : RaceInv s) (r : RegistrationRequest) :
    RaceInv (s.step userId (.begin r)) := by
  unfold RankRace.step
  dsimp only
  cases hok : r.begin userId s.db with
  | error e => exact h
  | ok p =>
    obtain ⟨change, updates⟩ := p
    dsimp only
    split
    · exact h
    · next hfree =>
      have hother : ∀ j t, s.tx j = some t → t.change.id ≠ change.id := by
        intro j t ht he
        refine hfree (List.any_eq_true.2 ⟨some t, List.mem_of_getElem? (RankRace.tx_eq_some.1 ht), ?_⟩)
        simp [he]
      have hcase : ∀ j t, RankRace.tx
          { s with txs := s.txs ++ [some ⟨change, updates, 0, .idle, []⟩] } j = some t →
          s.tx j = some t ∨ (j = s.txs.length ∧ t = ⟨change, updates, 0, .idle, []⟩) := by
        intro j t ht
        have hget := RankRace.tx_eq_some.1 ht
        by_cases hj : j < s.txs.length
        · rw [List.getElem?_append_left hj] at hget
          exact Or.inl (RankRace.tx_eq_some.2 hget)
        · have hlast := (List.getElem?_eq_some_iff.1 hget).1
          rw [List.length_append, List.length_singleton] at hlast
          have hjeq : j = s.txs.length := by omega
          subst hjeq
          rw [List.getElem?_concat_length] at hget
          cases hget
          exact Or.inr ⟨rfl, rfl⟩
      refine ⟨h.ledger, fun j t ht => ?_, fun j k t t' ht ht' hne r hr r' hr' => ?_,
        fun j k t t' ht ht' hne => ?_⟩
      · rcases hcase j t ht with ht | ⟨-, rfl⟩
        · exact h.tx j t ht
        · exact begin_txInv hok
      · rcases hcase j t ht with ht | ⟨-, rfl⟩
        · rcases hcase k t' ht' with ht' | ⟨-, rfl⟩
          · exact h.locks j k t t' ht ht' hne r hr r' hr'
          · cases hr'
        · cases hr
      · rcases hcase j t ht with ht | ⟨rfl, rfl⟩
        · rcases hcase k t' ht' with ht' | ⟨-, rfl⟩
          · exact h.ids j k t t' ht ht' hne
          · exact hother j t ht
        · rcases hcase k t' ht' with ht' | ⟨rfl, rfl⟩
          · exact Ne.symm (hother k t' ht')
          · exact absurd rfl hne

theorem find_raceInv {s : RankRace} (h : RaceInv s) {i : Nat} {t : Tx} (ht : s.tx i = some t) :
    RaceInv (s.findStep i t) := by
  unfold RankRace.findStep
  split
  · next u hu hp =>
    have hinv := h.tx i t ht
    refine h.set ht ⟨hinv.change, hinv.net, hinv.written, fun v hv r hr => ?_⟩ rfl fun r hr => Or.inl hr
    have huv : u = v := Option.some.inj (hu.symm.trans hv)
    subst huv
    refine ⟨Table.find?_key hr, ?_⟩
    show (t.visible s.db u.1.key).isSome
    rw [hr]
    rfl
  · exact h

theorem load_raceInv {s : RankRace} (h : RaceInv s) {i : Nat} {t : Tx} (ht : s.tx i = some t) :
    RaceInv (s.loadStep i t) := by
  unfold RankRace.loadStep
  split
  · next u row hu hp =>
    have hinv := h.tx i t ht
    have hphase := hinv.phase u hu
    unfold PhaseInv at hphase
    rw [hp] at hphase
    cases hadj : adjustedRank row u.1 u.2 with
    | error e => exact h.drop i
    | ok target =>
      obtain ⟨hkey, -, hget⟩ := adjustedRank_ok (fun r hr => (hphase r hr).1) hadj
      -- the phase is about the same update
      have hnext : ∀ (phase : SavePhase) v, Tx.current { t with phase } = some v → v = u :=
        fun phase v hv => Option.some.inj (hv.symm.trans hu)
      cases row with
      | none =>
        refine h.set ht ⟨hinv.change, hinv.net, hinv.written, fun v hv => ?_⟩ rfl fun r hr => Or.inl hr
        obtain rfl := hnext _ v hv
        exact ⟨hkey, fun c => (hget c).trans (Int.zero_add _)⟩
      | some r =>
        obtain ⟨loaded, hloaded⟩ := Option.isSome_iff_exists.1 (hphase r rfl).2
        rw [hloaded]
        refine h.set ht ⟨hinv.change, hinv.net, hinv.written, fun v hv => ?_⟩ rfl fun r hr => Or.inl hr
        obtain rfl := hnext _ v hv
        exact ⟨(hphase r rfl).2, hget⟩
  · exact h

theorem write_raceInv {s : RankRace} (h : RaceInv s) {i : Nat} {t : Tx} (ht : s.tx i = some t)
    (hfresh : FreshWrite s (.write i)) : RaceInv (s.writeStep i t) := by
  have hinv := h.tx i t ht
  have hbuffer : ∀ {k : RankKey} {row : Rank}, row.key = k → s.locked i k = false →
      ∀ r ∈ (t.advance [row]).buffer, r ∈ t.buffer ∨ s.locked i r.key = false := by
    intro k row hkey hfree r hr
    rcases List.mem_append.1 hr with hr | hr
    · exact Or.inl hr
    · rw [List.mem_singleton.1 hr, hkey]
      exact Or.inr hfree
  unfold RankRace.writeStep
  split
  · next u target hu hp =>
    have hphase := hinv.phase u hu
    unfold PhaseInv at hphase
    rw [hp] at hphase
    by_cases hlock : s.locked i u.1.key = true
    · rw [if_pos hlock]; exact h
    · rw [if_neg hlock]
      split
      · exact h.drop i
      · next hnew =>
        simp only [Bool.or_eq_true, not_or, Option.not_isSome_iff_eq_none] at hnew
        refine h.set ht (hinv.write hu hphase.1 fun c => ?_) rfl
          (hbuffer hphase.1 (Bool.eq_false_of_not_eq_true hlock))
        rw [hnew.1]
        exact (hphase.2 c).trans (Int.zero_add _).symm
  · next u row target columns hu hp =>
    have hphase := hinv.phase u hu
    unfold PhaseInv at hphase
    rw [hp] at hphase
    have hcols := hfresh t u row target columns ht hu hp
    split
    · next hnil =>
      -- nothing to set: the update must add nothing
      refine h.set ht (hinv.skip hu fun c => ?_) rfl fun r hr => Or.inl ?_
      · have hc := hcols (Or.inl hnil) c
        rw [hnil, if_neg List.not_mem_nil] at hc
        have hget := hphase.2 c
        omega
      · rwa [show (t.advance []).buffer = t.buffer from List.append_nil _] at hr
    · next hne =>
      by_cases hlock : s.locked i u.1.key = true
      · rw [if_pos hlock]; exact h
      · rw [if_neg hlock]
        have hfree : s.locked i u.1.key = false := Bool.eq_false_of_not_eq_true hlock
        cases hnow : t.visible s.db u.1.key with
        | none =>
          -- the row was there when it was found, and rows are not removed
          have hsome := hphase.1
          rw [hnow] at hsome
          cases hsome
        | some now =>
          have hkey : (now.setColumns target columns).key = u.1.key := by
            rw [Rank.key_setColumns]
            exact Table.find?_key hnow
          refine h.set ht (hinv.write hu hkey fun c => ?_) rfl (hbuffer hkey hfree)
          have hc := hcols (Or.inr hfree) c
          have hget := hphase.2 c
          rw [hnow, Rank.get_setColumns]
          show _ = ((now.get c : Nat) : Int) + _
          split at hc
          · next hm =>
            rw [if_pos hm, hc now hnow]
            exact hget
          · next hm =>
            rw [if_neg hm]
            omega
  · exact h

/-- **Commit.**  The new registration counts for what the rank rows gained. -/
theorem commit_ledger {db : Db} {t : Tx} (hledger : db.Ledger) (h : TxInv db t)
    (hdone : t.current = none) : (t.apply db).Ledger := by
  intro k s
  have hall : t.updates.take t.next = t.updates :=
    List.take_of_length_le (List.getElem?_eq_none_iff.1 hdone)
  have hnet := h.net k s
  have hwritten := h.written k (GameResultColumnMap s)
  unfold Tx.made at hwritten
  rw [hall, ← hnet] at hwritten
  have htally := RegChange.tally_apply h.change k s
  have hcount : (t.apply db).tally k s = (t.change.apply db).tally k s := rfl
  have hold := hledger k s
  rw [Tx.apply_recorded]
  omega

theorem commit_raceInv {s : RankRace} (h : RaceInv s) {i : Nat} {t : Tx} (ht : s.tx i = some t) :
    RaceInv (s.commitStep i t) := by
  unfold RankRace.commitStep
  split
  · next hdone =>
    have hinv := h.tx i t ht
    -- the others are those there were
    have hothers : ∀ j u, RankRace.tx ⟨t.apply s.db, s.txs.set i none⟩ j = some u →
        j ≠ i ∧ s.tx j = some u := by
      intro j u hu
      have hset : (s.setTx i none).tx j = some u := by
        unfold RankRace.tx at hu ⊢
        exact hu
      rcases RankRace.tx_setTx hset with ⟨-, hu⟩ | hu
      · cases hu
      · exact hu
    refine ⟨commit_ledger h.ledger hinv hdone, fun j u hu => ?_, fun j k u v hu hv => ?_,
      fun j k u v hu hv => ?_⟩
    · obtain ⟨hj, hu⟩ := hothers j u hu
      exact commit_txInv hinv (h.tx j u hu) (h.ids i j t u ht hu (Ne.symm hj))
        (h.locks i j t u ht hu (Ne.symm hj))
    · exact h.locks j k u v (hothers j u hu).2 (hothers k v hv).2
    · exact h.ids j k u v (hothers j u hu).2 (hothers k v hv).2
  · exact h

/-- **One event.**  Only a write can break a promise, and a fresh one does not. -/
theorem step_raceInv {userId : Nat} (s : RankRace) (e : TxEvent) (h : RaceInv s)
    (hfresh : FreshWrite s e) : RaceInv (s.step userId e) := by
  have helim : ∀ {i : Nat} {f : Tx → RankRace}, (∀ t, s.tx i = some t → RaceInv (f t)) →
      RaceInv ((s.tx i).elim s f) := by
    intro i f hf
    cases ht : s.tx i with
    | none => exact h
    | some t => exact hf t ht
  cases e with
  | begin r => exact begin_raceInv h r
  | find i => exact helim fun t ht => find_raceInv h ht
  | load i => exact helim fun t ht => load_raceInv h ht
  | write i => exact helim fun t ht => write_raceInv h ht hfresh
  | commit i => exact helim fun t ht => commit_raceInv h ht
  | abort i => exact h.drop i

/-! ## Whole runs -/

/-- **No lost update.**  From a database in balance, a run of concurrent requests whose
writes are all fresh has the ledger in balance after every event, and so whenever all
requests have finished. -/
theorem no_lost_update (userId : Nat) (db : Db) (hstart : db.Ledger) (events : List TxEvent)
    (hfresh : Guarded (RankRace.step userId) FreshWrite ⟨db, []⟩ events) :
    Always (RankRace.step userId) (fun s => s.db.Ledger) ⟨db, []⟩ events := by
  have hnone : ∀ i t, RankRace.tx ⟨db, []⟩ i ≠ some t := by
    intro i t ht
    have hget := RankRace.tx_eq_some.1 ht
    rw [List.getElem?_nil] at hget
    cases hget
  have hinit : RaceInv ⟨db, []⟩ :=
    ⟨hstart, fun i t ht => absurd ht (hnone i t), fun i j t t' ht => absurd ht (hnone i t),
      fun i j t t' ht => absurd ht (hnone i t)⟩
  exact (always_of_guarded step_raceInv hinit hfresh).imp fun s h => h.ledger

/-- Two won games, and the rank row that sign-up has inserted. -/
def twoGames : Db :=
  (leagueDb.withGames
    ((Table.empty.save wonGame).save { wonGame with id := "20250602HHLG0" })).withRanks
    (Table.empty.save ⟨7, 1, 2025, 0, 0, 0, 0⟩)

def beginWin (gameId : String) (newId : Nat) : TxEvent :=
  .begin (.register ⟨none, "A1", "good", gameId, 1⟩ newId)

theorem twoGames_ledger : twoGames.Ledger := by
  intro k s
  have hzero : ∀ c, twoGames.recorded k c = 0 := by
    intro c
    unfold Db.recorded
    cases hrow : twoGames.ranks.find? k with
    | none => rfl
    | some row =>
      have hmem : row ∈ [(⟨7, 1, 2025, 0, 0, 0, 0⟩ : Rank)] := Table.mem_of_find? hrow
      obtain rfl := List.mem_singleton.1 hmem
      cases c <;> rfl
  rw [hzero]
  rfl

theorem no_lost_update_twoGames :
    Always (RankRace.step 7) (fun s => s.db.Ledger) ⟨twoGames, []⟩
      [beginWin "20250601HHLG0" 1, beginWin "20250602HHLG0" 2, .find 0, .load 0, .write 0,
       .commit 0, .find 1, .load 1, .write 1, .commit 1] := by
  refine no_lost_update 7 twoGames twoGames_ledger _
    ⟨trivial, trivial, trivial, trivial, ?_, trivial, trivial, trivial, ?_, trivial, trivial⟩
  · intro t u row target columns ht hu hp _ c
    cases ht
    cases hu
    cases hp
    cases c <;> decide
  · intro t u row target columns ht hu hp _ c
    cases ht
    cases hu
    cases hp
    cases c <;> decide

/-- Both requests read the row before either writes it: the second win is lost. -/
theorem lost_update :
    ¬ Always (RankRace.step 7) (fun s => s.Finished → s.db.Ledger) ⟨twoGames, []⟩
      [beginWin "20250601HHLG0" 1, beginWin "20250602HHLG0" 2, .find 0, .find 1, .load 0, .load 1,
       .write 0, .commit 0, .write 1, .commit 1] := by
  intro h
  have htxs : (run (RankRace.step 7) ⟨twoGames, []⟩
      [beginWin "20250601HHLG0" 1, beginWin "20250602HHLG0" 2, .find 0, .find 1, .load 0, .load 1,
       .write 0, .commit 0, .write 1, .commit 1]).txs = [none, none] := by decide
  have hlast := h.last (fun t ht => by
    rw [htxs] at ht
    simpa using ht) ⟨7, 1, 2025⟩ .win
  revert hlast
  decide

/-! ## A request alone -/

theorem Rank.eq_of_get {r r' : Rank} (hkey : r.key = r'.key) (hget : ∀ c, r.get c = r'.get c) :
    r = r' := by
  obtain ⟨user, teamId, activeYear, win, lose, tie, cancel⟩ := r
  obtain ⟨user', teamId', activeYear', win', lose', tie', cancel'⟩ := r'
  obtain ⟨rfl, rfl, rfl⟩ := RankKey.mk.inj hkey
  obtain rfl : win = win' := hget .win
  obtain rfl : lose = lose' := hget .lose
  obtain rfl : tie = tie' := hget .tie
  obtain rfl : cancel = cancel' := hget .cancel
  rfl

theorem mem_changedColumns (target loaded : Rank) (c : RankColumn) :
    c ∈ changedColumns target loaded ↔ target.get c ≠ loaded.get c := by
  unfold changedColumns
  rw [List.mem_filter, decide_eq_true_eq]
  exact ⟨fun h => h.2, fun h => ⟨by cases c <;> simp, h⟩⟩

/-- On the row it was compared with, the `UPDATE` writes the target. -/
theorem setColumns_changedColumns {target loaded : Rank} (hkey : target.key = loaded.key) :
    loaded.setColumns target (changedColumns target loaded) = target := by
  refine Rank.eq_of_get ((Rank.key_setColumns _ _ _).trans hkey.symm) fun c => ?_
  rw [Rank.get_setColumns]
  split
  · rfl
  · next hc =>
    rw [mem_changedColumns, not_not] at hc
    exact hc.symm

/-- What a request commits is its registration with its rank updates made. -/
theorem begin_of_commit {userId : Nat} {db db' : Db} {r : RegistrationRequest} {refresh : Bool}
    (h : r.commit userId db = .ok (db', refresh)) :
    ∃ change updates, r.begin userId db = .ok (change, updates) ∧
      applyRankUpdates (change.apply db) updates = .ok db' := by
  unfold RegistrationRequest.commit at h
  unfold RegistrationRequest.begin
  cases r with
  | register dto newId =>
    obtain ⟨⟨db1, response⟩, hreg, h⟩ := bind_eq_ok.1 h
    cases h
    unfold register at hreg
    obtain ⟨game, hgame, hreg⟩ := bind_eq_ok.1 hreg
    obtain ⟨team, hteam, hreg⟩ := bind_eq_ok.1 hreg
    obtain ⟨⟨db2, saved⟩, hsave, hreg⟩ := bind_eq_ok.1 hreg
    obtain ⟨db3, hrecord, hreg⟩ := bind_eq_ok.1 hreg
    obtain ⟨stadium, hstadium, rfl⟩ : ∃ stadium,
        db3.stadiums.find? game.stadium = some stadium ∧ db3 = db' := by
      split at hreg
      · cases hreg
      · next stadium hstadium => cases hreg; exact ⟨stadium, hstadium, rfl⟩
    obtain ⟨-, huser, -, hteamId, -, rfl⟩ := saveRegistration_ok (getOneGame_ok hgame) hsave
    have hupdates : applyRankUpdates (db.withRegisteredGames (db.registeredGames.save saved))
        (registerUpdates saved game.date.getFullYear) = .ok db3 := by
      rw [← recordSaved_eq, huser, hteamId]
      exact hrecord
    obtain ⟨rows, hrows, -⟩ := applyRankUpdates_ok hupdates
    rw [hrows.eq] at hstadium
    refine ⟨.insert saved, registerUpdates saved game.date.getFullYear, ?_, hupdates⟩
    simp only [hgame, hteam, hsave, bind, Except.bind]
    rw [show db.stadiums.find? game.stadium = some stadium from hstadium]
    rfl
  | update id dto =>
    obtain ⟨⟨db1, result⟩, hupdate, h⟩ := bind_eq_ok.1 h
    cases h
    rw [update_eq] at hupdate
    obtain ⟨⟨db2, result'⟩, hsave, hupdate⟩ := bind_eq_ok.1 hupdate
    obtain ⟨db3, hrank, hupdate⟩ := bind_eq_ok.1 hupdate
    cases hupdate
    obtain ⟨old, game, changed, hedited, -, -, -, rfl⟩ := updateRegistration_ok hsave
    refine ⟨.replace old changed, result.teamCtx.rankUpdates userId, ?_, hrank⟩
    simp only [hedited, hsave, bind, Except.bind, pure, Except.pure]
  | delete id =>
    obtain ⟨⟨db1, result⟩, hdelete, h⟩ := bind_eq_ok.1 h
    cases h
    rw [delete_eq] at hdelete
    obtain ⟨⟨db2, result'⟩, hremove, hdelete⟩ := bind_eq_ok.1 hdelete
    obtain ⟨db3, hrank, hdelete⟩ := bind_eq_ok.1 hdelete
    cases hdelete
    have hdelete := hremove
    unfold deleteRegistration at hdelete
    obtain ⟨⟨old, game⟩, hfind, hdelete⟩ := bind_eq_ok.1 hdelete
    cases hdelete
    refine ⟨.remove old, _, ?_, hrank⟩
    simp only [hfind, hremove, bind, Except.bind, pure, Except.pure]

/-- The statements of one `updateRankRecord`. -/
def rankUpdateEvents (i : Nat) : List TxEvent := [.find i, .load i, .write i]

section

variable {userId : Nat} {db : Db} {t : Tx} {u : RankUpdate}

theorem solo_find (hu : t.current = some u) (hphase : t.phase = .idle) :
    RankRace.step userId ⟨db, [some t]⟩ (.find 0) =
      ⟨db, [some { t with phase := .found (t.visible db u.1.key) }]⟩ := by
  show RankRace.findStep ⟨db, [some t]⟩ 0 t = _
  unfold RankRace.findStep
  rw [hu, hphase]
  rfl

/-- `findOne` and the load of `save` see the same row. -/
theorem solo_load (hu : t.current = some u) {target : Rank}
    (htarget : adjustedRank (t.visible db u.1.key) u.1 u.2 = .ok target) :
    RankRace.step userId ⟨db, [some { t with phase := .found (t.visible db u.1.key) }]⟩ (.load 0) =
      ⟨db, [some { t with phase := match t.visible db u.1.key with
        | some row => .update row target (changedColumns target row)
        | none => .insert target }]⟩ := by
  show RankRace.loadStep _ 0 { t with phase := .found (t.visible db u.1.key) } = _
  unfold RankRace.loadStep
  have hcurrent : Tx.current { t with phase := .found (t.visible db u.1.key) } = some u := hu
  have hsame : Tx.visible db { t with phase := .found (t.visible db u.1.key) } u.1.key =
    t.visible db u.1.key := rfl
  simp only [hcurrent, htarget, hsame]
  cases t.visible db u.1.key <;> rfl

theorem solo_insert (hu : t.current = some u) {target : Rank}
    (huser : (db.users.find? target.user).isNone = false) (hrow : t.visible db u.1.key = none) :
    RankRace.step userId ⟨db, [some { t with phase := .insert target }]⟩ (.write 0) =
      ⟨db, [some (t.advance [target])]⟩ := by
  show RankRace.writeStep _ 0 { t with phase := .insert target } = _
  unfold RankRace.writeStep
  have hcurrent : Tx.current { t with phase := .insert target } = some u := hu
  have hsame : Tx.visible db { t with phase := .insert target } u.1.key = none := hrow
  simp only [hcurrent, hsame, huser]
  rfl

/-- An `UPDATE` without columns is not sent. -/
theorem solo_write (hu : t.current = some u) {row target : Rank} (hkeys : target.key = row.key)
    (hrow : t.visible db u.1.key = some row) :
    RankRace.step userId
        ⟨db, [some { t with phase := .update row target (changedColumns target row) }]⟩ (.write 0) =
      ⟨db, [some (t.advance (if changedColumns target row = [] then [] else [target]))]⟩ := by
  have hcurrent : Tx.current { t with phase := .update row target (changedColumns target row) } =
    some u := hu
  show RankRace.writeStep _ 0 { t with phase := .update row target _ } = _
  unfold RankRace.writeStep
  by_cases hcols : changedColumns target row = []
  · rw [hcols] at hcurrent ⊢
    simp only [hcurrent, if_true]
    rfl
  · have hsame : Tx.visible db { t with phase := .update row target (changedColumns target row) }
      u.1.key = some row := hrow
    simp only [hcurrent, hsame, hcols, if_false, setColumns_changedColumns hkeys]
    rfl

end

/-- With nobody else around, the three statements are `updateRankRecord`. -/
theorem solo_update (userId : Nat) {db db' : Db} {t : Tx} {u : RankUpdate}
    (hu : t.current = some u) (hphase : t.phase = .idle)
    (h : updateRankRecord (t.apply db) u.1 u.2 = .ok db') :
    ∃ rows, run (RankRace.step userId) ⟨db, [some t]⟩ (rankUpdateEvents 0) =
        ⟨db, [some (t.advance rows)]⟩ ∧
      (t.advance rows).apply db = db' := by
  unfold updateRankRecord at h
  obtain ⟨target, htarget, h⟩ := bind_eq_ok.1 h
  obtain ⟨rfl, huser⟩ := saveRank_ok h
  obtain ⟨hkey, -⟩ := adjustedRank_ok (fun r hr => Table.find?_key hr) htarget
  have hvisible : (t.apply db).ranks.find? u.1.key = t.visible db u.1.key := rfl
  rw [hvisible] at htarget
  have husers : (db.users.find? target.user).isNone = false := by
    rw [show db.users = (t.apply db).users from (t.change.apply_users db).symm,
      Option.isNone_eq_false_iff]
    exact huser
  have hsave : ∀ row : Rank, (t.advance [row]).apply db =
      (t.apply db).withRanks ((t.apply db).ranks.save row) := by
    intro row
    unfold Tx.apply Tx.advance
    rw [Table.saveAll_concat]
    rfl
  rw [rankUpdateEvents, run_cons, solo_find hu hphase, run_cons, solo_load hu htarget, run_cons,
    run_nil]
  cases hrow : t.visible db u.1.key with
  | none => exact ⟨[target], solo_insert hu husers hrow, hsave target⟩
  | some row =>
    have hkeys : target.key = row.key := hkey.trans (Table.find?_key hrow).symm
    refine ⟨_, solo_write hu hkeys hrow, ?_⟩
    split
    · next hcols =>
      -- nothing differs, and saving the same row again changes nothing
      have heq : row = target := by
        have hset := setColumns_changedColumns hkeys
        rwa [hcols] at hset
      have hstay : (t.apply db).ranks.save target = (t.apply db).ranks := by
        refine Table.save_of_find? ?_
        rw [hkey, hvisible, hrow, heq]
      rw [hstay]
      unfold Tx.apply Tx.advance
      rw [List.append_nil]
      rfl
    · exact hsave target

/-- So are the updates of a request, one after the other. -/
theorem solo_updates (userId : Nat) {db db' : Db} {us : List RankUpdate} {t : Tx}
    (hus : t.updates.drop t.next = us) (hphase : t.phase = .idle)
    (h : applyRankUpdates (t.apply db) us = .ok db') :
    ∃ t', run (RankRace.step userId) ⟨db, [some t]⟩ (us.flatMap fun _ => rankUpdateEvents 0) =
        ⟨db, [some t']⟩ ∧ t'.current = none ∧ t'.apply db = db' := by
  induction us generalizing t with
  | nil =>
    cases h
    exact ⟨t, rfl, List.getElem?_eq_none_iff.2 (List.drop_eq_nil_iff.1 hus), rfl⟩
  | cons u us ih =>
    unfold applyRankUpdates at h
    rw [List.foldlM_cons] at h
    obtain ⟨db1, h1, h2⟩ := bind_eq_ok.1 h
    have hcurrent : t.current = some u := by
      unfold Tx.current
      rw [← List.head?_drop, hus]
      rfl
    obtain ⟨rows, hrun, happly⟩ := solo_update userId hcurrent hphase h1
    have hdrop : (t.advance rows).updates.drop (t.advance rows).next = us := by
      show t.updates.drop (t.next + 1) = us
      rw [← List.tail_drop, hus]
      rfl
    rw [← happly] at h2
    obtain ⟨t', hrun', hdone, happly'⟩ := ih hdrop rfl h2
    refine ⟨t', ?_, hdone, happly'⟩
    rw [List.flatMap_cons, run_append, hrun]
    exact hrun'

/-- **A request alone.**  With nobody else around, a transaction commits what the request
commits. -/
theorem solo_commit {userId : Nat} {db db' : Db} {r : RegistrationRequest} {refresh : Bool}
    (h : r.commit userId db = .ok (db', refresh)) :
    ∃ change updates, r.begin userId db = .ok (change, updates) ∧
      run (RankRace.step userId) ⟨db, []⟩
        (.begin r :: updates.flatMap (fun _ => rankUpdateEvents 0) ++ [.commit 0]) = ⟨db', [none]⟩ := by
  obtain ⟨change, updates, hbegin, hupdates⟩ := begin_of_commit h
  refine ⟨change, updates, hbegin, ?_⟩
  have hstart : RankRace.step userId ⟨db, []⟩ (.begin r) =
      ⟨db, [some ⟨change, updates, 0, .idle, []⟩]⟩ := by
    unfold RankRace.step
    dsimp only
    rw [hbegin]
    rfl
  have hnone : (⟨change, updates, 0, .idle, []⟩ : Tx).apply db = change.apply db := by
    cases change <;> rfl
  rw [← hnone] at hupdates
  obtain ⟨t, hrun, hdone, happly⟩ := solo_updates userId (List.drop_zero (l := updates)) rfl hupdates
  rw [List.cons_append, run_cons, hstart, run_append, hrun, run_cons, run_nil]
  show RankRace.commitStep _ 0 t = _
  unfold RankRace.commitStep
  rw [if_pos hdone, happly]
  rfl

end VictoryFairy
