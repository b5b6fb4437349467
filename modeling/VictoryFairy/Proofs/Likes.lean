import Mathlib.Data.List.Dedup
import VictoryFairy.Lib.CheckInsert
import VictoryFairy.Model.Likes

/-!
# One like per user and song

A `likeCheerSong` whose lookup found no like inserts one, whatever has happened since.  The
likes of a song and a user stay single exactly as long as no lookup finds nothing while
another request has its insert ahead.

    view_*            : the statements are those of a lookup and an insert under a key
    likes_unique_iff  : the runs whose likes stay unique
    like_alone        : with nothing in between, a request is `likeCheerSong`
    unlike_alone      : or `unlikeCheerSong`
-/

namespace VictoryFairy

open Runs

/-! ## The table -/

namespace SongDb

def countLikesOf (db : SongDb) (cheeringSongId userId : Nat) : Nat :=
  db.likes.rows.countP (isLikeOf cheeringSongId userId)

/-- The users who like the song, each once. -/
def likers (db : SongDb) (cheeringSongId : Nat) : List Nat :=
  ((db.likes.rows.filter fun l => l.cheeringSong = cheeringSongId).map LikeCheeringSong.user).dedup

/-- At most one like per user and song; the count of the likes is one of users. -/
structure UniqueLikes (db : SongDb) : Prop where
  one : ∀ cheeringSongId userId, db.countLikesOf cheeringSongId userId ≤ 1
  distinct : ∀ cheeringSongId count, db.getCheeringSongLikes cheeringSongId = .ok count →
    count = (db.likers cheeringSongId).length

theorem findOne_eq_ok {db : SongDb} {id : Nat} {song : CheeringSong} (h : db.findOne id = .ok song) :
    song.id = id := by
  unfold findOne at h
  cases hfind : db.cheeringSongs.find? id with
  | none => rw [hfind] at h; cases h
  | some row =>
    rw [hfind] at h
    cases h
    exact Table.find?_key hfind

theorem findDuplicate_eq_none {db : SongDb} {cheeringSongId userId : Nat} :
    db.findDuplicate cheeringSongId userId = none ↔ db.countLikesOf cheeringSongId userId = 0 := by
  unfold findDuplicate countLikesOf
  rw [List.find?_eq_none, List.countP_eq_zero]

/-- A user occurs among the likes of a song as often as there are likes of both. -/
theorem count_users (db : SongDb) (cheeringSongId userId : Nat) :
    ((db.likes.rows.filter fun l => l.cheeringSong = cheeringSongId).map
      LikeCheeringSong.user).count userId = db.countLikesOf cheeringSongId userId := by
  rw [List.count_eq_countP, List.countP_map, List.countP_filter]
  refine List.countP_congr fun l _ => ?_
  simp only [Function.comp_apply, isLikeOf, Bool.and_eq_true, beq_iff_eq, decide_eq_true_eq]
  exact And.comm

/-- Single likes are counted as users. -/
theorem uniqueLikes_iff {db : SongDb} :
    UniqueLikes db ↔ ∀ cheeringSongId userId, db.countLikesOf cheeringSongId userId ≤ 1 := by
  refine ⟨UniqueLikes.one, fun h => ⟨h, fun cheeringSongId count hcount => ?_⟩⟩
  unfold getCheeringSongLikes at hcount
  obtain ⟨song, hsong, hcount⟩ := bind_eq_ok.1 hcount
  cases hcount
  have hnodup : ((db.likes.rows.filter fun l => l.cheeringSong = cheeringSongId).map
      LikeCheeringSong.user).Nodup :=
    List.nodup_iff_count_le_one.2 fun userId => db.count_users cheeringSongId userId ▸ h _ _
  unfold likers
  rw [hnodup.dedup, List.length_map, ← List.countP_eq_length_filter, findOne_eq_ok hsong]

/-- With a new id the insert succeeds. -/
theorem insertLike_fresh {db : SongDb} {newId : Nat} (h : ∀ l ∈ db.likes.rows, l.id < newId)
    (cheeringSongId userId : Nat) :
    ∃ likes : Table LikeCheeringSong.id,
      db.insertLike newId cheeringSongId userId = .ok (db.withLikes likes) ∧
      likes.rows = db.likes.rows ++ [⟨newId, userId, cheeringSongId⟩] := by
  have hfresh : ∀ l ∈ db.likes.rows, l.id ≠ newId := fun l hl => Nat.ne_of_lt (h l hl)
  have hinsert : db.likes.insert? ⟨newId, userId, cheeringSongId⟩ =
      some (db.likes.save ⟨newId, userId, cheeringSongId⟩) :=
    Table.insert?_eq_some.2 ⟨Table.find?_eq_none.2 hfresh, rfl⟩
  refine ⟨_, ?_, Table.rows_save_of_fresh hfresh⟩
  unfold insertLike
  rw [hinsert]

/-- The likes under a song and a user. -/
def likeCounts (db : SongDb) (key : Nat × Nat) : Nat := db.countLikesOf key.1 key.2

theorem likeCounts_insert {db : SongDb} {likes : Table LikeCheeringSong.id}
    {newId cheeringSongId userId : Nat}
    (h : likes.rows = db.likes.rows ++ [⟨newId, userId, cheeringSongId⟩]) :
    (db.withLikes likes).likeCounts = Function.update db.likeCounts (cheeringSongId, userId)
      (db.likeCounts (cheeringSongId, userId) + 1) := by
  funext key
  have hcount : (db.withLikes likes).likeCounts key = db.likeCounts key +
      if cheeringSongId = key.1 ∧ userId = key.2 then 1 else 0 := by
    show likes.rows.countP _ = _
    rw [h, List.countP_append, List.countP_singleton]
    simp only [isLikeOf, Bool.and_eq_true, decide_eq_true_eq]
    rfl
  by_cases hkey : key = (cheeringSongId, userId)
  · rw [hcount, hkey, Function.update_self, if_pos ⟨rfl, rfl⟩]
  · rw [hcount, Function.update_of_ne hkey, if_neg]
    · rfl
    · rintro ⟨h₁, h₂⟩
      exact hkey (Prod.ext h₁.symm h₂.symm)

/-- A delete that affects no row changes nothing. -/
theorem deleteLike_none {db : SongDb} {cheeringSongId userId : Nat}
    (h : (db.deleteLike cheeringSongId userId).2 = 0) : (db.deleteLike cheeringSongId userId).1 = db := by
  have hrows : db.likes.reject (isLikeOf cheeringSongId userId) = db.likes := by
    refine Table.ext (List.filter_eq_self.2 fun l hl => ?_)
    rw [Bool.not_eq_true', Bool.eq_false_iff]
    exact List.countP_eq_zero.1 h l hl
  show db.withLikes (db.likes.reject _) = db
  rw [hrows]
  rfl

/-- No like of the song and the user is left, and no other one is touched. -/
theorem likeCounts_deleteLike (db : SongDb) (cheeringSongId userId : Nat) :
    (db.deleteLike cheeringSongId userId).1.likeCounts =
      Function.update db.likeCounts (cheeringSongId, userId) 0 := by
  funext key
  show (db.likes.rows.filter fun l => !isLikeOf cheeringSongId userId l).countP
    (isLikeOf key.1 key.2) = _
  rw [List.countP_filter]
  by_cases hkey : key = (cheeringSongId, userId)
  · rw [hkey, Function.update_self, List.countP_eq_zero]
    intro l _
    simp
  · rw [Function.update_of_ne hkey]
    refine List.countP_congr fun l _ => ?_
    rw [Bool.and_eq_true]
    refine and_iff_left_of_imp fun hl => ?_
    rw [Bool.not_eq_true', Bool.eq_false_iff]
    intro hl'
    simp only [isLikeOf, Bool.and_eq_true, decide_eq_true_eq] at hl hl'
    exact hkey (Prod.ext (hl.1.symm.trans hl'.1) (hl.2.symm.trans hl'.2))

end SongDb

/-! ## The race under a key -/

def LikePhase.isCleared : LikePhase → Bool
  | .cleared => true
  | _ => false

def LikeRequest.key (r : LikeRequest) : Nat × Nat := (r.cheeringSongId, r.userId)

def LikeRequest.view (r : LikeRequest) : CheckInsert.Request (Nat × Nat) :=
  ⟨r.key, r.phase.isCleared⟩

namespace LikeRace

/-- The next id is new. -/
def FreshIds (s : LikeRace) : Prop := ∀ l ∈ s.db.likes.rows, l.id < s.sequence

/-- However the requests with their insert ahead go on, the likes are unique. -/
def Unique (s : LikeRace) : Prop :=
  ∀ inserts : List Nat, (run step s (inserts.map .insert)).db.UniqueLikes

/-- When a lookup finds no like, no other request with its insert ahead has found none of the
same song and user. -/
def NoOverlap (s : LikeRace) : LikeEvent → Prop
  | .findDuplicate i => ∀ r ∈ s.requests[i]?, r.kind = .like → r.phase = .found →
      s.db.findDuplicate r.cheeringSongId r.userId = none →
      ∀ other ∈ s.requests, other.key = r.key → other.phase ≠ .cleared
  | _ => True

instance (s : LikeRace) : ∀ e, Decidable (s.NoOverlap e)
  | .findDuplicate i => inferInstanceAs (Decidable (∀ r ∈ s.requests[i]?, r.kind = .like →
      r.phase = .found → s.db.findDuplicate r.cheeringSongId r.userId = none →
      ∀ other ∈ s.requests, other.key = r.key → other.phase ≠ .cleared))
  | .call .. | .findSong _ | .insert _ | .delete _ => isTrue trivial

def view (s : LikeRace) : CheckInsert.Race (Nat × Nat) where
  rows := s.db.likeCounts
  requests := s.requests.map LikeRequest.view

theorem onRequest_some {s : LikeRace} {i : Nat} {r : LikeRequest} (hi : s.requests[i]? = some r)
    (f : LikeRequest → LikeRace) : s.onRequest i f = f r := by
  unfold onRequest
  rw [hi]
  rfl

/-- Nothing happens when nothing happens to the request. -/
theorem onRequest_same {s : LikeRace} {i : Nat} {f : LikeRequest → LikeRace}
    (h : ∀ r, s.requests[i]? = some r → f r = s) : s.onRequest i f = s := by
  cases hi : s.requests[i]? with
  | none => unfold onRequest; rw [hi]; rfl
  | some r => rw [onRequest_some hi, h r hi]

theorem view_get {s : LikeRace} {i : Nat} {r : LikeRequest} (hi : s.requests[i]? = some r) :
    s.view.requests[i]? = some r.view := by
  unfold view
  rw [List.getElem?_map, hi]
  rfl

theorem view_setPhase (s : LikeRace) (i : Nat) (r : LikeRequest) (phase : LikePhase) :
    (s.setPhase i r phase).view =
      { s.view with requests := s.view.requests.set i ⟨r.key, phase.isCleared⟩ } := by
  unfold setPhase view
  rw [List.map_set]
  rfl

/-- A phase that does not change whether the insert is ahead is not seen. -/
theorem view_setPhase_same {s : LikeRace} {i : Nat} {r : LikeRequest} {phase : LikePhase}
    (hi : s.requests[i]? = some r) (h : phase.isCleared = r.phase.isCleared) :
    (s.setPhase i r phase).view = s.view := by
  have hset : s.view.requests.set i r.view = s.view.requests := by
    obtain ⟨hlt, hget⟩ := List.getElem?_eq_some_iff.1 (view_get hi)
    rw [← hget, List.set_getElem_self]
  rw [view_setPhase, h]
  exact congrArg (fun l => { s.view with requests := l }) hset

/-! ### One lemma for each statement -/

theorem view_call (s : LikeRace) (kind : LikeKind) (cheeringSongId userId : Nat) :
    (s.step (.call kind cheeringSongId userId)).view =
      CheckInsert.step s.view (.call (cheeringSongId, userId)) := by
  unfold view step CheckInsert.step
  simp [LikeRequest.view, LikeRequest.key, LikePhase.isCleared]

theorem view_findSong (s : LikeRace) (i : Nat) : (s.step (.findSong i)).view = s.view := by
  unfold step onRequest
  dsimp only
  cases hi : s.requests[i]? with
  | none => rfl
  | some r =>
    show (s.findSongStep i r).view = s.view
    unfold findSongStep
    split
    · next hphase =>
      split
      · exact view_setPhase_same hi (by rw [hphase]; rfl)
      · exact view_setPhase_same hi (by rw [hphase]; rfl)
    · rfl

/-- The request looks for a like next. -/
def Looks (s : LikeRace) (i : Nat) (r : LikeRequest) : Prop :=
  s.requests[i]? = some r ∧ r.kind = .like ∧ r.phase = .found

theorem Looks.view {s : LikeRace} {i : Nat} {r : LikeRequest} (h : s.Looks i r) :
    s.view.requests[i]? = some ⟨r.key, false⟩ := by
  obtain ⟨hi, -, hphase⟩ := h
  rw [view_get hi]
  unfold LikeRequest.view
  rw [hphase]
  rfl

theorem view_findDuplicate {s : LikeRace} {i : Nat} {r : LikeRequest} (h : s.Looks i r) :
    (s.step (.findDuplicate i)).view = CheckInsert.step s.view (.find i) := by
  have hview := h.view
  obtain ⟨hi, hkind, hphase⟩ := h
  have hzero : s.db.findDuplicate r.cheeringSongId r.userId = none ↔ s.view.rows r.key = 0 :=
    SongDb.findDuplicate_eq_none
  have hstep : s.step (.findDuplicate i) = s.findDuplicateStep i r := onRequest_some hi _
  rw [hstep]
  unfold findDuplicateStep CheckInsert.step
  dsimp only
  rw [hkind, hphase, hview]
  dsimp only
  split
  · next like hlike =>
    have hrow : s.view.rows r.key ≠ 0 := fun h => by rw [hzero.2 h] at hlike; cases hlike
    rw [view_setPhase, decide_eq_false hrow]
    rfl
  · next hnone =>
    rw [view_setPhase, decide_eq_true (hzero.1 hnone)]
    rfl

/-- No other request looks. -/
theorem step_findDuplicate_other {s : LikeRace} {i : Nat} (h : ∀ r, ¬s.Looks i r) :
    s.step (.findDuplicate i) = s := by
  refine onRequest_same fun r hi => ?_
  unfold findDuplicateStep
  split
  · next hkind hphase => exact absurd ⟨hi, hkind, hphase⟩ (h r)
  · rfl

theorem view_insert {s : LikeRace} (h : s.FreshIds) (i : Nat) :
    (s.step (.insert i)).view = CheckInsert.step s.view (.insert i) := by
  unfold step onRequest CheckInsert.step
  dsimp only
  cases hi : s.requests[i]? with
  | none =>
    have hview : s.view.requests[i]? = none := by
      unfold view
      rw [List.getElem?_map, hi]
      rfl
    rw [hview]
    rfl
  | some r =>
    rw [view_get hi]
    unfold LikeRequest.view
    show (s.insertStep i r).view = _
    unfold insertStep
    split
    · next hphase =>
      obtain ⟨likes, hinsert, hrows⟩ := SongDb.insertLike_fresh h r.cheeringSongId r.userId
      rw [hinsert, hphase]
      dsimp only [LikePhase.isCleared]
      unfold view setPhase
      rw [SongDb.likeCounts_insert hrows, List.map_set]
      rfl
    · next hphase =>
      have hopen : r.phase.isCleared = false := by
        unfold LikePhase.isCleared
        split
        · next hcleared => exact absurd hcleared hphase
        · rfl
      rw [hopen]

/-- The request deletes next. -/
def Deletes (s : LikeRace) (i : Nat) (r : LikeRequest) : Prop :=
  s.requests[i]? = some r ∧ r.kind = .unlike ∧ r.phase = .found

theorem view_delete {s : LikeRace} {i : Nat} {r : LikeRequest} (h : s.Deletes i r) :
    (s.step (.delete i)).view = CheckInsert.step s.view (.remove r.key) := by
  obtain ⟨hi, hkind, hphase⟩ := h
  have hstep : s.step (.delete i) = s.deleteStep i r := onRequest_some hi _
  have hsame : ∀ error, (s.setPhase i r (.ended error)).view.requests = s.view.requests := by
    intro error
    rw [view_setPhase_same hi (by rw [hphase]; rfl)]
  rw [hstep]
  unfold deleteStep CheckInsert.step
  rw [hkind, hphase]
  exact congrArg₂ CheckInsert.Race.mk (s.db.likeCounts_deleteLike _ _) (hsame _)

theorem step_delete_other {s : LikeRace} {i : Nat} (h : ∀ r, ¬s.Deletes i r) :
    s.step (.delete i) = s := by
  refine onRequest_same fun r hi => ?_
  unfold deleteStep
  split
  · next hkind hphase => exact absurd ⟨hi, hkind, hphase⟩ (h r)
  · rfl

/-! ### Runs -/

theorem onRequest_freshIds {s : LikeRace} (h : s.FreshIds) (i : Nat) {f : LikeRequest → LikeRace}
    (hf : ∀ r, (f r).FreshIds) : (s.onRequest i f).FreshIds := by
  unfold onRequest
  cases s.requests[i]? with
  | none => exact h
  | some r => exact hf r

/-- Ids stay below the sequence, with every statement. -/
theorem step_freshIds {s : LikeRace} (h : s.FreshIds) (e : LikeEvent) : (s.step e).FreshIds := by
  have hphase : ∀ i r phase, (s.setPhase i r phase).FreshIds := fun _ _ _ => h
  cases e with
  | call kind cheeringSongId userId => exact h
  | findSong i =>
    refine onRequest_freshIds h i fun r => ?_
    unfold findSongStep
    split
    · split
      · exact hphase i r _
      · exact hphase i r _
    · exact h
  | findDuplicate i =>
    refine onRequest_freshIds h i fun r => ?_
    unfold findDuplicateStep
    split
    · split
      · exact hphase i r _
      · exact hphase i r _
    · exact h
  | insert i =>
    refine onRequest_freshIds h i fun r => ?_
    unfold insertStep
    split
    · obtain ⟨likes, hinsert, hrows⟩ := SongDb.insertLike_fresh h r.cheeringSongId r.userId
      rw [hinsert]
      intro l hl
      have hl : l ∈ likes.rows := hl
      rw [hrows, List.mem_append, List.mem_singleton] at hl
      show l.id < s.sequence + 1
      rcases hl with hl | rfl
      · exact Nat.lt_succ_of_lt (h l hl)
      · exact Nat.lt_succ_self _
    · exact h
  | delete i =>
    refine onRequest_freshIds h i fun r => ?_
    unfold deleteStep
    split
    · intro l hl
      exact h l (List.mem_filter.1 hl).1
    · exact h

theorem view_inserts {s : LikeRace} (h : s.FreshIds) (inserts : List Nat) :
    (run step s (inserts.map .insert)).view =
      run CheckInsert.step s.view (inserts.map .insert) := by
  induction inserts generalizing s with
  | nil => rfl
  | cons i inserts ih =>
    rw [List.map_cons, run_cons, ih (step_freshIds h _), view_insert h, List.map_cons, run_cons]

theorem unique_iff_safe {s : LikeRace} (h : s.FreshIds) : s.Unique ↔ CheckInsert.Safe s.view := by
  unfold Unique CheckInsert.Safe
  refine forall_congr' fun inserts => ?_
  rw [SongDb.uniqueLikes_iff, ← view_inserts h, Prod.forall]
  rfl

/-- The requests with their insert ahead, under their key. -/
theorem view_cleared {s : LikeRace} {key : Nat × Nat} :
    (∀ j : Nat, s.view.requests[j]? ≠ some ⟨key, true⟩) ↔
      ∀ other ∈ s.requests, other.key = key → other.phase ≠ .cleared := by
  constructor
  · intro h other hother hkey hphase
    obtain ⟨j, hj⟩ := List.mem_iff_getElem?.1 hother
    refine h j ((view_get hj).trans (congrArg some ?_))
    unfold LikeRequest.view
    rw [hkey, hphase]
    rfl
  · intro h j hj
    obtain ⟨other, hother, heq⟩ := List.mem_map.1 (List.mem_of_getElem? hj)
    obtain ⟨hkey, hopen⟩ := CheckInsert.Request.mk.inj heq
    refine h other hother hkey ?_
    unfold LikePhase.isCleared at hopen
    split at hopen
    · next hphase => exact hphase
    · cases hopen

theorem noOverlap_iff_alone {s : LikeRace} {i : Nat} {r : LikeRequest} (h : s.Looks i r) :
    s.NoOverlap (.findDuplicate i) ↔ CheckInsert.Alone s.view (.find i) := by
  have hview := h.view
  obtain ⟨hi, hkind, hphase⟩ := h
  constructor
  · intro h key hkey hzero
    cases hkey.symm.trans hview
    exact view_cleared.2 (h r hi hkind hphase (SongDb.findDuplicate_eq_none.2 hzero))
  · intro h r' hr' _ _ hnone
    cases hi.symm.trans hr'
    exact view_cleared.1 (h r.key hview (SongDb.findDuplicate_eq_none.1 hnone))

/-- **One step.**  Likes that are unique stay so exactly when the lookups do not overlap. -/
theorem step_unique {s : LikeRace} (h : s.FreshIds) (hunique : s.Unique) (e : LikeEvent) :
    (s.step e).Unique ↔ s.NoOverlap e := by
  have hsafe := (unique_iff_safe h).1 hunique
  rw [unique_iff_safe (step_freshIds h e)]
  cases e with
  | call kind cheeringSongId userId =>
    rw [view_call]
    exact CheckInsert.step_safe hsafe _
  | findSong i =>
    rw [view_findSong]
    exact iff_of_true hsafe trivial
  | findDuplicate i =>
    by_cases hlooks : ∃ r, s.Looks i r
    · obtain ⟨r, hlooks⟩ := hlooks
      rw [view_findDuplicate hlooks, noOverlap_iff_alone hlooks]
      exact CheckInsert.step_safe hsafe _
    · rw [not_exists] at hlooks
      rw [step_findDuplicate_other hlooks]
      exact iff_of_true hsafe fun r hi hkind hphase => absurd ⟨hi, hkind, hphase⟩ (hlooks r)
  | insert i =>
    rw [view_insert h]
    exact CheckInsert.step_safe hsafe _
  | delete i =>
    by_cases hdeletes : ∃ r, s.Deletes i r
    · obtain ⟨r, hdeletes⟩ := hdeletes
      rw [view_delete hdeletes]
      exact CheckInsert.step_safe hsafe _
    · rw [not_exists] at hdeletes
      rw [step_delete_other hdeletes]
      exact iff_of_true hsafe trivial

/-- **Runs.**  However many requests like and unlike at once, the likes stay unique exactly in
the runs without an overlap of lookups. -/
theorem likes_unique_iff {db : SongDb} {sequence : Nat} (hunique : db.UniqueLikes)
    (hids : ∀ l ∈ db.likes.rows, l.id < sequence) (events : List LikeEvent) :
    Always step Unique ⟨db, sequence, []⟩ events ↔ Guarded step NoOverlap ⟨db, sequence, []⟩ events := by
  have hstart : Unique ⟨db, sequence, []⟩ := by
    intro inserts
    have hsame : run step ⟨db, sequence, []⟩ (inserts.map .insert) = ⟨db, sequence, []⟩ := by
      induction inserts with
      | nil => rfl
      | cons i inserts ih => rw [List.map_cons, run_cons]; exact ih
    rw [hsame]
    exact hunique
  have hfresh : FreshIds ⟨db, sequence, []⟩ := hids
  exact always_iff_guarded (I := FreshIds) (fun _ e h => step_freshIds h e)
    (fun _ e h hu => step_unique h hu e) hfresh hstart events

/-- One song that nobody likes. -/
def unlikedSongDb : SongDb where
  teams := .empty
  players := .empty
  cheeringSongs := ⟨[⟨1, "team", some "승리", "무적 LG", "a", 1, none⟩], by decide⟩
  likes := .empty
  ids := by decide

/-- Two users like the song at once, and one of them takes it back and likes it again. -/
theorem likes_unique_twoUsers : Always step Unique ⟨unlikedSongDb, 1, []⟩
    [.call .like 1 7, .call .like 1 8, .findSong 0, .findSong 1, .findDuplicate 0, .findDuplicate 1,
      .insert 1, .insert 0, .call .unlike 1 7, .findSong 2, .delete 2, .call .like 1 7, .findSong 3,
      .findDuplicate 3, .insert 3] := by
  have hunique : unlikedSongDb.UniqueLikes := SongDb.uniqueLikes_iff.2 fun _ _ => Nat.zero_le 1
  exact (likes_unique_iff hunique (by decide) _).2 (by decide)

/-- Two requests of one user overlap, and the song has two likes of one user. -/
theorem likes_overlap_double : ∃ events : List LikeEvent,
    (run step ⟨unlikedSongDb, 1, []⟩ events).db.countLikesOf 1 7 = 2 ∧
      (run step ⟨unlikedSongDb, 1, []⟩ events).db.getCheeringSongLikes 1 = .ok 2 ∧
      (run step ⟨unlikedSongDb, 1, []⟩ events).db.likers 1 = [7] :=
  ⟨[.call .like 1 7, .call .like 1 7, .findSong 0, .findSong 1, .findDuplicate 0, .findDuplicate 1,
    .insert 0, .insert 1], by decide, by rfl, by decide⟩

/-! ## A request alone -/

/-- The request has ended, and its error has left the tables as they were. -/
def endedWith (db : SongDb) (r : LikeRequest) (sequence : Nat) : Except AppError SongDb → LikeRace
  | .ok db' => ⟨db', sequence, [{ r with phase := .ended none }]⟩
  | .error e => ⟨db, sequence, [{ r with phase := .ended (some e) }]⟩

/-- The steps before the two kinds of request differ. -/
theorem run_findSong (db : SongDb) (sequence : Nat) (kind : LikeKind) (cheeringSongId userId : Nat)
    (events : List LikeEvent) :
    run step ⟨db, sequence, []⟩ (.call kind cheeringSongId userId :: .findSong 0 :: events) =
      run step ⟨db, sequence, [⟨kind, cheeringSongId, userId,
        match db.findOne cheeringSongId with
        | .error e => .ended e
        | .ok _ => .found⟩]⟩ events := by
  rw [run_cons, run_cons]
  congr 1
  simp only [step, onRequest, findSongStep, setPhase, List.nil_append, List.getElem?_cons_zero,
    Option.elim_some]
  cases db.findOne cheeringSongId <;> rfl

theorem like_alone (db : SongDb) (sequence cheeringSongId userId : Nat) :
    ∃ sequence', run step ⟨db, sequence, []⟩
        [.call .like cheeringSongId userId, .findSong 0, .findDuplicate 0, .insert 0] =
      endedWith db ⟨.like, cheeringSongId, userId, .started⟩ sequence'
        (db.likeCheerSong sequence cheeringSongId userId) := by
  rw [run_findSong]
  unfold SongDb.likeCheerSong
  cases hsong : db.findOne cheeringSongId with
  | error e => exact ⟨sequence, rfl⟩
  | ok song =>
    obtain rfl := SongDb.findOne_eq_ok hsong
    simp only [run_cons, run_nil, step, onRequest, findDuplicateStep, setPhase, bind, Except.bind,
      List.getElem?_cons_zero, Option.elim_some]
    cases hduplicate : db.findDuplicate song.id userId with
    | some like => exact ⟨sequence, rfl⟩
    | none =>
      refine ⟨sequence + 1, ?_⟩
      cases hinsert : db.insertLike sequence song.id userId with
      | error e => simp [insertStep, setPhase, hinsert, endedWith]
      | ok db' => simp [insertStep, setPhase, hinsert, endedWith]

theorem unlike_alone (db : SongDb) (sequence cheeringSongId userId : Nat) :
    run step ⟨db, sequence, []⟩
        [.call .unlike cheeringSongId userId, .findSong 0, .delete 0] =
      endedWith db ⟨.unlike, cheeringSongId, userId, .started⟩ sequence
        (db.unlikeCheerSong cheeringSongId userId) := by
  rw [run_findSong]
  unfold SongDb.unlikeCheerSong
  cases hsong : db.findOne cheeringSongId with
  | error e => rfl
  | ok song =>
    simp only [run_cons, run_nil, step, onRequest, deleteStep, setPhase, bind, Except.bind,
      List.getElem?_cons_zero, Option.elim_some]
    split
    · next hnone =>
      rw [SongDb.deleteLike_none hnone]
      rfl
    · rfl

end LikeRace

end VictoryFairy
