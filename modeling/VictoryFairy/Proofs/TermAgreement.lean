import VictoryFairy.Lib.Runs
import VictoryFairy.Model.Terms

/-!
# Agreeing to terms adds them

The terms pushed for a list are compared with those agreed to before, not with each other.
So an id that is new to the user must not come twice.

    insertUserTerms_ok, insertUserTerms_error : the unique constraint on the pushed rows
    agreeTerm_spec       : one call
    agreeTerm_union_iff  : which calls add their terms, and what is left of their order
-/

namespace VictoryFairy

open Runs

/-! ## Pushed rows -/

/-- The ids the entity pushes a term for. -/
def newTerms (agreed termIds : List String) : List String :=
  termIds.filter fun id => !agreed.contains id

theorem mem_newTerms {agreed termIds : List String} {id : String} :
    id ∈ newTerms agreed termIds ↔ id ∈ termIds ∧ id ∉ agreed := by
  simp [newTerms]

theorem User.agreeTerms_ok {agreed termIds : List String} (hne : "" ∉ newTerms agreed termIds)
    (userId : Nat) :
    User.agreeTerms userId agreed termIds = .ok ((newTerms agreed termIds).map fun id => ⟨userId, id⟩) := by
  refine mapM_ok fun id hid => ?_
  exact if_neg fun he : id = "" => hne (he ▸ hid)

theorem User.agreeTerms_error {agreed termIds : List String} (hne : "" ∈ newTerms agreed termIds)
    (userId : Nat) : User.agreeTerms userId agreed termIds = .error (.account .emptyTermId) := by
  refine mapM_error (fun id _ => ?_) ⟨"", hne, if_pos rfl⟩
  split
  · exact Or.inl rfl
  · exact Or.inr ⟨_, rfl⟩

section

variable {db : Db} {terms : List UserTerm}

theorem insertUserTerm_cons {term : UserTerm} (hterm : (db.terms.find? term.termId).isSome) :
    insertUserTerms db (term :: terms) =
      match db.userTerms.insert? term with
      | none => .error (.db .uniqueViolation)
      | some userTerms => insertUserTerms { db with userTerms } terms := by
  unfold insertUserTerms
  rw [List.foldlM_cons]
  unfold Db.insertUserTerm
  rw [if_neg (by simp [Option.isSome_iff_ne_none.1 hterm])]
  cases db.userTerms.insert? term <;> rfl

/-- The rows are appended when their keys are new. -/
theorem insertUserTerms_ok (hterms : ∀ term ∈ terms, (db.terms.find? term.termId).isSome)
    (hn : ((db.userTerms.rows ++ terms).map UserTerm.key).Nodup) :
    insertUserTerms db terms = .ok { db with userTerms := ⟨db.userTerms.rows ++ terms, hn⟩ } := by
  induction terms generalizing db with
  | nil => simp [insertUserTerms, pure, Except.pure]
  | cons term terms ih =>
    have hfresh : ∀ t ∈ db.userTerms.rows, t.key ≠ term.key := by
      intro t ht he
      rw [List.map_append, List.nodup_append] at hn
      exact hn.2.2 t.key (List.mem_map_of_mem ht) term.key (List.mem_map_of_mem List.mem_cons_self) he
    have hinsert : db.userTerms.insert? term = some (db.userTerms.save term) :=
      Table.insert?_eq_some.2 ⟨Table.find?_eq_none.2 hfresh, rfl⟩
    rw [insertUserTerm_cons (hterms term List.mem_cons_self), hinsert]
    have hrows : (db.userTerms.save term).rows ++ terms = db.userTerms.rows ++ term :: terms := by
      rw [Table.rows_save_of_fresh hfresh, List.append_assoc]
      rfl
    have hn' : (((db.userTerms.save term).rows ++ terms).map UserTerm.key).Nodup := hrows ▸ hn
    dsimp only
    rw [@ih { db with userTerms := db.userTerms.save term }
      (fun t ht => hterms t (List.mem_cons_of_mem term ht)) hn']
    simp only [hrows]

/-- A key that is taken, or comes twice, is rejected. -/
theorem insertUserTerms_error (hterms : ∀ term ∈ terms, (db.terms.find? term.termId).isSome)
    (hn : ¬ ((db.userTerms.rows ++ terms).map UserTerm.key).Nodup) :
    insertUserTerms db terms = .error (.db .uniqueViolation) := by
  induction terms generalizing db with
  | nil => exact absurd (by rw [List.append_nil]; exact db.userTerms.nodup) hn
  | cons term terms ih =>
    rw [insertUserTerm_cons (hterms term List.mem_cons_self)]
    cases hinsert : db.userTerms.insert? term with
    | none => rfl
    | some userTerms =>
      obtain ⟨hnone, rfl⟩ := Table.insert?_eq_some.1 hinsert
      refine ih (fun t ht => hterms t (List.mem_cons_of_mem term ht)) ?_
      dsimp only
      rw [Table.rows_save_of_fresh (Table.find?_eq_none.1 hnone), List.append_assoc]
      exact hn

/-- The keys of the rows pushed for a user are new; only they can repeat each other. -/
theorem nodup_newTerms {userId : Nat} {termIds : List String} :
    ((db.userTerms.rows ++ (newTerms (agreedTerms db userId) termIds).map fun id =>
      (⟨userId, id⟩ : UserTerm)).map UserTerm.key).Nodup ↔ (newTerms (agreedTerms db userId) termIds).Nodup := by
  rw [List.map_append, List.nodup_append, List.map_map]
  constructor
  · rintro ⟨-, hn, -⟩
    exact List.Nodup.of_map _ hn
  · intro hn
    refine ⟨db.userTerms.nodup, hn.map fun a b h => (Prod.mk.inj h).2, ?_⟩
    intro k hk k' hk' he
    obtain ⟨row, hrow, rfl⟩ := List.mem_map.1 hk
    obtain ⟨id, hid, rfl⟩ := List.mem_map.1 hk'
    obtain ⟨huser, hterm⟩ := Prod.mk.inj he
    refine (mem_newTerms.1 hid).2 (List.mem_map.2 ⟨row, List.mem_filter.2 ⟨hrow, ?_⟩, hterm⟩)
    exact decide_eq_true huser

/-- The transaction appends the pushed rows, or fails. -/
theorem agreeTerms_spec {userId : Nat} {termIds : List String}
    (huser : (db.users.find? userId).isSome)
    (hterms : ∀ id ∈ termIds, (db.terms.find? id).isSome) :
    (∃ hn : (newTerms (agreedTerms db userId) termIds).Nodup,
      "" ∉ newTerms (agreedTerms db userId) termIds ∧ agreeTerms db userId termIds =
        .ok { db with userTerms := ⟨_, nodup_newTerms.2 hn⟩ }) ∨
    (¬ ("" ∉ newTerms (agreedTerms db userId) termIds ∧
      (newTerms (agreedTerms db userId) termIds).Nodup) ∧
        ∃ e, agreeTerms db userId termIds = .error e) := by
  obtain ⟨user, hfound⟩ := Option.isSome_iff_exists.1 huser
  obtain rfl : user.id = userId := Table.find?_key hfound
  have hcore : agreeTerms db user.id termIds =
      (User.agreeTerms user.id (agreedTerms db user.id) termIds).bind (insertUserTerms db) := by
    unfold agreeTerms loadUser
    rw [hfound]
    rfl
  have hexist : ∀ term ∈ (newTerms (agreedTerms db user.id) termIds).map fun id =>
      (⟨user.id, id⟩ : UserTerm), (db.terms.find? term.termId).isSome := by
    intro term hterm
    obtain ⟨id, hid, rfl⟩ := List.mem_map.1 hterm
    exact hterms id (mem_newTerms.1 hid).1
  rw [hcore]
  by_cases hempty : "" ∈ newTerms (agreedTerms db user.id) termIds
  · rw [User.agreeTerms_error hempty]
    exact Or.inr ⟨fun h => h.1 hempty, _, rfl⟩
  · rw [User.agreeTerms_ok hempty]
    by_cases hn : (newTerms (agreedTerms db user.id) termIds).Nodup
    · exact Or.inl ⟨hn, hempty, insertUserTerms_ok hexist (nodup_newTerms.2 hn)⟩
    · exact Or.inr ⟨fun h => hn h.2, _, insertUserTerms_error hexist (mt nodup_newTerms.1 hn)⟩

end

/-! ## The list of terms -/

namespace TermStore

variable {s : TermStore}

/-- The ids the service takes for valid. -/
def validIds (s : TermStore) : List String := s.getTermList.2.required ++ s.getTermList.2.optional

/-- The list of terms is that of the table. -/
def Synced (s : TermStore) : Prop := ∀ id, id ∈ s.validIds ↔ (s.db.terms.find? id).isSome

@[simp] theorem getTermList_db (s : TermStore) : s.getTermList.1.db = s.db := by
  unfold getTermList
  split <;> rfl

/-- The list that is kept is the one that was returned. -/
theorem getTermList_again {db : Db} (hterms : db.terms = s.db.terms) :
    ({ s.getTermList.1 with db } : TermStore).getTermList.2 = s.getTermList.2 := by
  by_cases hcached : 0 < s.cachedTermList.required.length ∨ 0 < s.cachedTermList.optional.length
  · have hlist : s.getTermList = (s, s.cachedTermList) := if_pos hcached
    rw [hlist]
    have hcached' : 0 < (⟨db, s.cached⟩ : TermStore).cachedTermList.required.length ∨
        0 < (⟨db, s.cached⟩ : TermStore).cachedTermList.optional.length := hcached
    have hlist' : (⟨db, s.cached⟩ : TermStore).getTermList = (⟨db, s.cached⟩, s.cachedTermList) :=
      if_pos hcached'
    rw [hlist']
  · have hlist : s.getTermList =
        ({ s with cached := some (toTermList s.db.terms.rows) }, toTermList s.db.terms.rows) :=
      if_neg hcached
    rw [hlist]
    unfold getTermList
    split
    · rfl
    · exact congrArg (fun t => toTermList (Table.rows t)) hterms

theorem Synced.again (h : s.Synced) {db : Db} (hterms : db.terms = s.db.terms) :
    ({ s.getTermList.1 with db } : TermStore).Synced := by
  intro id
  unfold validIds
  rw [getTermList_again hterms]
  dsimp only
  rw [hterms]
  exact h id

/-- Without a cached list the table is read. -/
theorem synced_of_uncached (h : s.cached = none) : s.Synced := by
  intro id
  have hlist : s.getTermList.2 = toTermList s.db.terms.rows := by
    unfold getTermList cachedTermList
    rw [h]
    rfl
  unfold validIds
  rw [hlist, Option.isSome_iff_exists, List.mem_append]
  simp only [toTermList, List.mem_map, List.mem_filter, Bool.not_eq_true', Table.find?_eq_some]
  constructor
  · rintro (⟨term, ⟨hterm, -⟩, hid⟩ | ⟨term, ⟨hterm, -⟩, hid⟩) <;> exact ⟨term, hterm, hid⟩
  · rintro ⟨term, hterm, hid⟩
    cases hreq : term.isRequired with
    | true => exact Or.inl ⟨term, ⟨hterm, hreq⟩, hid⟩
    | false => exact Or.inr ⟨term, ⟨hterm, hreq⟩, hid⟩

/-! ## One call -/

/-- The user exists, and the list of terms is that of the table. -/
structure Ready (s : TermStore) (userId : Nat) : Prop where
  user : (s.db.users.find? userId).isSome
  synced : s.Synced

/-- The terms exist. -/
def Existing (s : TermStore) (termIds : List String) : Prop :=
  ∀ id ∈ termIds, (s.db.terms.find? id).isSome

/-- What is new to the user has a name, and comes once. -/
def Distinct (s : TermStore) (userId : Nat) (termIds : List String) : Prop :=
  "" ∉ newTerms (agreedTerms s.db userId) termIds ∧
    (newTerms (agreedTerms s.db userId) termIds).Nodup

/-- The store after a call that pushed these terms. -/
def withTerms (s : TermStore) (userId : Nat) (termIds : List String)
    (h : s.Distinct userId termIds) : TermStore :=
  { s.getTermList.1 with db := { s.db with userTerms := ⟨_, nodup_newTerms.2 h.2⟩ } }

theorem agreeTerm_eq (hsynced : s.Synced) {termIds : List String} (hids : s.Existing termIds)
    (userId : Nat) : s.agreeTerm userId termIds =
      match agreeTerms s.db userId termIds with
      | .error e => (s.getTermList.1, .error e)
      | .ok db => ({ s.getTermList.1 with db }, .ok ()) := by
  have hvalid : (termIds.filter fun id => s.validIds.contains id) = termIds :=
    List.filter_eq_self.2 fun id hid => List.contains_iff_mem.2 ((hsynced id).2 (hids id hid))
  unfold agreeTerm
  dsimp only
  rewrite [show s.getTermList.2.required ++ s.getTermList.2.optional = s.validIds from rfl, hvalid,
    if_neg (not_not.2 rfl), getTermList_db]
  cases agreeTerms s.db userId termIds <;> rfl

theorem agreeTerm_missing (hsynced : s.Synced) {termIds : List String}
    (hids : ¬ s.Existing termIds) (userId : Nat) : s.agreeTerm userId termIds =
      (s.getTermList.1, .error (.http 400 "유효하지 않은 약관 아이디")) := by
  have hlength : (termIds.filter fun id => s.validIds.contains id).length ≠ termIds.length := by
    intro he
    refine hids fun id hid => (hsynced id).1 ?_
    exact List.contains_iff_mem.1 (List.length_filter_eq_length_iff.1 he id hid)
  exact if_pos hlength

/-- **One call.**  It pushes the new terms, or changes nothing in the database. -/
theorem agreeTerm_spec {userId : Nat} (hs : s.Ready userId) (termIds : List String) :
    (∃ h : s.Distinct userId termIds, s.Existing termIds ∧
      s.agreeTerm userId termIds = (s.withTerms userId termIds h, .ok ())) ∨
    (¬ (s.Existing termIds ∧ s.Distinct userId termIds) ∧
      ∃ e, s.agreeTerm userId termIds = (s.getTermList.1, .error e)) := by
  by_cases hids : s.Existing termIds
  · rw [agreeTerm_eq hs.synced hids]
    rcases agreeTerms_spec hs.user hids with ⟨hn, hempty, hok⟩ | ⟨hnot, e, herror⟩
    · rw [hok]
      exact Or.inl ⟨⟨hempty, hn⟩, hids, rfl⟩
    · rw [herror]
      exact Or.inr ⟨fun h => hnot h.2, e, rfl⟩
  · exact Or.inr ⟨fun h => hids h.1, _, agreeTerm_missing hs.synced hids userId⟩

/-! ## The terms of a user -/

/-- The terms of the user are those agreed to before and the listed ones, each once; the terms
of the others are as before. -/
structure Agreed (s s' : TermStore) (userId : Nat) (termIds : List String) : Prop where
  mem : ∀ id, id ∈ agreedTerms s'.db userId ↔ id ∈ agreedTerms s.db userId ∨ id ∈ termIds
  once : (agreedTerms s'.db userId).Nodup
  other : ∀ other, other ≠ userId → agreedTerms s'.db other = agreedTerms s.db other

theorem nodup_agreedTerms (db : Db) (userId : Nat) : (agreedTerms db userId).Nodup := by
  unfold agreedTerms
  refine List.Nodup.map_on (fun a ha b hb he => ?_) (db.userTerms.nodup.of_map.filter _)
  obtain ⟨ha, hua⟩ := List.mem_filter.1 ha
  obtain ⟨hb, hub⟩ := List.mem_filter.1 hb
  have huser : a.userId = b.userId := (of_decide_eq_true hua).trans (of_decide_eq_true hub).symm
  exact Table.eq_of_key ha hb (Prod.ext huser he)

theorem agreedTerms_append {db : Db} {userId : Nat} {ids : List String}
    (hn : ((db.userTerms.rows ++ ids.map fun id => (⟨userId, id⟩ : UserTerm)).map UserTerm.key).Nodup)
    (user : Nat) : agreedTerms { db with userTerms := ⟨_, hn⟩ } user =
      agreedTerms db user ++ if user = userId then ids else [] := by
  unfold agreedTerms
  rw [List.filter_append, List.map_append, List.filter_map, List.map_map]
  refine congrArg (_ ++ ·) ?_
  show (ids.filter fun _ => decide (userId = user)).map id = if user = userId then ids else []
  rw [List.map_id]
  split
  · next he => exact List.filter_eq_self.2 fun id _ => decide_eq_true he.symm
  · next hne => exact List.filter_eq_nil_iff.2 fun id _ h => hne (of_decide_eq_true h).symm

theorem agreed_withTerms {userId : Nat} {termIds : List String} (h : s.Distinct userId termIds) :
    Agreed s (s.withTerms userId termIds h) userId termIds := by
  have happend := agreedTerms_append (nodup_newTerms.2 h.2)
  refine ⟨fun id => ?_, nodup_agreedTerms _ _, fun other hne => ?_⟩
  · unfold withTerms
    rw [happend, if_pos rfl, List.mem_append, mem_newTerms]
    by_cases hid : id ∈ agreedTerms s.db userId <;> simp [hid]
  · unfold withTerms
    rw [happend, if_neg hne, List.append_nil]

theorem Agreed.refl (s : TermStore) (userId : Nat) : Agreed s s userId [] :=
  ⟨fun id => by simp, nodup_agreedTerms _ _, fun _ _ => rfl⟩

theorem Agreed.trans {s₁ s₂ : TermStore} {userId : Nat} {ids ids' : List String}
    (h : Agreed s s₁ userId ids) (h' : Agreed s₁ s₂ userId ids') : Agreed s s₂ userId (ids ++ ids') where
  mem id := by rw [h'.mem, h.mem, List.mem_append, or_assoc]
  once := h'.once
  other other hne := (h'.other other hne).trans (h.other other hne)

/-! ## Calls one after the other -/

def next (userId : Nat) (s : TermStore) (termIds : List String) : TermStore :=
  (s.agreeTerm userId termIds).1

def Succeeds (userId : Nat) (s : TermStore) (termIds : List String) : Prop :=
  (s.agreeTerm userId termIds).2 = .ok ()

theorem succeeds_iff {userId : Nat} (hs : s.Ready userId) (termIds : List String) :
    Succeeds userId s termIds ↔ s.Existing termIds ∧ s.Distinct userId termIds := by
  unfold Succeeds
  rcases agreeTerm_spec hs termIds with ⟨h, hids, hcall⟩ | ⟨hnot, e, hcall⟩
  · rw [hcall]
    exact ⟨fun _ => ⟨hids, h⟩, fun _ => rfl⟩
  · rw [hcall]
    exact ⟨nofun, fun h => absurd h hnot⟩

theorem agreed_next {userId : Nat} (hs : s.Ready userId) {termIds : List String}
    (h : Succeeds userId s termIds) : Agreed s (next userId s termIds) userId termIds := by
  unfold next
  rcases agreeTerm_spec hs termIds with ⟨hd, -, hcall⟩ | ⟨hnot, -⟩
  · rw [hcall]
    exact agreed_withTerms hd
  · exact absurd ((succeeds_iff hs termIds).1 h) hnot

/-- A call changes neither the users nor the terms. -/
theorem Ready.next {userId : Nat} (hs : s.Ready userId) (termIds : List String) :
    (next userId s termIds).Ready userId := by
  unfold TermStore.next
  rcases agreeTerm_spec hs termIds with ⟨hd, -, hcall⟩ | ⟨-, e, hcall⟩
  · rw [hcall]
    exact ⟨hs.user, hs.synced.again rfl⟩
  · rw [hcall]
    have hsame : s.getTermList.1 = { s.getTermList.1 with db := s.db } := by
      conv_rhs => rw [← s.getTermList_db]
    exact ⟨by rw [getTermList_db]; exact hs.user, hsame ▸ hs.synced.again rfl⟩

theorem agreed_run {userId : Nat} (hs : s.Ready userId) {calls : List (List String)}
    (h : Guarded (next userId) (Succeeds userId) s calls) :
    Agreed s (run (next userId) s calls) userId calls.flatten := by
  induction calls generalizing s with
  | nil => exact Agreed.refl s userId
  | cons termIds calls ih => exact (agreed_next hs h.1).trans (ih (hs.next termIds) h.2)

/-- Calls that list the same terms leave the same rows, however these were split and ordered. -/
theorem agreed_perm {userId : Nat} (hs : s.Ready userId) {calls calls' : List (List String)}
    (h : Guarded (next userId) (Succeeds userId) s calls)
    (h' : Guarded (next userId) (Succeeds userId) s calls')
    (hsame : ∀ id, id ∈ calls.flatten ↔ id ∈ calls'.flatten) :
    (agreedTerms (run (next userId) s calls).db userId).Perm
      (agreedTerms (run (next userId) s calls').db userId) := by
  have hrun := agreed_run hs h
  have hrun' := agreed_run hs h'
  refine (List.perm_ext_iff_of_nodup hrun.once hrun'.once).2 fun id => ?_
  rw [hrun.mem, hrun'.mem, hsame]

end TermStore

open TermStore

/-- **Agreeing to terms is a union** exactly when what is new to the user has a name and comes
once in the list; and so for the calls of a run. -/
theorem agreeTerm_union_iff (s : TermStore) (userId : Nat) (hs : s.Ready userId) :
    (∀ termIds, s.Existing termIds →
      (Succeeds userId s termIds ∧ Agreed s (s.agreeTerm userId termIds).1 userId termIds ↔
        s.Distinct userId termIds)) ∧
    ∀ calls : List (List String),
      (Guarded (next userId) (Succeeds userId) s calls ∧
        Agreed s (run (next userId) s calls) userId calls.flatten ↔
      Guarded (next userId) (fun s termIds => s.Existing termIds ∧ s.Distinct userId termIds) s
        calls) := by
  refine ⟨fun termIds hids => ?_, fun calls => ?_⟩
  · constructor
    · rintro ⟨hok, -⟩
      exact ((succeeds_iff hs termIds).1 hok).2
    · intro h
      have hok := (succeeds_iff hs termIds).2 ⟨hids, h⟩
      exact ⟨hok, agreed_next hs hok⟩
  · rw [← guarded_congr (I := fun s => s.Ready userId) (fun s termIds hs => succeeds_iff hs termIds)
      (fun s termIds hs _ => hs.next termIds) hs calls]
    exact ⟨And.left, fun h => ⟨h, agreed_run hs h⟩⟩

/-- The fan of the small league has agreed to one of two terms. -/
def termStore : TermStore where
  db := { leagueDb with
    terms := ⟨[⟨"PRIVACY20250304", true⟩, ⟨"LOCATION20250302", false⟩], by decide⟩
    userTerms := ⟨[⟨7, "PRIVACY20250304"⟩], by decide⟩ }
  cached := none

/-- A term the fan has agreed to may come twice. -/
theorem agreeTerm_union_old :
    agreedTerms (termStore.agreeTerm 7
        ["PRIVACY20250304", "LOCATION20250302", "PRIVACY20250304"]).1.db 7 =
      ["PRIVACY20250304", "LOCATION20250302"] ∧
    Agreed termStore (termStore.agreeTerm 7
      ["PRIVACY20250304", "LOCATION20250302", "PRIVACY20250304"]).1 7
      ["PRIVACY20250304", "LOCATION20250302", "PRIVACY20250304"] := by
  have hs : termStore.Ready 7 := ⟨by decide, synced_of_uncached rfl⟩
  have hiff := (agreeTerm_union_iff termStore 7 hs).1
    ["PRIVACY20250304", "LOCATION20250302", "PRIVACY20250304"] (by unfold Existing; decide)
  exact ⟨by decide, (hiff.2 (by unfold Distinct; decide)).2⟩

/-- A new one may not: the request fails, and the fan has not agreed to it. -/
theorem agreeTerm_repeated :
    termStore.Ready 7 ∧ termStore.Existing ["LOCATION20250302", "LOCATION20250302"] ∧
    (termStore.agreeTerm 7 ["LOCATION20250302", "LOCATION20250302"]).2 =
      .error (.db .uniqueViolation) ∧
    agreedTerms (termStore.agreeTerm 7 ["LOCATION20250302", "LOCATION20250302"]).1.db 7 =
      ["PRIVACY20250304"] := by
  refine ⟨⟨by decide, synced_of_uncached rfl⟩, ?_, by decide, by decide⟩
  unfold Existing
  decide

end VictoryFairy
