import VictoryFairy.Lib.Past
import VictoryFairy.Model.TermRuns
import VictoryFairy.Proofs.Commits
import VictoryFairy.Proofs.TermAgreement

/-!
# Agreeing to what is missing

A sign-up agrees to every required term, so what a user has not agreed to was inserted later.
The request that agrees to it checks the ids against the list in Redis, which an insert
leaves as it was.

    mem_missing            : what the check returns
    nextAccount_keepsTerms : what a request does to the agreed terms
    canAgree_iff           : when a user can agree to what is missing
    term_flow_iff          : every user always can exactly when no required term is inserted
                             while there are users and a list in Redis
    missing_was_inserted   : where a missing term comes from
-/

namespace VictoryFairy

open Runs

/-! ## The check -/

section

variable {db db' : Db} {u : Nat}

theorem mem_agreedTerms {id : String} :
    id ∈ agreedTerms db u ↔ ∃ t ∈ db.userTerms.rows, t.termId = id ∧ t.userId = u := by
  unfold agreedTerms
  simp only [List.mem_map, List.mem_filter, decide_eq_true_eq]
  exact ⟨fun ⟨t, ⟨ht, hu⟩, hid⟩ => ⟨t, ht, hid, hu⟩, fun ⟨t, ht, hid, hu⟩ => ⟨t, ⟨ht, hu⟩, hid⟩⟩

theorem mem_requiredTermIds {id : String} :
    id ∈ requiredTermIds db ↔ ∃ term ∈ db.terms.rows, term.isRequired = true ∧ term.id = id := by
  simp [requiredTermIds, and_assoc]

/-- The check returns the required terms the user has not agreed to. -/
theorem mem_missing {id : String} : id ∈ getNotAgreedRequiredTermIds db u ↔
    id ∈ requiredTermIds db ∧ id ∉ agreedTerms db u := by
  rw [mem_requiredTermIds, mem_agreedTerms]
  unfold getNotAgreedRequiredTermIds
  simp only [List.mem_map, List.mem_filter, Bool.and_eq_true, Bool.not_eq_true', List.any_eq_false,
    decide_eq_true_eq, not_exists, not_and]
  constructor
  · rintro ⟨term, ⟨hterm, hreq, hno⟩, rfl⟩
    exact ⟨⟨term, hterm, hreq, rfl⟩, hno⟩
  · rintro ⟨⟨term, hterm, hreq, rfl⟩, hno⟩
    exact ⟨term, ⟨hterm, hreq, hno⟩, rfl⟩

theorem missing_eq_nil_iff : getNotAgreedRequiredTermIds db u = [] ↔
    ∀ id ∈ requiredTermIds db, id ∈ agreedTerms db u := by
  rw [List.eq_nil_iff_forall_not_mem]
  refine forall_congr' fun id => ?_
  rw [mem_missing, not_and, not_not]

theorem nodup_missing : (getNotAgreedRequiredTermIds db u).Nodup :=
  db.terms.nodup.sublist (List.filter_sublist.map Term.id)

theorem missing_exists {id : String} (h : id ∈ getNotAgreedRequiredTermIds db u) :
    (db.terms.find? id).isSome := by
  obtain ⟨term, hterm, -, rfl⟩ := mem_requiredTermIds.1 (mem_missing.1 h).1
  rw [Table.find?_of_mem hterm]
  rfl

theorem requiredTermIds_congr (h : db'.terms = db.terms) :
    requiredTermIds db' = requiredTermIds db := by
  unfold requiredTermIds
  rw [h]

theorem agreedTerms_congr (h : db'.userTerms = db.userTerms) :
    agreedTerms db' u = agreedTerms db u := by
  unfold agreedTerms
  rw [h]

end

/-! ## Agreeing to what is missing -/

/-- Every user can agree to the terms the check returns, in whatever order, and has then
agreed to all. -/
def CanAgree (s : TermRun) : Prop :=
  ∀ user ∈ s.world.db.users.rows, ∀ asked,
    asked.Perm (getNotAgreedRequiredTermIds s.world.db user.id) →
      (s.agreeTerm user.id asked).2 = .ok () ∧
        getNotAgreedRequiredTermIds (s.agreeTerm user.id asked).1.world.db user.id = []

namespace TermStore

variable {s : TermStore}

theorem agreeTerm_listed {termIds : List String} (h : ∀ id ∈ termIds, id ∈ s.validIds)
    (userId : Nat) : s.agreeTerm userId termIds =
      match agreeTerms s.db userId termIds with
      | .error e => (s.getTermList.1, .error e)
      | .ok db => ({ s.getTermList.1 with db }, .ok ()) := by
  have hvalid : (termIds.filter fun id => s.validIds.contains id) = termIds :=
    List.filter_eq_self.2 fun id hid => List.contains_iff_mem.2 (h id hid)
  unfold agreeTerm
  dsimp only
  rewrite [show s.getTermList.2.required ++ s.getTermList.2.optional = s.validIds from rfl, hvalid,
    if_neg (not_not.2 rfl), getTermList_db]
  cases agreeTerms s.db userId termIds <;> rfl

theorem agreeTerm_unlisted {termIds : List String} (h : ¬ ∀ id ∈ termIds, id ∈ s.validIds)
    (userId : Nat) : s.agreeTerm userId termIds =
      (s.getTermList.1, .error (.http 400 "유효하지 않은 약관 아이디")) := by
  have hlength : (termIds.filter fun id => s.validIds.contains id).length ≠ termIds.length :=
    fun he => h fun id hid =>
      List.contains_iff_mem.1 (List.length_filter_eq_length_iff.1 he id hid)
  exact if_pos hlength

end TermStore

open TermStore

/-- What is listed and has a name can be agreed to. -/
theorem canAgree_iff (s : TermRun) : CanAgree s ↔
    ∀ user ∈ s.world.db.users.rows, ∀ id ∈ getNotAgreedRequiredTermIds s.world.db user.id,
      id ≠ "" ∧ id ∈ s.store.validIds := by
  refine forall₂_congr fun user huser => ?_
  have hfound : (s.store.db.users.find? user.id).isSome := by
    show (s.world.db.users.find? user.id).isSome
    rw [Table.find?_of_mem huser]
    rfl
  constructor
  · intro h id hid
    obtain ⟨hok, -⟩ := h _ (List.Perm.refl _)
    have hlisted : ∀ id ∈ getNotAgreedRequiredTermIds s.world.db user.id, id ∈ s.store.validIds := by
      by_contra hnot
      unfold TermRun.agreeTerm at hok
      rw [agreeTerm_unlisted hnot] at hok
      cases hok
    refine ⟨?_, hlisted id hid⟩
    rintro rfl
    unfold TermRun.agreeTerm at hok
    rw [agreeTerm_listed hlisted] at hok
    have hexist : ∀ id ∈ getNotAgreedRequiredTermIds s.world.db user.id,
        (s.store.db.terms.find? id).isSome := fun id hid => missing_exists hid
    rcases agreeTerms_spec hfound hexist with ⟨-, hempty, -⟩ | ⟨-, e, he⟩
    · exact hempty (mem_newTerms.2 ⟨hid, (mem_missing.1 hid).2⟩)
    · rw [he] at hok
      cases hok
  · intro h asked hperm
    have hmem : ∀ {id}, id ∈ asked ↔ id ∈ getNotAgreedRequiredTermIds s.world.db user.id :=
      hperm.mem_iff
    have hexist : ∀ id ∈ asked, (s.store.db.terms.find? id).isSome :=
      fun id hid => missing_exists (hmem.1 hid)
    unfold TermRun.agreeTerm
    rw [agreeTerm_listed fun id hid => (h id (hmem.1 hid)).2]
    rcases agreeTerms_spec hfound hexist with ⟨hn, -, hok⟩ | ⟨hnot, -⟩
    · rw [hok]
      refine ⟨rfl, missing_eq_nil_iff.2 fun id hreq => ?_⟩
      show id ∈ agreedTerms { s.store.db with userTerms := ⟨_, nodup_newTerms.2 hn⟩ } user.id
      rw [agreedTerms_append (nodup_newTerms.2 hn), if_pos rfl, List.mem_append, mem_newTerms]
      by_cases hagreed : id ∈ agreedTerms s.world.db user.id
      · exact Or.inl hagreed
      · exact Or.inr ⟨hmem.2 (mem_missing.2 ⟨hreq, hagreed⟩), hagreed⟩
    · refine absurd ⟨fun hempty => ?_, ?_⟩ hnot
      · exact (h "" (hmem.1 (mem_newTerms.1 hempty).1)).1 rfl
      · exact (hperm.nodup_iff.2 nodup_missing).filter _

/-! ## What a request does to the agreed terms -/

/-- Terms are not deleted, rows of `user_term` name existing ones and go with their user, and a
user of now was one before and has agreed to the same, or is new and has agreed to all. -/
structure KeepsTerms (db db' : Db) : Prop where
  terms : db'.terms = db.terms
  rows : ∀ row ∈ db'.userTerms.rows, row ∈ db.userTerms.rows ∨ (db.terms.find? row.termId).isSome
  owners : (∀ row ∈ db.userTerms.rows, (db.users.find? row.userId).isSome) →
    ∀ row ∈ db'.userTerms.rows, (db'.users.find? row.userId).isSome
  users : ∀ u, (db'.users.find? u).isSome →
    ((db.users.find? u).isSome ∧ agreedTerms db' u = agreedTerms db u) ∨
      getNotAgreedRequiredTermIds db' u = []

section

variable {db db1 db' : Db}

theorem KeepsTerms.of_same (hterms : db'.terms = db.terms) (hrows : db'.userTerms = db.userTerms)
    (husers : ∀ u, (db'.users.find? u).isSome = (db.users.find? u).isSome) : KeepsTerms db db' where
  terms := hterms
  rows row hrow := Or.inl (hrows ▸ hrow)
  owners howned row hrow := by
    rw [husers]
    exact howned row (hrows ▸ hrow)
  users u hu := Or.inl ⟨husers u ▸ hu, agreedTerms_congr hrows⟩

theorem KeepsTerms.refl (db : Db) : KeepsTerms db db := .of_same rfl rfl fun _ => rfl

/-- Rank rows do not matter. -/
theorem KeepsTerms.rankWrites (h : KeepsTerms db db1) {rows : List Rank}
    (hw : RankWrites db1 db' rows) : KeepsTerms db db' := by
  rw [hw.eq]
  exact ⟨h.terms, h.rows, h.owners, h.users⟩

theorem KeepsTerms.removeUser (userId : Nat) : KeepsTerms db (db.removeUser userId) := by
  refine ⟨rfl, fun row hrow => Or.inl (Table.mem_reject.1 hrow).1, fun howned row hrow => ?_,
    fun u hu => Or.inl ?_⟩
  · obtain ⟨hrow, hne⟩ := Table.mem_reject.1 hrow
    show ((db.users.remove userId).find? row.userId).isSome
    rw [Table.find?_remove, if_neg fun he => of_decide_eq_false hne he.symm]
    exact howned row hrow
  · change ((db.users.remove userId).find? u).isSome = true at hu
    rw [Table.find?_remove] at hu
    split at hu
    · cases hu
    · next hne =>
      refine ⟨hu, congrArg (List.map UserTerm.termId) (Table.filter_reject _ _ _ fun t _ ht => ?_)⟩
      rw [decide_eq_false_iff_not]
      exact fun he => hne (he.symm.trans (of_decide_eq_true ht))

/-- The rows of a successful insert are appended. -/
theorem insertUserTerms_rows {terms : List UserTerm} (h : insertUserTerms db terms = .ok db') :
    db'.users = db.users ∧ db'.terms = db.terms ∧
      (∀ t ∈ terms, (db.terms.find? t.termId).isSome) ∧
        db'.userTerms.rows = db.userTerms.rows ++ terms := by
  induction terms generalizing db with
  | nil => cases h; exact ⟨rfl, rfl, nofun, (List.append_nil _).symm⟩
  | cons t terms ih =>
    unfold insertUserTerms at h
    rw [List.foldlM_cons] at h
    obtain ⟨db1, h1, h⟩ := bind_eq_ok.1 h
    obtain ⟨husers, hterms, hexist, hrows⟩ := ih h
    unfold Db.insertUserTerm at h1
    split at h1
    · cases h1
    · next hterm =>
      split at h1
      · cases h1
      · next hins =>
        cases h1
        obtain ⟨hfresh, rfl⟩ := Table.insert?_eq_some.1 hins
        refine ⟨husers, hterms, fun s hs => ?_, ?_⟩
        · rcases List.mem_cons.1 hs with rfl | hs
          · simpa [Option.isSome_iff_ne_none] using hterm
          · exact hexist s hs
        · rw [hrows, Table.rows_save_of_fresh (Table.find?_eq_none.1 hfresh), List.append_assoc]
          rfl

/-- A user who has agreed to nothing agrees to all that is listed. -/
theorem newTerms_nil (termIds : List String) : newTerms [] termIds = termIds :=
  List.filter_eq_self.2 fun _ _ => rfl

/-- A new user agrees to all of the terms, unless one has an empty id. -/
theorem agreeTerms_cases (userId : Nat) (termIds : List String) :
    ("" ∈ termIds ∧ User.agreeTerms userId [] termIds = .error (.account .emptyTermId)) ∨
    ("" ∉ termIds ∧ User.agreeTerms userId [] termIds =
      .ok (termIds.map fun id => (⟨userId, id⟩ : UserTerm))) := by
  by_cases hempty : "" ∈ newTerms [] termIds
  · have hmem := hempty
    rw [newTerms_nil] at hmem
    exact Or.inl ⟨hmem, User.agreeTerms_error hempty userId⟩
  · have hok := User.agreeTerms_ok hempty userId
    rw [newTerms_nil] at hempty hok
    exact Or.inr ⟨hempty, hok⟩

theorem agreeTerms_all {userId : Nat} {termIds : List String} {terms : List UserTerm}
    (h : User.agreeTerms userId [] termIds = .ok terms) :
    terms = termIds.map fun id => (⟨userId, id⟩ : UserTerm) := by
  rcases agreeTerms_cases userId termIds with ⟨-, herror⟩ | ⟨-, hok⟩
  · rw [herror] at h
    cases h
  · rw [hok] at h
    exact (Except.ok.inj h).symm

/-- A sign-up that agrees to all required terms. -/
theorem KeepsTerms.signUp {terms : List UserTerm} {user : User} (hsigned : SignedUp db db1 user)
    (hagreed : User.agreeTerms user.id [] (requiredTermIds db) = .ok terms)
    {db2 : Db} (huserTerms : db2.userTerms = db.userTerms) (hterms : db2.terms = db.terms)
    (hins : insertUserTerms db2 terms = .ok db1) : KeepsTerms db db1 := by
  obtain ⟨-, hterms1, hexist, hrows⟩ := insertUserTerms_rows hins
  have hpushed := agreeTerms_all hagreed
  have hsame : db1.terms = db.terms := hterms1.trans hterms
  rw [huserTerms] at hrows
  rw [hterms] at hexist
  refine ⟨hsame, fun row hrow => ?_, fun howned row hrow => ?_, fun u hu => ?_⟩
  · rw [hrows] at hrow
    rcases List.mem_append.1 hrow with hrow | hrow
    · exact Or.inl hrow
    · exact Or.inr (hexist row hrow)
  · rw [hrows, hpushed] at hrow
    rw [hsigned.users]
    rcases List.mem_append.1 hrow with hrow | hrow
    · exact isSome_find?_saveUser (howned row hrow)
    · obtain ⟨id, -, rfl⟩ := List.mem_map.1 hrow
      rw [Table.find?_save_self]
      rfl
  · by_cases hid : user.id = u
    · subst hid
      refine Or.inr (missing_eq_nil_iff.2 fun id hreq => ?_)
      rw [requiredTermIds_congr hsame] at hreq
      refine mem_agreedTerms.2 ⟨⟨user.id, id⟩, ?_, rfl, rfl⟩
      rw [hrows, hpushed]
      exact List.mem_append_right _ (List.mem_map_of_mem hreq)
    · rw [hsigned.users, Table.find?_save_of_ne _ hid] at hu
      refine Or.inl ⟨hu, ?_⟩
      unfold agreedTerms
      rw [hrows, hpushed, List.filter_append, List.filter_map]
      simp [Function.comp_def, hid]

theorem createLocalUser_keepsTerms {dto : CreateLocalUserDto} {env : SignUpEnv} {user : User}
    (h : createLocalUser db dto (requiredTermIds db) env = .ok (db1, user)) : KeepsTerms db db1 := by
  have hsigned := (createLocalUser_ok h).1
  unfold createLocalUser at h
  obtain ⟨nickname, -, h⟩ := bind_eq_ok.1 h
  obtain ⟨terms, hterms, h⟩ := bind_eq_ok.1 h
  obtain ⟨d1, h1, h⟩ := bind_eq_ok.1 h
  obtain ⟨d2, h2, h⟩ := bind_eq_ok.1 h
  obtain ⟨d3, h3, h⟩ := bind_eq_ok.1 h
  cases h
  obtain rfl := insertUser_eq h1
  obtain rfl := insertLocalAuth_ok h2
  refine .signUp hsigned hterms ?_ ?_ h3 <;> rfl

theorem createSocialUser_keepsTerms {email sub provider providerEmail : String} {isPrimary : Bool}
    {env : SignUpEnv} {user : User}
    (h : createSocialUser db email sub provider providerEmail isPrimary (requiredTermIds db) env =
      .ok (db1, user)) : KeepsTerms db db1 := by
  have hsigned := createSocialUser_ok h
  unfold createSocialUser at h
  obtain ⟨nickname, -, h⟩ := bind_eq_ok.1 h
  obtain ⟨auth, -, h⟩ := bind_eq_ok.1 h
  obtain ⟨terms, hterms, h⟩ := bind_eq_ok.1 h
  obtain ⟨d1, h1, h⟩ := bind_eq_ok.1 h
  obtain ⟨d2, h2, h⟩ := bind_eq_ok.1 h
  obtain ⟨d3, h3, h⟩ := bind_eq_ok.1 h
  cases h
  obtain rfl := insertUser_eq h1
  obtain ⟨-, rfl⟩ := insertSocialAuth_ok h2
  refine .signUp hsigned hterms ?_ ?_ h3 <;> rfl

theorem KeepsTerms.inserted (h : KeepsTerms db db1) {k : RankKey}
    (hins : insertRankIfAbsent db1 k = .ok db') : KeepsTerms db db' := by
  obtain ⟨rows, hw, -⟩ := insertRankIfAbsent_ok hins
  exact h.rankWrites hw

theorem Saves.keepsTerms (h : Saves db db') : KeepsTerms db db' := by
  cases h with
  | nothing => exact .refl db
  | registrations registeredGames ranks hrows => exact .of_same rfl rfl fun _ => rfl
  | profile user ranks hfind hid hemail =>
    exact .of_same rfl rfl (saveUser_credentials hfind hid).users

theorem commit_keepsTerms (db : Db) (op : Op) : KeepsTerms db (db.commit op) := by
  have h := commit_cases db op
  generalize db.commit op = db' at h
  cases h with
  | saved h => exact h.keepsTerms
  | localSignUp hcreate hins => exact (createLocalUser_keepsTerms hcreate).inserted hins
  | socialSignUp hcreate hins => exact (createSocialUser_keepsTerms hcreate).inserted hins
  | deleted => exact .removeUser _

end

theorem nextAccount_keepsTerms (extractKeyFromUrl : String → Option String) (w : World)
    (e : AccountEvent) : KeepsTerms w.db (w.nextAccount extractKeyFromUrl e).db := by
  rcases nextAccount_cases extractKeyFromUrl w e with ⟨e, rfl⟩ | ⟨localAuths, socialAuths, hnext⟩
  · cases e with
    | request op =>
      show KeepsTerms w.db (w.step extractKeyFromUrl op).db
      rw [World.step_db]
      exact commit_keepsTerms w.db op
    | outcomes f => exact .of_same rfl rfl fun _ => rfl
    | newGame game =>
      show KeepsTerms w.db (w.db.insertGame game)
      rcases insertGame_cases w.db game with he | ⟨-, he⟩ <;> rw [he]
      · exact .refl w.db
      · exact .of_same rfl rfl fun _ => rfl
  · rw [hnext]
    exact .of_same rfl rfl fun _ => rfl

/-! ## The list in Redis -/

/-- The ids of the list in Redis. -/
def TermRun.listedIds (s : TermRun) : List String :=
  s.store.cachedTermList.required ++ s.store.cachedTermList.optional

/-- What the terms table promises: agreed and listed terms exist. -/
structure TermInv (s : TermRun) : Prop where
  agreed : ∀ row ∈ s.world.db.userTerms.rows, (s.world.db.terms.find? row.termId).isSome
  listed : ∀ id ∈ s.listedIds, (s.world.db.terms.find? id).isSome

section

variable {s : TermRun}

theorem mem_tableIds {terms : Table Term.id} {id : String} :
    id ∈ (toTermList terms.rows).required ++ (toTermList terms.rows).optional ↔
      (terms.find? id).isSome := by
  rw [Option.isSome_iff_exists, List.mem_append]
  simp only [toTermList, List.mem_map, List.mem_filter, Bool.not_eq_true', Table.find?_eq_some]
  constructor
  · rintro (⟨term, ⟨hterm, -⟩, hid⟩ | ⟨term, ⟨hterm, -⟩, hid⟩) <;> exact ⟨term, hterm, hid⟩
  · rintro ⟨term, hterm, hid⟩
    cases hreq : term.isRequired with
    | true => exact Or.inl ⟨term, ⟨hterm, hreq⟩, hid⟩
    | false => exact Or.inr ⟨term, ⟨hterm, hreq⟩, hid⟩

/-- An empty list is read from the table again. -/
theorem getTermList_cases (s : TermRun) :
    (s.listedIds ≠ [] ∧ s.store.getTermList = (s.store, s.store.cachedTermList)) ∨
      (s.listedIds = [] ∧ s.store.getTermList =
        ({ s.store with cached := some (toTermList s.world.db.terms.rows) },
          toTermList s.world.db.terms.rows)) := by
  by_cases h : 0 < s.store.cachedTermList.required.length ∨ 0 < s.store.cachedTermList.optional.length
  · refine Or.inl ⟨fun hnil => ?_, if_pos h⟩
    obtain ⟨hrequired, hoptional⟩ := List.append_eq_nil_iff.1 hnil
    simp [hrequired, hoptional] at h
  · refine Or.inr ⟨List.append_eq_nil_iff.2 ⟨?_, ?_⟩, if_neg h⟩
    · exact List.length_eq_zero_iff.1 (by omega)
    · exact List.length_eq_zero_iff.1 (by omega)

/-- An id is taken for valid when it is listed, or there is no list and it exists. -/
theorem mem_validIds {id : String} : id ∈ s.store.validIds ↔
    id ∈ s.listedIds ∨ (s.listedIds = [] ∧ (s.world.db.terms.find? id).isSome) := by
  unfold TermStore.validIds
  rcases getTermList_cases s with ⟨hne, hlist⟩ | ⟨hnil, hlist⟩
  · rw [hlist]
    exact ⟨Or.inl, fun h => h.resolve_right fun h => hne h.1⟩
  · rw [hlist, hnil]
    dsimp only
    rw [mem_tableIds]
    simp

/-- The list after it was read. -/
theorem listedIds_getTermList (db : Db) (id : String) :
    id ∈ (s.withStore { s.store.getTermList.1 with db }).listedIds ↔ id ∈ s.store.validIds := by
  rw [mem_validIds]
  rcases getTermList_cases s with ⟨hne, hlist⟩ | ⟨hnil, hlist⟩
  · rw [hlist]
    exact ⟨Or.inl, fun h => h.resolve_right fun h => hne h.1⟩
  · rw [hlist, hnil]
    show id ∈ (toTermList s.world.db.terms.rows).required ++
      (toTermList s.world.db.terms.rows).optional ↔ _
    rw [mem_tableIds]
    simp

end

/-! ## One event -/

/-- A user has agreed to more terms. -/
structure AgreesMore (db db' : Db) : Prop where
  terms : db'.terms = db.terms
  users : db'.users = db.users
  rows : ∀ row ∈ db'.userTerms.rows, row ∈ db.userTerms.rows ∨ (db.terms.find? row.termId).isSome
  agreed : ∀ u, ∀ id ∈ agreedTerms db u, id ∈ agreedTerms db' u

theorem AgreesMore.refl (db : Db) : AgreesMore db db := ⟨rfl, rfl, fun _ => Or.inl, fun _ _ => id⟩

theorem AgreesMore.missing {db db' : Db} (h : AgreesMore db db') {u : Nat} {id : String}
    (hid : id ∈ getNotAgreedRequiredTermIds db' u) : id ∈ getNotAgreedRequiredTermIds db u := by
  obtain ⟨hreq, hno⟩ := mem_missing.1 hid
  rw [requiredTermIds_congr h.terms] at hreq
  exact mem_missing.2 ⟨hreq, fun hagreed => hno (h.agreed u id hagreed)⟩

theorem agreeTerms_agreesMore {db db' : Db} {userId : Nat} {termIds : List String}
    (h : agreeTerms db userId termIds = .ok db') : AgreesMore db db' := by
  unfold agreeTerms at h
  obtain ⟨user, -, h⟩ := bind_eq_ok.1 h
  obtain ⟨terms, -, h⟩ := bind_eq_ok.1 h
  obtain ⟨husers, hterms, hexist, hrows⟩ := insertUserTerms_rows h
  refine ⟨hterms, husers, fun row hrow => ?_, fun u id hid => ?_⟩
  · rw [hrows] at hrow
    exact (List.mem_append.1 hrow).imp_right (hexist row)
  · obtain ⟨t, ht, hids⟩ := mem_agreedTerms.1 hid
    exact mem_agreedTerms.2 ⟨t, hrows ▸ List.mem_append_left _ ht, hids⟩

/-- Whatever the request answers, the list has been read. -/
theorem agreeTerm_next (s : TermRun) (userId : Nat) (termIds : List String) :
    ∃ db, AgreesMore s.world.db db ∧
      (s.agreeTerm userId termIds).1 = s.withStore { s.store.getTermList.1 with db } := by
  have hkept : s.withStore s.store.getTermList.1 =
      s.withStore { s.store.getTermList.1 with db := s.world.db } := by
    rcases getTermList_cases s with ⟨-, hlist⟩ | ⟨-, hlist⟩ <;> rw [hlist] <;> rfl
  unfold TermRun.agreeTerm
  by_cases hlisted : ∀ id ∈ termIds, id ∈ s.store.validIds
  · rw [agreeTerm_listed hlisted]
    cases hok : agreeTerms s.store.db userId termIds with
    | error e => exact ⟨s.world.db, .refl _, hkept⟩
    | ok db => exact ⟨db, agreeTerms_agreesMore hok, rfl⟩
  · rw [agreeTerm_unlisted hlisted]
    exact ⟨s.world.db, .refl _, hkept⟩

theorem insertTerm_cases (db : Db) (term : Term) :
    ((db.terms.find? term.id).isSome ∧ db.insertTerm term = db) ∨
      (db.terms.find? term.id = none ∧
        db.insertTerm term = { db with terms := db.terms.save term }) := by
  unfold Db.insertTerm
  cases hins : db.terms.insert? term with
  | none =>
    refine Or.inl ⟨?_, rfl⟩
    by_contra hnone
    unfold Table.insert? at hins
    rw [if_neg hnone] at hins
    cases hins
  | some terms =>
    obtain ⟨hfresh, rfl⟩ := Table.insert?_eq_some.1 hins
    exact Or.inr ⟨hfresh, rfl⟩

section

variable {db : Db} {term : Term}

/-- A new required term is missing for everyone. -/
theorem missing_newTerm (hfresh : db.terms.find? term.id = none) {u : Nat} {id : String} :
    id ∈ getNotAgreedRequiredTermIds { db with terms := db.terms.save term } u ↔
      id ∈ getNotAgreedRequiredTermIds db u ∨
        (term.isRequired = true ∧ id = term.id ∧ id ∉ agreedTerms db u) := by
  have hrequired : id ∈ requiredTermIds { db with terms := db.terms.save term } ↔
      id ∈ requiredTermIds db ∨ (term.isRequired = true ∧ id = term.id) := by
    unfold requiredTermIds
    dsimp only
    rw [Table.rows_save_of_fresh (Table.find?_eq_none.1 hfresh), List.filter_append, List.map_append,
      List.mem_append]
    refine or_congr_right ?_
    cases hreq : term.isRequired <;> simp [hreq]
  rw [mem_missing, mem_missing, hrequired]
  show _ ∧ id ∉ agreedTerms db u ↔ _
  rw [or_and_right, and_assoc]

end

section

variable (extractKeyFromUrl : String → Option String) {s : TermRun}

/-- A required term is inserted while there are no users, or while Redis has no list. -/
def KeepsFlow (s : TermRun) : TermEvent → Prop
  | .newTerm term => s.world.db.terms.find? term.id = none → term.isRequired = true →
      s.world.db.users.rows ≠ [] → term.id ≠ "" ∧ s.listedIds = []
  | _ => True

/-- The terms that exist stay when one is inserted. -/
theorem exists_saveTerm {terms : Table Term.id} {id : String} (hid : (terms.find? id).isSome)
    (term : Term) : ((terms.save term).find? id).isSome := by
  rw [Table.find?_save]
  split
  · rfl
  · exact hid

theorem TermInv.next (h : TermInv s) (e : TermEvent) : TermInv (s.next extractKeyFromUrl e) := by
  cases e with
  | event e =>
    have hkeeps := nextAccount_keepsTerms extractKeyFromUrl s.world e
    unfold TermRun.next
    refine ⟨fun row hrow => ?_, fun id hid => ?_⟩
    · dsimp only at hrow ⊢
      rw [hkeeps.terms]
      exact (hkeeps.rows row hrow).elim (h.agreed row) fun h => h
    · dsimp only
      rw [hkeeps.terms]
      exact h.listed id hid
  | agreeTerm userId termIds =>
    obtain ⟨db, hmore, he⟩ := agreeTerm_next s userId termIds
    show TermInv (s.agreeTerm userId termIds).1
    rw [he]
    refine ⟨fun row hrow => ?_, fun id hid => ?_⟩
    · show (db.terms.find? row.termId).isSome
      rw [hmore.terms]
      exact (hmore.rows row hrow).elim (h.agreed row) fun h => h
    · show (db.terms.find? id).isSome
      rw [hmore.terms]
      rcases mem_validIds.1 ((listedIds_getTermList db id).1 hid) with hid | ⟨-, hid⟩
      · exact h.listed id hid
      · exact hid
  | newTerm term =>
    unfold TermRun.next
    dsimp only
    rcases insertTerm_cases s.world.db term with ⟨-, he⟩ | ⟨-, he⟩
    · rw [he]
      exact h
    · rw [he]
      exact ⟨fun row hrow => exists_saveTerm (h.agreed row hrow) term,
        fun id hid => exists_saveTerm (h.listed id hid) term⟩
  | dropList => exact ⟨h.agreed, fun _ hid => absurd hid List.not_mem_nil⟩

/-- A request leaves a user of now what was missing, or nothing. -/
theorem CanAgree.event (hflow : CanAgree s) (e : AccountEvent) :
    CanAgree (s.next extractKeyFromUrl (.event e)) := by
  rw [canAgree_iff] at hflow ⊢
  have hkeeps := nextAccount_keepsTerms extractKeyFromUrl s.world e
  intro user huser id hid
  have hfound : ((s.next extractKeyFromUrl (.event e)).world.db.users.find? user.id).isSome := by
    rw [Table.find?_of_mem huser]
    rfl
  rcases hkeeps.users user.id hfound with ⟨hold, hagreed⟩ | hnil
  · obtain ⟨old, hold⟩ := Option.isSome_iff_exists.1 hold
    obtain ⟨hreq, hno⟩ := mem_missing.1 hid
    have hbefore : id ∈ getNotAgreedRequiredTermIds s.world.db old.id := by
      rw [Table.find?_key hold]
      exact mem_missing.2 ⟨requiredTermIds_congr hkeeps.terms ▸ hreq, hagreed ▸ hno⟩
    obtain ⟨hname, hvalid⟩ := hflow old (Table.mem_of_find? hold) id hbefore
    refine ⟨hname, mem_validIds.2 ?_⟩
    show _ ∨ (_ ∧ ((s.world.nextAccount extractKeyFromUrl e).db.terms.find? id).isSome)
    rw [hkeeps.terms]
    exact mem_validIds.1 hvalid
  · have hmem : id ∈ getNotAgreedRequiredTermIds
        (s.world.nextAccount extractKeyFromUrl e).db user.id := hid
    rw [hnil] at hmem
    cases hmem

/-- A user who agrees misses less, and the list has been read. -/
theorem CanAgree.agreeTerm (hflow : CanAgree s) (userId : Nat) (termIds : List String) :
    CanAgree (s.next extractKeyFromUrl (.agreeTerm userId termIds)) := by
  rw [canAgree_iff] at hflow ⊢
  obtain ⟨db, hmore, he⟩ := agreeTerm_next s userId termIds
  show ∀ user ∈ (s.agreeTerm userId termIds).1.world.db.users.rows, _
  unfold TermRun.next
  dsimp only
  rw [he]
  intro user huser id hid
  change user ∈ db.users.rows at huser
  rw [hmore.users] at huser
  obtain ⟨hname, hvalid⟩ := hflow user huser id (hmore.missing hid)
  exact ⟨hname, mem_validIds.2 (Or.inl ((listedIds_getTermList db id).2 hvalid))⟩

/-- A new required term must be listed with the next read, unless there is nobody to agree. -/
theorem canAgree_newTerm (h : TermInv s) (hflow : CanAgree s) {term : Term}
    (hfresh : s.world.db.terms.find? term.id = none) :
    CanAgree (s.withStore { s.store with db := { s.world.db with
        terms := s.world.db.terms.save term } }) ↔
      (term.isRequired = true → s.world.db.users.rows ≠ [] → term.id ≠ "" ∧ s.listedIds = []) := by
  rw [canAgree_iff] at hflow ⊢
  constructor
  · intro hafter hreq husers
    obtain ⟨user, huser⟩ := List.exists_mem_of_ne_nil _ husers
    -- nobody has agreed to a term that was not there
    have hno : term.id ∉ agreedTerms s.world.db user.id := by
      intro hagreed
      obtain ⟨row, hrow, hid, -⟩ := mem_agreedTerms.1 hagreed
      have hsome := h.agreed row hrow
      rw [hid, hfresh] at hsome
      cases hsome
    obtain ⟨hname, hvalid⟩ := hafter user huser term.id
      ((missing_newTerm hfresh).2 (Or.inr ⟨hreq, rfl, hno⟩))
    refine ⟨hname, ?_⟩
    rcases mem_validIds.1 hvalid with hlisted | ⟨hnil, -⟩
    · have hsome := h.listed term.id hlisted
      rw [hfresh] at hsome
      cases hsome
    · exact hnil
  · intro hkeep user huser id hid
    rcases (missing_newTerm hfresh).1 hid with hid | ⟨hreq, rfl, -⟩
    · obtain ⟨hname, hvalid⟩ := hflow user huser id hid
      exact ⟨hname, mem_validIds.2 ((mem_validIds.1 hvalid).imp_right
        fun hv => ⟨hv.1, exists_saveTerm hv.2 term⟩)⟩
    · obtain ⟨hname, hnil⟩ := hkeep hreq (List.ne_nil_of_mem huser)
      refine ⟨hname, mem_validIds.2 (Or.inr ⟨hnil, ?_⟩)⟩
      show ((s.world.db.terms.save term).find? term.id).isSome
      rw [Table.find?_save_self]
      rfl

/-- What one event does to the flow. -/
theorem next_canAgree_iff (h : TermInv s) (hflow : CanAgree s) (e : TermEvent) :
    CanAgree (s.next extractKeyFromUrl e) ↔ KeepsFlow s e := by
  cases e with
  | event e => exact iff_of_true (hflow.event extractKeyFromUrl e) trivial
  | agreeTerm userId termIds =>
    exact iff_of_true (hflow.agreeTerm extractKeyFromUrl userId termIds) trivial
  | newTerm term =>
    unfold TermRun.next
    dsimp only
    rcases insertTerm_cases s.world.db term with ⟨hold, he⟩ | ⟨hfresh, he⟩
    · rw [he]
      refine iff_of_true hflow fun hfresh => ?_
      rw [hfresh] at hold
      cases hold
    · rw [he]
      exact (canAgree_newTerm h hflow hfresh).trans ⟨fun hkeep _ => hkeep, fun hkeep => hkeep hfresh⟩
  | dropList =>
    rw [canAgree_iff] at hflow ⊢
    refine iff_of_true ?_ trivial
    intro user huser id hid
    exact ⟨(hflow user huser id hid).1, mem_validIds.2 (Or.inr ⟨rfl, missing_exists hid⟩)⟩

variable (teams : Table Team.id) (stadiums : Table Stadium.id) (games : Table GameRow.id)
  (terms : Table Term.id)

/-- No users yet, nothing in Redis. -/
def TermRun.start : TermRun := ⟨World.start teams stadiums games terms, none⟩

/-- **The flow.**  Every user can agree to what is missing after every event exactly when no
required term is inserted by hand while there are users and a list in Redis. -/
theorem term_flow_iff (history : List TermEvent) :
    Always (TermRun.next extractKeyFromUrl) CanAgree (TermRun.start teams stadiums games terms)
        history ↔
      Guarded (TermRun.next extractKeyFromUrl) KeepsFlow (TermRun.start teams stadiums games terms)
        history := by
  refine always_iff_guarded (I := TermInv) (fun _ e h => h.next extractKeyFromUrl e)
    (fun _ e h hflow => next_canAgree_iff extractKeyFromUrl h hflow e)
    ⟨fun _ hrow => absurd hrow List.not_mem_nil, fun _ hid => absurd hid List.not_mem_nil⟩ ?_ history
  rw [canAgree_iff]
  exact nofun

/-- The user exists, and has not agreed to the term. -/
def Misses (u : Nat) (id : String) (s : TermRun) : Prop :=
  (s.world.db.users.find? u).isSome ∧ id ∈ getNotAgreedRequiredTermIds s.world.db u

/-- Only an insert makes a user miss a term. -/
theorem next_misses {u : Nat} {id : String} (e : TermEvent) (hbefore : ¬ Misses u id s)
    (hafter : Misses u id (s.next extractKeyFromUrl e)) :
    (s.world.db.users.find? u).isSome ∧
      ∃ term, e = .newTerm term ∧ term.id = id ∧ term.isRequired = true := by
  obtain ⟨hu, hid⟩ := hafter
  cases e with
  | event e =>
    have hkeeps := nextAccount_keepsTerms extractKeyFromUrl s.world e
    change id ∈ getNotAgreedRequiredTermIds (s.world.nextAccount extractKeyFromUrl e).db u at hid
    rcases hkeeps.users u hu with ⟨hold, hagreed⟩ | hnil
    · obtain ⟨hreq, hno⟩ := mem_missing.1 hid
      rw [requiredTermIds_congr hkeeps.terms] at hreq
      exact absurd ⟨hold, mem_missing.2 ⟨hreq, hagreed ▸ hno⟩⟩ hbefore
    · rw [hnil] at hid
      cases hid
  | agreeTerm userId termIds =>
    obtain ⟨db, hmore, he⟩ := agreeTerm_next s userId termIds
    unfold TermRun.next at hu hid
    dsimp only at hu hid
    rw [he] at hu hid
    change (db.users.find? u).isSome at hu
    rw [hmore.users] at hu
    exact absurd ⟨hu, hmore.missing hid⟩ hbefore
  | newTerm term =>
    unfold TermRun.next at hu hid
    dsimp only at hu hid
    rcases insertTerm_cases s.world.db term with ⟨-, he⟩ | ⟨hfresh, he⟩
    · rw [he] at hu hid
      exact absurd ⟨hu, hid⟩ hbefore
    · rw [he] at hu hid
      rcases (missing_newTerm hfresh).1 hid with hid | ⟨hreq, rfl, -⟩
      · exact absurd ⟨hu, hid⟩ hbefore
      · exact ⟨hu, term, rfl, rfl, hreq⟩
  | dropList => exact absurd ⟨hu, hid⟩ hbefore

/-- **What is missing is new.**  A term that a user has not agreed to was inserted when the user
was there. -/
theorem missing_was_inserted (history : List TermEvent) {u : Nat} {id : String}
    (hu : ((run (TermRun.next extractKeyFromUrl) (TermRun.start teams stadiums games terms)
      history).world.db.users.find? u).isSome)
    (hid : id ∈ getNotAgreedRequiredTermIds (run (TermRun.next extractKeyFromUrl)
      (TermRun.start teams stadiums games terms) history).world.db u) :
    Occurs (fun before e =>
      ((run (TermRun.next extractKeyFromUrl) (TermRun.start teams stadiums games terms)
        before).world.db.users.find? u).isSome ∧
      ∃ term, e = .newTerm term ∧ term.id = id ∧ term.isRequired = true) history := by
  have hstart : ¬ Misses u id (TermRun.start teams stadiums games terms) := fun h => by
    cases h.1
  exact (occurs_of_run (P := Misses u id) hstart ⟨hu, hid⟩).imp fun before e h =>
    next_misses extractKeyFromUrl e h.1 h.2

end

/-- The terms have changed since the sign-up. -/
def newPrivacy : List TermEvent :=
  [.event (.event (.request
    (.registerLocalUser ⟨"fan@test", "pw", "", "fan", 1⟩ ⟨7, "hash", fun _ => 0⟩ 2025))),
   .agreeTerm 7 [],
   .newTerm ⟨"privacy-2", true⟩]

theorem missing_was_inserted_privacy :
    Occurs (fun before e =>
      ((run (TermRun.next some) (TermRun.start twoTeams .empty .empty .empty)
        before).world.db.users.find? 7).isSome ∧
      ∃ term, e = .newTerm term ∧ term.id = "privacy-2" ∧ term.isRequired = true) newPrivacy :=
  missing_was_inserted some twoTeams .empty .empty .empty newPrivacy (u := 7) (by decide +kernel)
    (by decide +kernel)

end VictoryFairy
