import VictoryFairy.Model.CoreServices

/-!
# Agreeing to terms

A user agrees to terms by their ids.  The ids that exist are read from the list Redis keeps
under one key, and from the table when there is none.  `AccountCoreService.agreeTerms` then
saves the user with the terms pushed by the entity, in one transaction.
-/

namespace VictoryFairy

/-- `CachedTermList`, by the ids. -/
structure CachedTermList where
  required : List String
  optional : List String
deriving DecidableEq, Repr

/-- The database, and the value of the key `term`. -/
structure TermStore where
  db : Db
  cached : Option CachedTermList

/-- Each term goes to one of the two lists. -/
def toTermList (terms : List Term) : CachedTermList where
  required := (terms.filter fun term => term.isRequired).map Term.id
  optional := (terms.filter fun term => !term.isRequired).map Term.id

namespace TermStore

/-- `TermRedisService.getTermList` -/
def cachedTermList (s : TermStore) : CachedTermList := s.cached.getD ⟨[], []⟩

/-- `TermCoreService.getTermList`: the list read from the table is kept. -/
def getTermList (s : TermStore) : TermStore × CachedTermList :=
  if 0 < s.cachedTermList.required.length ∨ 0 < s.cachedTermList.optional.length then
    (s, s.cachedTermList)
  else
    let termList := toTermList s.db.terms.rows
    ({ s with cached := some termList }, termList)

end TermStore

/-- The `term_id`s of the `user_terms` that are loaded with the user. -/
def agreedTerms (db : Db) (userId : Nat) : List String :=
  (db.userTerms.rows.filter fun t => t.userId = userId).map UserTerm.termId

/-- `AccountCoreService.agreeTerms` -/
def agreeTerms (db : Db) (userId : Nat) (termIds : List String) : Except AppError Db := do
  let user ← loadUser db userId
  let userTerms ← User.agreeTerms user.id (agreedTerms db userId) termIds
  insertUserTerms db userTerms

/-- `AccountApplicationCommandService.agreeTerm` -/
def TermStore.agreeTerm (s : TermStore) (userId : Nat) (termIds : List String) :
    TermStore × Except AppError Unit :=
  let (s, termList) := s.getTermList
  let allTermIds := termList.required ++ termList.optional
  let validTermIds := termIds.filter fun id => allTermIds.contains id
  if validTermIds.length ≠ termIds.length then (s, .error (.http 400 "유효하지 않은 약관 아이디"))
  else
    match agreeTerms s.db userId validTermIds with
    | .error e => (s, .error e)
    | .ok db => ({ s with db }, .ok ())

end VictoryFairy
