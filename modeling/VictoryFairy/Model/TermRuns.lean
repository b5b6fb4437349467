import VictoryFairy.Model.Credentials
import VictoryFairy.Model.Terms

/-!
# The required terms of a user

`checkRefreshToken` returns the required terms a user has not agreed to, and the client
posts what the user then agrees to.  The first reads the table, the second the list that Redis
keeps without an expiry.  No request inserts a term: the rows are written by hand.
-/

namespace VictoryFairy

/-- The required terms without a row of the user in the `LEFT JOIN`. -/
def getNotAgreedRequiredTermIds (db : Db) (userId : Nat) : List String :=
  (db.terms.rows.filter fun term => term.isRequired &&
    !db.userTerms.rows.any fun t => t.termId = term.id && t.userId = userId).map Term.id

def Db.insertTerm (db : Db) (term : Term) : Db :=
  match db.terms.insert? term with
  | none => db
  | some terms => { db with terms }

/-- The stores, and the value of the key `term`. -/
structure TermRun where
  world : World
  cached : Option CachedTermList

inductive TermEvent where
  | event (e : AccountEvent)
  | agreeTerm (userId : Nat) (termIds : List String)
  | newTerm (term : Term)
  /-- the key `term` is deleted from Redis -/
  | dropList

namespace TermRun

def store (s : TermRun) : TermStore := ⟨s.world.db, s.cached⟩

def withStore (s : TermRun) (store : TermStore) : TermRun :=
  { world := { s.world with db := store.db }, cached := store.cached }

def agreeTerm (s : TermRun) (userId : Nat) (termIds : List String) :
    TermRun × Except AppError Unit :=
  let (store, result) := s.store.agreeTerm userId termIds
  (s.withStore store, result)

def next (extractKeyFromUrl : String → Option String) (s : TermRun) : TermEvent → TermRun
  | .event e => { s with world := s.world.nextAccount extractKeyFromUrl e }
  | .agreeTerm userId termIds => (s.agreeTerm userId termIds).1
  | .newTerm term => { s with world := { s.world with db := s.world.db.insertTerm term } }
  | .dropList => { s with cached := none }

end TermRun

end VictoryFairy
