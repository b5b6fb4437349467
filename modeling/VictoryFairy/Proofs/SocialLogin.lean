import VictoryFairy.Model.Credentials
import VictoryFairy.Lib.Runs

/-!
# Logging in with a linked account

`findSocialUserOrValidate` looks the social account and the e-mail up in one query and
inspects the one row that comes back.  When another user has the e-mail, that row may be
the other user's, and the owner of the account is turned away.
-/

namespace VictoryFairy

open Runs

/-- The user has the social account. -/
def Owns (db : Db) (sub provider : String) (user : User) : Prop :=
  ∃ a ∈ db.socialAuths.rows, a.userId = user.id ∧ a.sub = sub ∧ a.provider = provider

/-- Whatever row the query returns, the owner is found, and the e-mail is only objected to
when nobody owns the account and somebody has the e-mail. -/
def FindsOwner (db : Db) (sub provider email : String) : Prop :=
  ∀ pick,
    (∀ user ∈ db.users.rows, Owns db sub provider user →
      findSocialUserOrValidate db sub provider email pick = .ok (some user)) ∧
    (findSocialUserOrValidate db sub provider email pick = .error (.account .emailAlreadyExists) →
      (∀ user ∈ db.users.rows, ¬ Owns db sub provider user) ∧
        ∃ user ∈ db.users.rows, user.email = email)

theorem owns_iff {db : Db} {sub provider : String} {user : User} :
    (db.socialAuths.rows.any fun a =>
      a.userId = user.id && a.sub = sub && a.provider = provider) = true ↔
      Owns db sub provider user := by
  simp [Owns, and_assoc]

/-- A social account has one owner. -/
theorem Owns.unique {db : Db} {sub provider : String} {user owner : User}
    (hu : user ∈ db.users.rows) (ho : owner ∈ db.users.rows) (h : Owns db sub provider user)
    (h' : Owns db sub provider owner) : user = owner := by
  obtain ⟨a, ha, hau, hasub, haprovider⟩ := h
  obtain ⟨b, hb, hbu, hbsub, hbprovider⟩ := h'
  have hkey : a.key = b.key := Prod.ext (hasub.trans hbsub.symm) (haprovider.trans hbprovider.symm)
  have hid : user.id = owner.id := by rw [← hau, ← hbu, Table.eq_of_key ha hb hkey]
  exact Table.eq_of_key hu ho hid

/-- What the answer says of the row that came back. -/
theorem findSocialUserOrValidate_cases (db : Db) (sub provider email : String) (pick : Nat) :
    (findSocialUserOrValidate db sub provider email pick = .ok none ∧
      ∀ user ∈ db.users.rows, ¬ Owns db sub provider user ∧ user.email ≠ email) ∨
    ∃ user ∈ db.users.rows,
      (findSocialUserOrValidate db sub provider email pick = .ok (some user) ∧
        Owns db sub provider user) ∨
      (findSocialUserOrValidate db sub provider email pick =
          .error (.account .emailAlreadyExists) ∧
        ¬ Owns db sub provider user ∧ user.email = email) := by
  unfold findSocialUserOrValidate
  dsimp only
  split
  · next hnone =>
    refine Or.inl ⟨rfl, fun user hu => ?_⟩
    have hmiss := Table.findAny_eq_none.1 hnone user hu
    rw [Bool.or_eq_false_iff] at hmiss
    refine ⟨fun ho => ?_, of_decide_eq_false hmiss.2⟩
    rw [owns_iff.2 ho] at hmiss
    cases hmiss.1
  · next user hsome =>
    obtain ⟨hu, hhit⟩ := Table.findAny_eq_some hsome
    refine Or.inr ⟨user, hu, ?_⟩
    split
    · next ho => exact Or.inl ⟨rfl, owns_iff.1 ho⟩
    · next ho =>
      refine Or.inr ⟨rfl, fun h => ho (owns_iff.2 h), ?_⟩
      rcases Bool.or_eq_true_iff.1 hhit with h | h
      · exact absurd h ho
      · exact of_decide_eq_true h

/-- The query may return any user with the e-mail. -/
theorem findSocialUserOrValidate_other {db : Db} {sub provider email : String} {user : User}
    (hu : user ∈ db.users.rows) (hemail : user.email = email) (ho : ¬ Owns db sub provider user) :
    ∃ pick, findSocialUserOrValidate db sub provider email pick =
      .error (.account .emailAlreadyExists) := by
  obtain ⟨pick, hpick⟩ := Table.exists_findAny (t := db.users) hu
    (p := fun u => (db.socialAuths.rows.any fun a =>
      a.userId = u.id && a.sub = sub && a.provider = provider) || u.email = email)
    (by simp [hemail])
  refine ⟨pick, ?_⟩
  unfold findSocialUserOrValidate
  dsimp only
  rw [hpick]
  exact if_neg fun h => ho (owns_iff.1 h)

/-- **Linked accounts log in.**  The owner of a social account is found whatever row the
query returns exactly when no other user has the e-mail. -/
theorem findsOwner_iff (db : Db) (sub provider email : String) :
    FindsOwner db sub provider email ↔
      ∀ owner ∈ db.users.rows, Owns db sub provider owner →
        ∀ user ∈ db.users.rows, user.email = email → user = owner := by
  constructor
  · intro h owner howner hown user hu hemail
    by_contra hne
    have hother : ¬ Owns db sub provider user := fun ho => hne (ho.unique hu howner hown)
    obtain ⟨pick, hrejected⟩ := findSocialUserOrValidate_other hu hemail hother
    rw [(h pick).1 owner howner hown] at hrejected
    cases hrejected
  · intro h pick
    rcases findSocialUserOrValidate_cases db sub provider email pick with
      ⟨hnew, hnone⟩ | ⟨found, hfound, ⟨hok, hown⟩ | ⟨hrejected, hother, hemail⟩⟩
    · refine ⟨fun user hu ho => absurd ho (hnone user hu).1, fun he => ?_⟩
      rw [hnew] at he
      cases he
    · refine ⟨fun user hu ho => ?_, fun he => ?_⟩
      · rw [hok, ho.unique hu hfound hown]
      · rw [hok] at he
        cases he
    · have hnobody : ∀ user ∈ db.users.rows, ¬ Owns db sub provider user := by
        intro user hu ho
        exact hother (h user hu ho found hfound hemail ▸ ho)
      exact ⟨fun user hu ho => absurd ho (hnobody user hu),
        fun _ => ⟨hnobody, found, hfound, hemail⟩⟩

/-- Two fans sign up, and the second links a social account with the first one's e-mail. -/
def linkedFan : List AccountEvent :=
  [.event (.request (.registerLocalUser ⟨"fan@test", "pw", "", "fan", 1⟩ ⟨1, "h1", fun _ => 0⟩ 2025)),
   .event (.request (.registerLocalUser ⟨"fairy@test", "pw", "", "fairy", 1⟩ ⟨2, "h2", fun _ => 0⟩ 2025)),
   .linkSocial 2 "sub" "google" "fan@test"]

/-- The second fan is turned away when the query returns the first one. -/
theorem linkedFan_turned_away :
    ¬ FindsOwner (run (World.nextAccount fun _ => none) (World.start twoTeams .empty .empty .empty)
      linkedFan).db "sub" "google" "fan@test" := by
  intro h
  have hfound := (h 0).1 ⟨2, DEFAULT_PROFILE_IMAGE, "fairy", "fairy@test", 1⟩ (by decide)
    ⟨⟨"google", "sub", 2, "fan@test", false⟩, by decide, rfl, rfl, rfl⟩
  revert hfound
  decide

end VictoryFairy
