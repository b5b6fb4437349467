import VictoryFairy.Model.Migrations
import VictoryFairy.Proofs.Credentials

/-!
# Reverting and applying `MovePwToLocalAuth`

The way back writes the passwords into a column that may be null, and the way forward inserts
that column into one that may not.  A user without a password, who has signed up with a
social account, cannot be moved again.

    down_password       : the column after the way back
    up_down             : with a password for everybody, both ways
    reapplies_iff       : and only then
-/

namespace VictoryFairy

open Runs

namespace MovePwToLocalAuth

/-- The way back and then the way forward succeed and leave the users and the passwords. -/
def Reapplies (db : Db) : Prop :=
  ∃ db', up (down db) = .ok db' ∧ db'.users = db.users ∧
    ∀ id, db'.localAuths.find? id = db.localAuths.find? id

theorem down_password (db : Db) (id : Nat) :
    (down db).password id = (db.localAuths.find? id).map LocalAuth.password := by
  simp only [down, deleteLocalAuths, restorePasswords, addPassword]
  cases db.localAuths.find? id with
  | none => rfl
  | some a => rfl

/-- All passwords belong to users, so the way back leaves none in `local_auth`. -/
theorem down_localAuths {db : Db} (h : CredentialInv db) (id : Nat) :
    (down db).db.localAuths.find? id = none := by
  refine Table.find?_eq_none.2 fun a ha => ?_
  obtain ⟨hmem, hkept⟩ := Table.mem_reject.1 ha
  have hnouser : (db.users.find? a.userId).isSome = false := hkept
  rw [h.localUser a hmem] at hnouser
  cases hnouser

/-- The row of `local_auth` a user comes back with. -/
def movedRow (db : Db) (user : User) : LocalAuth :=
  { userId := user.id, password := ((down db).password user.id).getD "" }

theorem find?_movedRow {db : Db} {user : User} (h : db.hasLocal user.id = true) :
    db.localAuths.find? user.id = some (movedRow db user) := by
  obtain ⟨a, ha⟩ := Option.isSome_iff_exists.1 h
  have hid : a.userId = user.id := Table.find?_key ha
  unfold movedRow
  rw [down_password, ha, ← hid]
  rfl

/-- With a password for everybody the way forward brings all of them back. -/
theorem up_down {db : Db} (h : CredentialInv db)
    (hlocal : ∀ user ∈ db.users.rows, db.hasLocal user.id = true) : Reapplies db := by
  have hstep : ∀ user ∈ db.users.rows, ∀ t, insertPassword (down db).password t user =
      .ok (t.save (movedRow db user)) := by
    intro user hu t
    obtain ⟨a, ha⟩ := Option.isSome_iff_exists.1 (hlocal user hu)
    unfold insertPassword movedRow
    rw [down_password, ha]
    rfl
  have hrows : db.users.rows.foldlM (insertPassword (down db).password) (down db).db.localAuths =
      .ok ((down db).db.localAuths.saveAll (db.users.rows.map (movedRow db))) := by
    rw [foldlM_ok hstep, Table.saveAll, List.foldl_map]
  refine ⟨{ (down db).db with
      localAuths := (down db).db.localAuths.saveAll (db.users.rows.map (movedRow db)) }, ?_, rfl, ?_⟩
  · unfold up
    show (db.users.rows.foldlM _ _ >>= _) = _
    rw [hrows]
    rfl
  intro id
  show ((down db).db.localAuths.saveAll (db.users.rows.map (movedRow db))).find? id = _
  by_cases hid : ∃ a ∈ db.users.rows.map (movedRow db), a.userId = id
  · -- the rows that come back are the ones that were there
    have hsame : db.localAuths.saveAll (db.users.rows.map (movedRow db)) = db.localAuths := by
      refine Table.saveAll_of_find? fun a ha => ?_
      obtain ⟨user, hu, rfl⟩ := List.mem_map.1 ha
      exact find?_movedRow (hlocal user hu)
    rw [Table.find?_saveAll_of_mem _ db.localAuths _ hid, hsame]
  · rw [Table.find?_saveAll_of_notMem _ _ fun a ha he => hid ⟨a, ha, he⟩, down_localAuths h]
    refine (Table.find?_eq_none.2 fun a ha he => hid ?_).symm
    obtain ⟨user, hu⟩ := Option.isSome_iff_exists.1 (h.localUser a ha)
    exact ⟨movedRow db user, List.mem_map_of_mem (Table.mem_of_find? hu),
      (Table.find?_key hu).trans he⟩

/-- A user without a password stops the way forward. -/
theorem hasLocal_of_up {db db' : Db} (h : up (down db) = .ok db') {user : User}
    (hu : user ∈ db.users.rows) : db.hasLocal user.id = true := by
  unfold up at h
  obtain ⟨localAuths, hrows, -⟩ := bind_eq_ok.1 h
  obtain ⟨t, t', hok⟩ := ok_of_foldlM hrows hu
  unfold insertPassword at hok
  rw [down_password] at hok
  unfold Db.hasLocal
  cases hfind : db.localAuths.find? user.id with
  | none =>
    rw [hfind] at hok
    cases hok
  | some a => rfl

/-- **The migration can be re-applied.**  After every history of sign-ups and everything else
the accounts go through, reverting the migration and applying it again succeeds and leaves
users and passwords as they were exactly when every user has a password. -/
theorem reapplies_iff (extractKeyFromUrl : String → Option String) (teams : Table Team.id)
    (stadiums : Table Stadium.id) (games : Table GameRow.id) (terms : Table Term.id)
    (history : List AccountEvent) :
    Reapplies (run (World.nextAccount extractKeyFromUrl) (World.start teams stadiums games terms)
        history).db ↔
      ∀ user ∈ (run (World.nextAccount extractKeyFromUrl) (World.start teams stadiums games terms)
        history).db.users.rows,
        (run (World.nextAccount extractKeyFromUrl) (World.start teams stadiums games terms)
          history).db.hasLocal user.id = true := by
  have hstart : CredentialInv (World.start teams stadiums games terms).db := ⟨nofun, nofun, nofun⟩
  have hinv := (always_of_step (fun w e h => (nextAccount_credentials extractKeyFromUrl w e).inv h)
    hstart history).last
  constructor
  · rintro ⟨db', hup, -⟩ user hu
    exact hasLocal_of_up hup hu
  · exact up_down hinv

/-- A fan signs up with a social account. -/
def socialFan : List AccountEvent :=
  [.event (.request (.loginSocialUser "sub" "fan@test" "kakao" 0 ⟨1, "", fun _ => 0⟩ 2025))]

/-- The fan's password is null, and the migration cannot be applied again. -/
theorem reapplies_not_social :
    ¬ Reapplies (run (World.nextAccount fun _ => none) (World.start twoTeams .empty .empty .empty)
      socialFan).db := by
  rintro ⟨db', hup, -⟩
  have hfan : ⟨1, DEFAULT_PROFILE_IMAGE, "승리요정#0000", "fan@test", 1⟩ ∈
      (run (World.nextAccount fun _ => none) (World.start twoTeams .empty .empty .empty)
        socialFan).db.users.rows := by decide
  have hlocal := hasLocal_of_up hup hfan
  revert hlocal
  decide

end MovePwToLocalAuth

end VictoryFairy
