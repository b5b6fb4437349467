import VictoryFairy.Model.Database

/-!
# `MovePwToLocalAuth`

The migration that moved the passwords from `user` to `local_auth`, and its way back.  A
script is the sequence of its statements; the other tables are not touched.
-/

namespace VictoryFairy

/-- The database while `user` has the column `password`, which is read by the row's id. -/
structure PasswordDb where
  db : Db
  password : Nat → Option String

namespace MovePwToLocalAuth

/-- `ADD COLUMN "password" character varying` -/
def addPassword (db : Db) : PasswordDb := { db, password := fun _ => none }

/-- `UPDATE "user" SET "password" = local_auth.password FROM local_auth WHERE …` -/
def restorePasswords (t : PasswordDb) : PasswordDb :=
  { t with
    password := fun id =>
      match t.db.localAuths.find? id with
      | none => t.password id
      | some a => some a.password }

/-- `DELETE FROM local_auth WHERE user_id IN (SELECT id FROM "user")` -/
def deleteLocalAuths (t : PasswordDb) : PasswordDb :=
  { t with
    db := { t.db with
      localAuths := t.db.localAuths.reject fun a => (t.db.users.find? a.userId).isSome } }

def down (db : Db) : PasswordDb := deleteLocalAuths (restorePasswords (addPassword db))

/-- One row of `INSERT INTO local_auth … ON CONFLICT (user_id) DO UPDATE`. -/
def insertPassword (password : Nat → Option String) (localAuths : Table LocalAuth.userId)
    (user : User) : Except AppError (Table LocalAuth.userId) :=
  match password user.id with
  | none => .error (.db .notNullViolation)
  | some password => .ok (localAuths.save { userId := user.id, password })

/-- The `INSERT … SELECT id, password FROM "user"`, and then `DROP COLUMN "password"`. -/
def up (t : PasswordDb) : Except AppError Db := do
  let localAuths ← t.db.users.rows.foldlM (insertPassword t.password) t.db.localAuths
  return { t.db with localAuths }

end MovePwToLocalAuth

end VictoryFairy
