import VictoryFairy.Model.AccountSteps
import VictoryFairy.Proofs.Acceptance
import VictoryFairy.Proofs.Accounts

/-!
# Account commands that stop half-way

What a command leaves of an account when one of its calls rejects.  Without a fault the steps
are the commands of `World.step`; a rejection is followed through the calls by the rules of
`OnReject`.

    run_deleteUser, run_updateUserProfile : the steps without a fault
    deleteUser_iff, updateImage_iff, ...  : one command
    account_commands_iff                  : a rejected command leaves the account as it was
                                            exactly when no call fails after an effect
-/

namespace VictoryFairy

open Steps

namespace AccountSteps

/-! ## Without a fault -/

theorem except_bind_ok {ε α β : Type} (a : α) (f : α → Except ε β) : (Except.ok a >>= f) = f a := rfl

theorem run_updateFieldsOfUser (userId : Nat) (field value : String) (w : World) :
    run (updateFieldsOfUser none userId field value) w =
      match w.redis.updateFieldsOfUser userId field value with
      | .error e => (w, .error e)
      | .ok redis => ({ w with redis }, .ok ()) := by
  unfold Redis.updateFieldsOfUser updateFieldsOfUser
  rw [run_await_bind]
  dsimp only
  rw [run_check_bind]
  by_cases h : w.redis.userInfo userId = .empty
  · simp only [h, ne_eq, not_true_eq_false, decide_false, Bool.false_eq_true, if_false, if_true]
  · simp only [h, ne_eq, not_false_eq_true, decide_true, if_true, if_false]
    exact run_await _

theorem run_updateNickname (userId : Nat) (value : String) (w : World) :
    run (updateNickname none userId value) w = w.updateNickname userId value := by
  unfold updateNickname World.updateNickname findUser query statement
  rw [run_await_bind]
  dsimp only
  rw [run_check_bind]
  unfold updateUserProfileNickname
  cases w.db.users.rows.any fun u => u.nickname = value with
  | true => rfl
  | false =>
    simp only [Bool.false_eq_true, if_false]
    rw [run_await_bind]
    cases loadUser w.db userId with
    | error e => rfl
    | ok user =>
      dsimp only [Except.map]
      rw [run_check_bind, except_bind_ok]
      cases user.updateNickname value with
      | error e => rfl
      | ok changed =>
        dsimp only
        rw [run_await_bind, except_bind_ok]
        cases w.db.saveUser changed with
        | error e => rfl
        | ok db => exact run_updateFieldsOfUser userId "nickname" value _

/-- What the commands do with a previous image. -/
theorem deleteImage_eq (extractKeyFromUrl : String → Option String) (prevImage : Option String)
    (w : World) :
    (if (prevImage.getD "") ≠ "" then w.deleteImage extractKeyFromUrl prevImage else w) =
      match uploadName extractKeyFromUrl prevImage with
      | none => w
      | some key => { w with deletedImages := w.deletedImages ++ [key] } := by
  unfold World.deleteImage
  cases prevImage with
  | none => rfl
  | some url =>
    by_cases hurl : url = ""
    · subst hurl
      rfl
    · have hname : uploadName extractKeyFromUrl (some url) =
          (extractKeyFromUrl url).filter fun key => key ≠ "" := by
        simp [uploadName, Option.filter, hurl]
      rw [hname]
      cases hkey : extractKeyFromUrl url with
      | none => simp [hurl, hkey]
      | some key =>
        by_cases hempty : key = ""
        · simp [Option.filter, hurl, hkey, hempty]
        · simp [Option.filter, hurl, hkey, hempty]

theorem run_deleteImage (extractKeyFromUrl : String → Option String) (prevImage : Option String)
    (w : World) :
    run (deleteImage none extractKeyFromUrl prevImage) w =
      (if (prevImage.getD "") ≠ "" then w.deleteImage extractKeyFromUrl prevImage else w, .ok ()) := by
  rw [deleteImage_eq]
  unfold deleteImage
  cases uploadName extractKeyFromUrl prevImage with
  | none => rfl
  | some key => exact run_await _

theorem run_updateImage (extractKeyFromUrl : String → Option String) (userId : Nat) (value : String)
    (w : World) :
    run (updateImage none extractKeyFromUrl userId value) w =
      w.updateImage extractKeyFromUrl userId value := by
  unfold updateImage World.updateImage updateUserProfileImage findUser statement
  rw [run_await_bind]
  cases loadUser w.db userId with
  | error e => rfl
  | ok user =>
    dsimp only [Except.map]
    rw [run_check_bind, except_bind_ok]
    cases user.updateProfileImage value with
    | error e => rfl
    | ok changed =>
      dsimp only
      rw [run_await_bind, except_bind_ok]
      cases w.db.saveUser changed with
      | error e => rfl
      | ok db =>
        rw [except_bind_ok]
        dsimp only [pure, Except.pure]
        rw [run_bind, run_deleteImage]
        exact run_updateFieldsOfUser userId "profileImage" value _

theorem run_insertRankIfAbsent (k : RankKey) (w : World) :
    run (insertRankIfAbsent none k) w =
      match VictoryFairy.insertRankIfAbsent w.db k with
      | .error e => (w, .error e)
      | .ok db => ({ w with db }, .ok ()) := by
  unfold insertRankIfAbsent VictoryFairy.insertRankIfAbsent query statement
  rw [run_await_bind]
  dsimp only
  cases w.db.ranks.find? k with
  | some row => rfl
  | none =>
    dsimp only
    rw [run_check_bind]
    cases Rank.create k with
    | error e => rfl
    | ok row =>
      dsimp only
      rw [run_await, except_bind_ok]
      cases w.db.saveRank row <;> rfl

theorem run_deleteRank (teamId userId pick : Nat) (w : World) :
    run (deleteRank none teamId userId pick) w =
      ({ w with db := VictoryFairy.deleteRank w.db teamId userId none pick }, .ok ()) := by
  have hall : (fun r : Rank => decide (r.user = userId) && decide (r.teamId = teamId) &&
      (orNull none).all fun y => decide (r.activeYear = y)) =
        fun r => decide (r.user = userId) && decide (r.teamId = teamId) := by
    funext r
    exact Bool.and_true _
  unfold deleteRank VictoryFairy.deleteRank query command
  rw [run_await_bind, hall]
  dsimp only
  cases w.db.ranks.findAny (fun r => decide (r.user = userId) && decide (r.teamId = teamId)) pick with
  | none => rfl
  | some row => exact run_await _

theorem run_aggregate (userId : Nat) (w : World) :
    run (aggregate none userId) w =
      match aggregateRankStatsByUserId w.db userId with
      | none => (w, .error .typeError)
      | some data => (w, .ok data) := by
  unfold aggregate query
  rw [run_await_bind]
  dsimp only
  cases aggregateRankStatsByUserId w.db userId <;> rfl

theorem run_updateTeamId (userId value year pick : Nat) (w : World) :
    run (updateTeamId none userId value year pick) w = w.updateTeamId userId value year pick := by
  unfold updateTeamId World.updateTeamId updateUserProfileTeamId findUser statement
  rw [run_await_bind]
  cases loadUser w.db userId with
  | error e => rfl
  | ok user =>
    dsimp only [Except.map]
    rw [run_check_bind, except_bind_ok]
    cases user.updateTeam value with
    | error e => rfl
    | ok changed =>
      dsimp only
      rw [run_await_bind, except_bind_ok]
      cases w.db.saveUser changed with
      | error e => rfl
      | ok db =>
        rw [except_bind_ok]
        dsimp only [pure, Except.pure]
        rw [run_bind, run_insertRankIfAbsent]
        dsimp only
        cases VictoryFairy.insertRankIfAbsent db ⟨userId, value, year⟩ with
        | error e => rfl
        | ok db =>
          dsimp only
          rw [run_bind, run_aggregate]
          cases aggregateRankStatsByUserId db userId with
          | none => rfl
          | some data =>
            unfold refresh command
            dsimp only
            split
            · rw [run_bind, run_deleteRank]
              dsimp only
              rw [run_await_bind]
              exact run_await _
            · exact run_await _

theorem run_deleteUser (extractKeyFromUrl : String → Option String) (userId : Nat) (w : World) :
    run (deleteUser none extractKeyFromUrl userId) w =
      match w.deleteUser extractKeyFromUrl userId with
      | .error e => (w, .error e)
      | .ok t => (t, .ok ()) := by
  unfold deleteUser World.deleteUser deleteUserRow findUser query command
  rw [run_transaction, run_await_bind]
  dsimp only
  rw [run_await_bind]
  cases loadUser w.db userId with
  | error e => rfl
  | ok user =>
    dsimp only [Except.map]
    rw [except_bind_ok, run_await_bind]
    dsimp only [pure, Except.pure]
    rw [run_bind, run_deleteImage, except_bind_ok]
    dsimp only
    rw [deleteImage_eq, deleteImage_eq, run_await_bind]
    dsimp only
    rw [run_await_bind]
    dsimp only
    rw [run_await]
    unfold deletedImage
    cases uploadName extractKeyFromUrl
      (if user.profileImage ≠ DEFAULT_PROFILE_IMAGE then some user.profileImage else none) <;> rfl

/-- The steps without a fault are the command. -/
theorem run_updateUserProfile (extractKeyFromUrl : String → Option String) (userId : Nat)
    (input : ProfileInput) (year pick : Nat) (w : World) :
    run (updateUserProfile none extractKeyFromUrl userId input year pick) w =
      w.updateUserProfile extractKeyFromUrl userId input year pick := by
  cases input with
  | image value => exact run_updateImage extractKeyFromUrl userId value w
  | nickname value => exact run_updateNickname userId value w
  | teamId value => exact run_updateTeamId userId value year pick w

end AccountSteps

/-! ## Accounts -/

/-- The rows of a user. -/
structure AccountRows where
  user : Option User
  localAuth : Option LocalAuth
  socialAuths : List SocialAuth
  userTerms : List UserTerm
  registeredGames : List RegisteredGame
  ranks : List Rank
deriving DecidableEq, Repr

def Db.accountRows (db : Db) (userId : Nat) : AccountRows where
  user := db.users.find? userId
  localAuth := db.localAuths.find? userId
  socialAuths := db.socialAuths.rows.filter fun a => a.userId = userId
  userTerms := db.userTerms.rows.filter fun t => t.userId = userId
  registeredGames := db.registeredGames.rows.filter fun r => r.user = userId
  ranks := rowsOf db userId

/-- The user's rows, cached profile and ranking entries and the stored images are the same. -/
structure SameAccount (userId : Nat) (w t : World) : Prop where
  rows : t.db.accountRows userId = w.db.accountRows userId
  userInfo : t.redis.userInfo userId = w.redis.userInfo userId
  rankings : ∀ k, t.redis.zscore k userId = w.redis.zscore k userId
  images : ∀ key, key ∈ t.deletedImages ↔ key ∈ w.deletedImages

theorem SameAccount.refl (userId : Nat) (w : World) : SameAccount userId w w :=
  ⟨rfl, rfl, fun _ => rfl, fun _ => Iff.rfl⟩

inductive AccountCommand where
  | deleteUser (userId : Nat)
  | updateUserProfile (userId : Nat) (input : ProfileInput) (year pick : Nat)
deriving DecidableEq, Repr

namespace AccountCommand

def userId : AccountCommand → Nat
  | .deleteUser userId => userId
  | .updateUserProfile userId _ _ _ => userId

def steps (fault : Option AccountCall) (extractKeyFromUrl : String → Option String) :
    AccountCommand → AccountSteps.Method Unit
  | .deleteUser userId => AccountSteps.deleteUser fault extractKeyFromUrl userId
  | .updateUserProfile userId input year pick =>
    AccountSteps.updateUserProfile fault extractKeyFromUrl userId input year pick

end AccountCommand

/-- When the command rejects, the account is as it was. -/
def AllOrNothing (fault : Option AccountCall) (extractKeyFromUrl : String → Option String)
    (w : World) (c : AccountCommand) : Prop :=
  ∀ e t, c.steps fault extractKeyFromUrl w = .error e t → SameAccount c.userId w t

/-! ## Rules for the calls -/

namespace AccountSteps

section

variable {P : World → Prop} {fault : Option AccountCall} {name : AccountCall} {w : World}
  {α β : Type}

theorem onReject_query_bind {f : World → α} {k : α → Method β} :
    OnReject P (query fault name f >>= k) w ↔
      (fault = some name → P w) ∧ (fault ≠ some name → OnReject P (k (f w)) w) :=
  onReject_await_ok_bind

theorem onReject_command {f : World → World} :
    OnReject P (command fault name f) w ↔ (fault = some name → P w) :=
  onReject_await_ok

theorem onReject_command_bind {f : World → World} {k : Unit → Method β} :
    OnReject P (command fault name f >>= k) w ↔
      (fault = some name → P w) ∧ (fault ≠ some name → OnReject P (k ()) (f w)) :=
  onReject_await_ok_bind

theorem onReject_statement_bind {f : Db → Except AppError Db} {db : Db} {k : Unit → Method β}
    (h : f w.db = .ok db) :
    OnReject P (statement fault name f >>= k) w ↔
      (fault = some name → P w) ∧ (fault ≠ some name → OnReject P (k ()) { w with db }) := by
  unfold statement
  rw [onReject_await_bind, h]
  refine and_congr (by simp [Except.map]) (imp_congr_right fun _ => ?_)
  constructor
  · exact fun hk => hk () _ rfl
  · intro hk _ _ ht
    cases ht
    exact hk

theorem onReject_statement_error_bind {f : Db → Except AppError Db} {e : AppError}
    {k : Unit → Method β} (h : f w.db = .error e) :
    OnReject P (statement fault name f >>= k) w ↔ P w := by
  unfold statement
  rw [onReject_await_bind, h]
  simp [Except.map]

theorem onReject_deleteImage_bind {extractKeyFromUrl : String → Option String}
    {prevImage : Option String} {k : Unit → Method β} :
    OnReject P (deleteImage fault extractKeyFromUrl prevImage >>= k) w ↔
      ((uploadName extractKeyFromUrl prevImage).isSome → fault = some .deleteImage → P w) ∧
        (((uploadName extractKeyFromUrl prevImage).isSome → fault ≠ some .deleteImage) →
          OnReject P (k ()) { w with deletedImages := w.deletedImages ++
            (uploadName extractKeyFromUrl prevImage).toList }) := by
  unfold deleteImage
  cases uploadName extractKeyFromUrl prevImage with
  | none =>
    have hsame : { w with deletedImages := w.deletedImages ++ (none : Option String).toList } = w := by
      rw [Option.toList_none, List.append_nil]
    dsimp only
    rw [hsame, onReject_bind]
    simp only [onReject_pure, true_and, Option.isSome_none, Bool.false_eq_true, false_implies,
      true_implies]
    exact ⟨fun h => h () w rfl, fun h _ _ ht => by cases ht; exact h⟩
  | some key =>
    dsimp only
    rw [onReject_command_bind]
    simp only [Option.isSome_some, true_implies, Option.toList_some]

/-- The fields are written by the last call. -/
theorem onReject_updateFieldsOfUser {userId : Nat} {field value : String} :
    OnReject P (updateFieldsOfUser fault userId field value) w ↔
      (fault = some .existsUserInfo ∨ fault = some .setUserInfo ∨
        w.redis.userInfo userId = .empty → P w) := by
  unfold updateFieldsOfUser
  rw [onReject_await_ok_bind]
  dsimp only
  by_cases h : w.redis.userInfo userId = .empty
  · simp only [h, ne_eq, not_true_eq_false, decide_false, Bool.false_eq_true, if_false,
      onReject_check_error_bind]
    tauto
  · simp only [h, ne_eq, not_false_eq_true, decide_true, if_true, check_ok_bind, onReject_await_ok]
    tauto

/-- Nothing has happened when the user is not loaded. -/
theorem onReject_findUser_bind (hP : P w) {userId : Nat} {k : User → Method β} :
    OnReject P (findUser fault userId >>= k) w ↔
      (fault ≠ some .findUser → ∀ user, w.db.users.find? userId = some user →
        OnReject P (k user) w) := by
  unfold findUser loadUser
  rw [onReject_await_bind]
  cases w.db.users.find? userId with
  | none => simp [Except.map, hP]
  | some user => simp [Except.map, hP]

/-- The user is loaded, changed and saved. -/
structure Saved (fault : Option AccountCall) (w : World) (userId : Nat)
    (change : User → Except AppError User) (user changed : User) : Prop where
  found : w.db.users.find? userId = some user
  valid : change user = .ok changed
  saves : ∃ db, w.db.saveUser changed = .ok db
  unfaulted : fault ≠ some .findUser ∧ fault ≠ some .saveUser

/-- The stores after the save. -/
def savedWorld (w : World) (changed : User) : World :=
  { w with db := w.db.withUsers (w.db.users.save changed) }

/-- Nothing has happened when the user is not saved. -/
theorem onReject_saveChanged (hP : P w) {userId : Nat} {change : User → Except AppError User}
    {k : User → Method β} :
    OnReject P (do
      let user ← findUser fault userId
      let changed ← check (change user)
      statement fault .saveUser fun db => db.saveUser changed
      k user) w ↔
      ∀ user changed, Saved fault w userId change user changed →
        OnReject P (k user) (savedWorld w changed) := by
  rw [onReject_findUser_bind hP]
  constructor
  · rintro h user changed ⟨hfound, hchanged, ⟨db, hsaved⟩, hfind, hsave⟩
    have hk := h hfind user hfound
    rw [hchanged, check_ok_bind, onReject_statement_bind hsaved] at hk
    rw [savedWorld, ← (saveUser_ok hsaved).1]
    exact hk.2 hsave
  · intro h hfind user hfound
    cases hchanged : change user with
    | error e => exact onReject_check_error_bind.2 hP
    | ok changed =>
      rw [check_ok_bind]
      cases hsaved : w.db.saveUser changed with
      | error e => exact (onReject_statement_error_bind hsaved).2 hP
      | ok db =>
        refine (onReject_statement_bind hsaved).2 ⟨fun _ => hP, fun hsave => ?_⟩
        have hk := h user changed ⟨hfound, hchanged, ⟨db, hsaved⟩, hfind, hsave⟩
        rw [savedWorld, ← (saveUser_ok hsaved).1] at hk
        exact hk

theorem onReject_aggregate_bind {userId : Nat} {data : AggregatedRankStats}
    {k : AggregatedRankStats → Method β} (hdata : aggregateRankStatsByUserId w.db userId = some data) :
    OnReject P (aggregate fault userId >>= k) w ↔
      (fault = some .aggregateRanks → P w) ∧
        (fault ≠ some .aggregateRanks → OnReject P (k data) w) := by
  unfold aggregate
  rw [bind_assoc, onReject_query_bind, hdata]
  rfl

/-- The row `Rank.create` makes. -/
def newRank (k : RankKey) : Rank := ⟨k.user, k.teamId, k.activeYear, 0, 0, 0, 0⟩

theorem create_of_creatable {k : RankKey} (h : Creatable k) : Rank.create k = .ok (newRank k) := by
  obtain ⟨row, hrow⟩ := (Rank.create_iff k).2 h
  rw [hrow]
  unfold Rank.create at hrow
  obtain ⟨_, -, hrow⟩ := Runs.bind_eq_ok.1 hrow
  cases hrow
  rfl

theorem onReject_insertRank_found {key : RankKey} {k : Unit → Method β} {row : Rank}
    (hfound : w.db.ranks.find? key = some row) :
    OnReject P (insertRankIfAbsent fault key >>= k) w ↔
      (fault = some .findRank → P w) ∧ (fault ≠ some .findRank → OnReject P (k ()) w) := by
  unfold insertRankIfAbsent
  rw [bind_assoc, onReject_query_bind, hfound]
  rfl

/-- The stores after the row was made. -/
def insertedWorld (w : World) (key : RankKey) : World :=
  { w with db := w.db.withRanks (w.db.ranks.save (newRank key)) }

/-- The new row is the only effect. -/
theorem onReject_insertRank_new {key : RankKey} {k : Unit → Method β}
    (hnone : w.db.ranks.find? key = none) (huser : (w.db.users.find? key.user).isSome) :
    OnReject P (insertRankIfAbsent fault key >>= k) w ↔
      (fault = some .findRank ∨ ¬ Creatable key ∨ fault = some .saveRank → P w) ∧
        (fault ≠ some .findRank → Creatable key → fault ≠ some .saveRank →
          OnReject P (k ()) (insertedWorld w key)) := by
  unfold insertRankIfAbsent
  rw [bind_assoc, onReject_query_bind, hnone]
  dsimp only
  rw [bind_assoc]
  by_cases hc : Creatable key
  · have hsave : w.db.saveRank (newRank key) =
        .ok (w.db.withRanks (w.db.ranks.save (newRank key))) := by
      unfold Db.saveRank
      rw [if_neg (by simpa [newRank, Option.isSome_iff_ne_none] using huser)]
    rw [create_of_creatable hc, check_ok_bind, onReject_statement_bind hsave]
    unfold insertedWorld
    tauto
  · cases hcreate : Rank.create key with
    | error e =>
      rw [onReject_check_error_bind]
      tauto
    | ok row => exact absurd ((Rank.create_iff key).1 ⟨row, hcreate⟩) hc

end

/-! ## `deleteUser` -/

section

variable (fault : Option AccountCall) (extractKeyFromUrl : String → Option String)

/-- The object of the image is still in S3. -/
def Stored (w : World) (image : Option String) : Prop :=
  ∃ key, uploadName extractKeyFromUrl image = some key ∧ key ∉ w.deletedImages

/-- The rankings `deleteUser` removes a user from. -/
def Cleared (db : Db) (k : RankingKey) : Prop :=
  k = .total ∨ ∃ t ∈ (findAllTeams db).map Team.id, k = .team t

/-- No call of `deleteUser` fails after something of the account was deleted. -/
structure DeletesWhole (w : World) (userId : Nat) (user : User) : Prop where
  image : Stored extractKeyFromUrl w (deletedImage user) →
    fault ≠ some .deleteUserInfo ∧ fault ≠ some .deleteRankings ∧ fault ≠ some .commit
  userInfo : w.redis.userInfo userId ≠ .empty →
    fault ≠ some .deleteRankings ∧ fault ≠ some .commit
  rankings : (∃ k, Cleared w.db k ∧ w.redis.zscore k userId ≠ none) → fault ≠ some .commit

theorem images_append_iff (images : List String) (key : Option String) :
    (∀ k, k ∈ images ++ key.toList ↔ k ∈ images) ↔ ¬ ∃ k, key = some k ∧ k ∉ images := by
  cases key with
  | none => simp
  | some key => simp [List.mem_append, or_iff_left_iff_imp]

theorem zscore_cleared_iff (redis : Redis) (userId : Nat) (teamIds : List Nat) :
    (∀ k, (redis.deleteRankByUserId userId teamIds).zscore k userId = redis.zscore k userId) ↔
      ¬ ∃ k, (k = .total ∨ ∃ t ∈ teamIds, k = .team t) ∧ redis.zscore k userId ≠ none := by
  simp only [Redis.zscore_deleteRankByUserId, true_and, not_exists, not_and, not_not]
  refine forall_congr' fun k => ?_
  split
  · next h => exact ⟨fun he _ => he.symm, fun he => (he h).symm⟩
  · next h => exact ⟨fun _ hk => absurd hk h, fun _ => rfl⟩

theorem deleteUser_iff (w : World) (userId : Nat) :
    OnReject (SameAccount userId w) (deleteUser fault extractKeyFromUrl userId) w ↔
      ∀ user, w.db.users.find? userId = some user →
        DeletesWhole fault extractKeyFromUrl w userId user := by
  unfold deleteUser
  have hrolled : ∀ t : World, SameAccount userId w { t with db := w.db } ↔
      t.redis.userInfo userId = w.redis.userInfo userId ∧
        (∀ k, t.redis.zscore k userId = w.redis.zscore k userId) ∧
          ∀ key, key ∈ t.deletedImages ↔ key ∈ w.deletedImages := by
    intro t
    refine ⟨fun h => ⟨h.userInfo, h.rankings, h.images⟩, fun h => ?_⟩
    obtain ⟨hu, hr, hi⟩ := h
    exact ⟨rfl, hu, hr, hi⟩
  rw [onReject_transaction, onReject_query_bind,
    onReject_findUser_bind (P := fun t => SameAccount userId w { t with db := w.db }) (.refl userId w)]
  have hinfo : (w.redis.deleteUser userId).userInfo userId = .empty := Function.update_self ..
  have hcleared : (∀ k, ((w.redis.deleteUser userId).deleteRankByUserId userId
      ((findAllTeams w.db).map Team.id)).zscore k userId = w.redis.zscore k userId) ↔
        ¬ ∃ k, Cleared w.db k ∧ w.redis.zscore k userId ≠ none :=
    zscore_cleared_iff (w.redis.deleteUser userId) userId _
  have hzscore : ∀ k, (w.redis.deleteUser userId).zscore k userId = w.redis.zscore k userId :=
    fun _ => rfl
  simp only [onReject_command_bind, onReject_deleteImage_bind, onReject_await_ok_bind,
    onReject_command, hrolled, images_append_iff, hcleared, Redis.userInfo_deleteRankByUserId, hinfo,
    hzscore, implies_true, true_and, and_true]
  constructor
  · intro h user hu
    refine ⟨fun himage => ⟨?_, ?_, ?_⟩, fun hprofile => ⟨?_, ?_⟩, fun hrankings => ?_⟩
    · rintro rfl
      exact (h (by simp) (by simp) user hu (by simp) (by simp)).1 rfl himage
    · rintro rfl
      exact (((h (by simp) (by simp) user hu (by simp) (by simp)).2 (by simp)).1 rfl).2 himage
    · rintro rfl
      exact (((h (by simp) (by simp) user hu (by simp) (by simp)).2 (by simp)).2 (by simp) rfl).2.2 himage
    · rintro rfl
      exact hprofile (((h (by simp) (by simp) user hu (by simp) (by simp)).2 (by simp)).1 rfl).1.symm
    · rintro rfl
      exact hprofile (((h (by simp) (by simp) user hu (by simp) (by simp)).2 (by simp)).2 (by simp) rfl).1.symm
    · rintro rfl
      exact (((h (by simp) (by simp) user hu (by simp) (by simp)).2 (by simp)).2 (by simp) rfl).2.1 hrankings
  · intro h _ _ user hu
    obtain ⟨himage, hprofile, hrankings⟩ := h user hu
    have hempty : fault = some .deleteRankings ∨ fault = some .commit →
        .empty = w.redis.userInfo userId := fun hf => by
      by_contra hne
      exact hf.elim (hprofile (Ne.symm hne)).1 (hprofile (Ne.symm hne)).2
    intro _ _
    refine ⟨fun hf hs => (himage hs).1 hf, fun _ => ⟨fun hf => ⟨?_, ?_⟩, fun _ hf => ⟨?_, ?_, ?_⟩⟩⟩
    · exact hempty (Or.inl hf)
    · exact fun hs => (himage hs).2.1 hf
    · exact hempty (Or.inr hf)
    · exact fun hr => hrankings hr hf
    · exact fun hs => (himage hs).2.2 hf

end

/-! ## `updateUserProfile` -/

theorem not_same_of_users {userId : Nat} {w t : World}
    (h : t.db.users.find? userId ≠ w.db.users.find? userId) : ¬ SameAccount userId w t :=
  fun hs => h (congrArg AccountRows.user hs.rows)

section

variable {fault : Option AccountCall} {w : World} {userId : Nat}
  {change : User → Except AppError User} {user changed : User}

/-- A user who was saved with a change is not the same. -/
theorem Saved.not_same (h : Saved fault w userId change user changed) (hid : changed.id = user.id)
    (hne : changed ≠ user) {t : World} (ht : t.db.users = (savedWorld w changed).db.users) :
    ¬ SameAccount userId w t := by
  have hkey : user.id = userId := Table.find?_key h.found
  refine not_same_of_users ?_
  rw [ht, h.found]
  show (w.db.users.save changed).find? userId ≠ some user
  rw [Table.find?_save, if_pos (hid.trans hkey)]
  exact fun he => hne (Option.some.inj he)

/-- A save without a change does nothing. -/
theorem Saved.same (h : Saved fault w userId change user user) : savedWorld w user = w := by
  have hkey : user.id = userId := Table.find?_key h.found
  have hsave : w.db.users.save user = w.db.users := Table.save_of_find? (hkey ▸ h.found)
  unfold savedWorld
  rw [hsave]
  rfl

/-- The cached profile is there, and neither of its calls fails. -/
structure ProfileCached (fault : Option AccountCall) (redis : Redis) (userId : Nat) : Prop where
  there : redis.userInfo userId ≠ .empty
  exists_call : fault ≠ some .existsUserInfo
  set_call : fault ≠ some .setUserInfo

theorem onReject_updateFieldsOfUser_lost {P : World → Prop} {field value : String} (hlost : ¬ P w) :
    OnReject P (updateFieldsOfUser fault userId field value) w ↔
      ProfileCached fault w.redis userId := by
  rw [onReject_updateFieldsOfUser]
  constructor
  · intro h
    exact ⟨fun he => hlost (h (Or.inr (Or.inr he))), fun he => hlost (h (Or.inl he)),
      fun he => hlost (h (Or.inr (Or.inl he)))⟩
  · rintro ⟨hthere, hexists, hset⟩ (h | h | h)
    · exact absurd h hexists
    · exact absurd h hset
    · exact absurd h hthere

theorem updateImage_iff (extractKeyFromUrl : String → Option String) (value : String) :
    OnReject (SameAccount userId w) (updateImage fault extractKeyFromUrl userId value) w ↔
      ∀ user changed, Saved fault w userId (·.updateProfileImage value) user changed →
        user.profileImage ≠ value →
          ((uploadName extractKeyFromUrl (replacedImage user value)).isSome →
            fault ≠ some .deleteImage) ∧ ProfileCached fault w.redis userId := by
  unfold updateImage
  rw [onReject_saveChanged (.refl userId w)]
  refine forall_congr' fun user => forall_congr' fun changed => imp_congr_right fun hsaved => ?_
  have hchanged := User.updateProfileImage_ok hsaved.valid
  by_cases hv : user.profileImage = value
  · obtain rfl : changed = user := by rw [hchanged, ← hv]
    have hnone : replacedImage changed value = none := if_neg fun h => h.1 hv
    rw [hsaved.same, hnone, show deleteImage fault extractKeyFromUrl none = pure () from rfl, pure_bind,
      onReject_updateFieldsOfUser]
    exact ⟨fun _ hne => absurd hv hne, fun _ _ => .refl userId w⟩
  · have hlost : ∀ t : World, t.db.users = (savedWorld w changed).db.users → ¬ SameAccount userId w t :=
      fun t ht => hsaved.not_same (by rw [hchanged]) (fun he => hv (by rw [← he, hchanged])) ht
    rw [onReject_deleteImage_bind]
    constructor
    · rintro ⟨hsent, hfields⟩ -
      have hnot : (uploadName extractKeyFromUrl (replacedImage user value)).isSome →
          fault ≠ some .deleteImage := fun hsome hf => hlost _ rfl (hsent hsome hf)
      have hcached := (onReject_updateFieldsOfUser_lost (hlost _ (by rfl))).1 (hfields hnot)
      exact ⟨hnot, hcached⟩
    · intro h
      obtain ⟨hnot, hcached⟩ := h hv
      exact ⟨fun hsome hf => absurd hf (hnot hsome),
        fun _ => (onReject_updateFieldsOfUser_lost (hlost _ (by rfl))).2 hcached⟩

theorem updateNickname_iff (value : String) :
    OnReject (SameAccount userId w) (updateNickname fault userId value) w ↔
      fault ≠ some .findNickname → (∀ u ∈ w.db.users.rows, u.nickname ≠ value) →
        ∀ user changed, Saved fault w userId (·.updateNickname value) user changed →
          ProfileCached fault w.redis userId := by
  unfold updateNickname
  rw [onReject_query_bind]
  have hsame : SameAccount userId w w := .refl userId w
  refine (and_iff_right fun _ => hsame).trans (imp_congr_right fun _ => ?_)
  cases htaken : w.db.users.rows.any fun u => u.nickname = value with
  | true =>
    refine iff_of_true (onReject_check_error_bind.2 hsame) fun hfree => ?_
    obtain ⟨u, hu, hname⟩ := List.any_eq_true.1 htaken
    exact absurd (by simpa using hname) (hfree u hu)
  | false =>
    have hfree : ∀ u ∈ w.db.users.rows, u.nickname ≠ value := by simpa using htaken
    rw [if_neg Bool.false_ne_true, check_ok_bind, onReject_saveChanged hsame,
      forall_prop_of_true hfree]
    refine forall_congr' fun user => forall_congr' fun changed => imp_congr_right fun hsaved => ?_
    have hchanged := User.updateNickname_ok hsaved.valid
    have hne : changed ≠ user := fun he =>
      hfree user (Table.mem_of_find? hsaved.found) (by rw [← he, hchanged])
    exact onReject_updateFieldsOfUser_lost (hsaved.not_same (by rw [hchanged]) hne rfl)

/-! ### The team -/

/-- The user has played for the team, and nothing of it counts. -/
def Emptied (db : Db) (userId teamId : Nat) : Prop :=
  ∃ vo, projected db userId (.team teamId) = some vo ∧ vo.getTotalCount = 0

theorem isEmptied_iff {db : Db} {data : AggregatedRankStats} {prevTeamId value : Nat}
    (hdata : aggregateRankStatsByUserId db userId = some data) (hne : prevTeamId ≠ value) :
    World.isEmptied data prevTeamId value = true ↔ Emptied db userId prevTeamId := by
  unfold World.isEmptied Emptied projected
  rw [hdata, Option.bind_some]
  simp [hne, Option.any_eq_true]

/-- After a change that shows, no call of the rest may fail. -/
theorem onReject_refresh_lost {P : World → Prop} {prevTeamId value pick : Nat}
    {data : AggregatedRankStats} (hlost : ∀ t : World, t.db.users = w.db.users → ¬ P t)
    (hdata : aggregateRankStatsByUserId w.db userId = some data) (hmoved : prevTeamId ≠ value) :
    OnReject P (refresh fault userId prevTeamId value pick data) w ↔
      fault ≠ some .updateRankings ∧ (Emptied w.db userId prevTeamId →
        fault ≠ some .findEmptiedRank ∧ fault ≠ some .removeRank ∧ fault ≠ some .deleteRankings) := by
  rw [← isEmptied_iff hdata hmoved]
  unfold refresh
  by_cases hempty : World.isEmptied data prevTeamId value = true
  · -- the emptied team has a row, so a row is removed
    obtain ⟨vo, hvo, -⟩ := (isEmptied_iff hdata hmoved).1 hempty
    rw [projected_team] at hvo
    have hmem : prevTeamId ∈ (rowsOf w.db userId).map Rank.teamId := by
      by_contra hno
      rw [if_neg hno] at hvo
      cases hvo
    obtain ⟨row, hrow, hteam⟩ := List.mem_map.1 hmem
    obtain ⟨hrow, huser⟩ := mem_rowsOf.1 hrow
    obtain ⟨found, hfound⟩ : ∃ found, w.db.ranks.findAny
        (fun r => decide (r.user = userId) && decide (r.teamId = prevTeamId)) pick = some found := by
      refine Option.isSome_iff_exists.1 (Option.isSome_iff_ne_none.2 fun hnone => ?_)
      have hall := Table.findAny_eq_none.1 hnone row hrow
      simp [huser, hteam] at hall
    rw [if_pos hempty]
    unfold deleteRank
    rw [bind_assoc, onReject_query_bind, hfound]
    simp only [onReject_command_bind, onReject_command, hlost, Db.withRanks_users]
    tauto
  · rw [if_neg hempty, onReject_command]
    exact ⟨fun h => ⟨fun hf => hlost w rfl (h hf), fun he => absurd he hempty⟩,
      fun h hf => absurd hf h.1⟩

theorem aggregate_of_row {db : Db} {row : Rank} (hrow : row ∈ db.ranks.rows) (huser : row.user = userId) :
    ∃ data, aggregateRankStatsByUserId db userId = some data := by
  have hne : rowsOf db userId ≠ [] := List.ne_nil_of_mem (mem_rowsOf.2 ⟨hrow, huser⟩)
  rw [aggregate_eq, if_neg (by simpa using hne)]
  exact ⟨_, rfl⟩

theorem aggregate_of_insert (w : World) (key : RankKey) :
    ∃ data, aggregateRankStatsByUserId (insertedWorld w key).db key.user = some data := by
  have hrow : newRank key ∈ (insertedWorld w key).db.ranks.rows := Table.mem_save.2 (Or.inl rfl)
  exact aggregate_of_row hrow rfl

theorem rowsOf_insert {db : Db} {row : Rank} (hfresh : db.ranks.find? row.key = none) :
    rowsOf (db.withRanks (db.ranks.save row)) row.user = rowsOf db row.user ++ [row] := by
  unfold rowsOf
  rw [Db.withRanks_ranks, Table.rows_save_of_fresh (Table.find?_eq_none.1 hfresh), List.filter_append]
  simp

/-- A new row of another team does not matter to a team. -/
theorem emptied_insert {db : Db} {row : Rank} {teamId : Nat} (hfresh : db.ranks.find? row.key = none)
    (hteam : row.teamId ≠ teamId) :
    Emptied (db.withRanks (db.ranks.save row)) row.user teamId ↔ Emptied db row.user teamId := by
  unfold Emptied
  rw [projected_team, projected_team, rowsOf_insert hfresh]
  have hgroup : groupedVo (rowsOf db row.user ++ [row]) teamId = groupedVo (rowsOf db row.user) teamId := by
    simp [groupedVo, hteam]
  have hmem : teamId ∈ (rowsOf db row.user ++ [row]).map Rank.teamId ↔
      teamId ∈ (rowsOf db row.user).map Rank.teamId := by
    simp [Ne.symm hteam]
  simp only [hgroup, hmem]

/-- The team is the one the user has: only a new rank row may be left behind. -/
def StaysWhole (fault : Option AccountCall) (w : World) (key : RankKey) : Prop :=
  w.db.ranks.find? key = none → Creatable key →
    fault ≠ some .aggregateRanks ∧ fault ≠ some .updateRankings

/-- The user changes teams: after the save no call fails. -/
structure MovesWhole (fault : Option AccountCall) (w : World) (key : RankKey) (prevTeamId : Nat) :
    Prop where
  findRank : fault ≠ some .findRank
  saveRank : w.db.ranks.find? key = none → Creatable key ∧ fault ≠ some .saveRank
  aggregateRanks : fault ≠ some .aggregateRanks
  updateRankings : fault ≠ some .updateRankings
  emptied : Emptied w.db key.user prevTeamId →
    fault ≠ some .findEmptiedRank ∧ fault ≠ some .removeRank ∧ fault ≠ some .deleteRankings

/-- The rest of the command looks at the rank table only. -/
theorem MovesWhole.of_ranks {t : World} {key : RankKey} {prevTeamId : Nat}
    (hranks : t.db.ranks = w.db.ranks) (h : MovesWhole fault w key prevTeamId) :
    MovesWhole fault t key prevTeamId where
  findRank := h.findRank
  saveRank hnone := h.saveRank (hranks ▸ hnone)
  aggregateRanks := h.aggregateRanks
  updateRankings := h.updateRankings
  emptied hempty := by
    refine h.emptied ?_
    have hrows : rowsOf t.db key.user = rowsOf w.db key.user := by
      unfold rowsOf
      rw [hranks]
    unfold Emptied at hempty
    rwa [projected_congr hrows] at hempty

/-- Without a change of team only the new row is written before the last call. -/
theorem onReject_team_stays {value year pick : Nat} (huser : (w.db.users.find? userId).isSome) :
    OnReject (SameAccount userId w) (do
      insertRankIfAbsent fault ⟨userId, value, year⟩
      let data ← aggregate fault userId
      refresh fault userId value value pick data) w ↔
      StaysWhole fault w ⟨userId, value, year⟩ := by
  have hsame : SameAccount userId w w := .refl userId w
  have hrefresh : ∀ (P : World → Prop) (t : World) (data : AggregatedRankStats),
      OnReject P (refresh fault userId value value pick data) t ↔
        (fault = some .updateRankings → P t) := by
    intro P t data
    unfold refresh World.isEmptied
    simp only [ne_eq, not_true_eq_false, decide_false, Bool.false_and, Bool.false_eq_true, if_false,
      onReject_command]
  cases hfound : w.db.ranks.find? ⟨userId, value, year⟩ with
  | some row =>
    obtain ⟨data, hdata⟩ := aggregate_of_row (Table.mem_of_find? hfound)
      (congrArg RankKey.user (Table.find?_key hfound))
    rw [onReject_insertRank_found hfound, onReject_aggregate_bind hdata, hrefresh]
    refine iff_of_true ⟨fun _ => hsame, fun _ => ⟨fun _ => hsame, fun _ _ => hsame⟩⟩ fun hnone => ?_
    rw [hfound] at hnone
    cases hnone
  | none =>
    -- the row that was made is there whatever fails afterwards
    have hinserted : ¬ SameAccount userId w (insertedWorld w ⟨userId, value, year⟩) := by
      intro hs
      have hranks : rowsOf (insertedWorld w ⟨userId, value, year⟩).db userId = rowsOf w.db userId :=
        congrArg AccountRows.ranks hs.rows
      have hrows : rowsOf (insertedWorld w ⟨userId, value, year⟩).db userId =
          rowsOf w.db userId ++ [newRank ⟨userId, value, year⟩] := rowsOf_insert hfound
      have hlength := congrArg List.length (hrows.symm.trans hranks)
      simp [newRank] at hlength
    obtain ⟨data, hdata⟩ := aggregate_of_insert w ⟨userId, value, year⟩
    rw [onReject_insertRank_new hfound huser, onReject_aggregate_bind hdata, hrefresh]
    constructor
    · rintro ⟨-, h⟩ - hc
      constructor
      · rintro rfl
        exact hinserted ((h nofun hc nofun).1 rfl)
      · rintro rfl
        exact hinserted ((h nofun hc nofun).2 nofun rfl)
    · intro h
      refine ⟨fun _ => hsame, fun _ hc _ => ?_⟩
      obtain ⟨haggregate, hrankings⟩ := h hfound hc
      exact ⟨fun hf => absurd hf haggregate, fun _ hf => absurd hf hrankings⟩

/-- After a change of team, every failure leaves it behind. -/
theorem onReject_team_moves {P : World → Prop} {value year pick prevTeamId : Nat}
    (huser : (w.db.users.find? userId).isSome)
    (hlost : ∀ t : World, t.db.users = w.db.users → ¬ P t) (hmoved : prevTeamId ≠ value) :
    OnReject P (do
      insertRankIfAbsent fault ⟨userId, value, year⟩
      let data ← aggregate fault userId
      refresh fault userId prevTeamId value pick data) w ↔
      MovesWhole fault w ⟨userId, value, year⟩ prevTeamId := by
  cases hfound : w.db.ranks.find? ⟨userId, value, year⟩ with
  | some row =>
    obtain ⟨data, hdata⟩ := aggregate_of_row (Table.mem_of_find? hfound)
      (congrArg RankKey.user (Table.find?_key hfound))
    rw [onReject_insertRank_found hfound, onReject_aggregate_bind hdata,
      onReject_refresh_lost hlost hdata hmoved]
    constructor
    · rintro ⟨hfind, h⟩
      have hfind' : fault ≠ some .findRank := fun hf => hlost w rfl (hfind hf)
      obtain ⟨haggregate, h⟩ := h hfind'
      have haggregate' : fault ≠ some .aggregateRanks := fun hf => hlost w rfl (haggregate hf)
      obtain ⟨hrankings, hempty⟩ := h haggregate'
      refine ⟨hfind', fun hnone => ?_, haggregate', hrankings, hempty⟩
      rw [hfound] at hnone
      cases hnone
    · intro h
      exact ⟨fun hf => absurd hf h.findRank, fun _ => ⟨fun hf => absurd hf h.aggregateRanks,
        fun _ => ⟨h.updateRankings, h.emptied⟩⟩⟩
  | none =>
    obtain ⟨data, hdata⟩ := aggregate_of_insert w ⟨userId, value, year⟩
    have hempty : Emptied (insertedWorld w ⟨userId, value, year⟩).db userId prevTeamId ↔
        Emptied w.db userId prevTeamId := emptied_insert hfound (Ne.symm hmoved)
    rw [onReject_insertRank_new hfound huser, onReject_aggregate_bind hdata,
      onReject_refresh_lost (w := insertedWorld w _) hlost hdata hmoved, hempty]
    constructor
    · rintro ⟨hfirst, h⟩
      have hfind : fault ≠ some .findRank := fun hf => hlost w rfl (hfirst (Or.inl hf))
      have hcreatable : Creatable ⟨userId, value, year⟩ := by
        by_contra hc
        exact hlost w rfl (hfirst (Or.inr (Or.inl hc)))
      have hsave : fault ≠ some .saveRank := fun hf => hlost w rfl (hfirst (Or.inr (Or.inr hf)))
      obtain ⟨haggregate, h⟩ := h hfind hcreatable hsave
      have haggregate' : fault ≠ some .aggregateRanks := fun hf =>
        hlost (insertedWorld w ⟨userId, value, year⟩) rfl (haggregate hf)
      obtain ⟨hrankings, hrest⟩ := h haggregate'
      exact ⟨hfind, fun _ => ⟨hcreatable, hsave⟩, haggregate', hrankings, hrest⟩
    · intro h
      obtain ⟨hcreatable, hsave⟩ := h.saveRank hfound
      refine ⟨?_, fun _ _ _ => ⟨fun hf => absurd hf h.aggregateRanks,
        fun _ => ⟨h.updateRankings, h.emptied⟩⟩⟩
      rintro (hf | hc | hf)
      · exact absurd hf h.findRank
      · exact absurd hcreatable hc
      · exact absurd hf hsave

theorem updateTeamId_iff (value year pick : Nat) :
    OnReject (SameAccount userId w) (updateTeamId fault userId value year pick) w ↔
      ∀ user changed, Saved fault w userId (·.updateTeam value) user changed →
        if user.supportTeam = value then StaysWhole fault w ⟨userId, value, year⟩
        else MovesWhole fault w ⟨userId, value, year⟩ user.supportTeam := by
  unfold updateTeamId
  rw [onReject_saveChanged (.refl userId w)]
  refine forall_congr' fun user => forall_congr' fun changed => imp_congr_right fun hsaved => ?_
  have hchanged := (User.updateTeam_ok hsaved.valid).1
  split
  · next hteam =>
    obtain rfl : changed = user := by rw [hchanged, ← hteam]
    rw [hsaved.same, hteam]
    exact onReject_team_stays (by rw [hsaved.found]; rfl)
  · next hteam =>
    have hlost : ∀ t : World, t.db.users = (savedWorld w changed).db.users → ¬ SameAccount userId w t :=
      fun t ht => hsaved.not_same (by rw [hchanged]) (fun he => hteam (by rw [← he, hchanged])) ht
    have huser : ((savedWorld w changed).db.users.find? userId).isSome := by
      have hid : changed.id = user.id := by rw [hchanged]
      have hkey : changed.id = userId := hid.trans (Table.find?_key hsaved.found)
      show ((w.db.users.save changed).find? userId).isSome
      rw [Table.find?_save, if_pos hkey]
      rfl
    rw [onReject_team_moves huser hlost hteam]
    exact ⟨MovesWhole.of_ranks (w := savedWorld w changed) (t := w) rfl,
      MovesWhole.of_ranks (w := w) (t := savedWorld w changed) rfl⟩

end

end AccountSteps

/-! ## Both commands -/

open AccountSteps

/-- No call of the command fails after one that has changed something. -/
def AccountCommand.Whole (fault : Option AccountCall) (extractKeyFromUrl : String → Option String)
    (w : World) : AccountCommand → Prop
  | .deleteUser userId => ∀ user, w.db.users.find? userId = some user →
      DeletesWhole fault extractKeyFromUrl w userId user
  | .updateUserProfile userId (.image value) _ _ =>
      ∀ user changed, Saved fault w userId (·.updateProfileImage value) user changed →
        user.profileImage ≠ value →
          ((uploadName extractKeyFromUrl (replacedImage user value)).isSome →
            fault ≠ some .deleteImage) ∧ ProfileCached fault w.redis userId
  | .updateUserProfile userId (.nickname value) _ _ =>
      fault ≠ some .findNickname → (∀ u ∈ w.db.users.rows, u.nickname ≠ value) →
        ∀ user changed, Saved fault w userId (·.updateNickname value) user changed →
          ProfileCached fault w.redis userId
  | .updateUserProfile userId (.teamId value) year _ =>
      ∀ user changed, Saved fault w userId (·.updateTeam value) user changed →
        if user.supportTeam = value then StaysWhole fault w ⟨userId, value, year⟩
        else MovesWhole fault w ⟨userId, value, year⟩ user.supportTeam

/-- **All or nothing.**  Whatever call fails, a rejected command leaves the account as it was
exactly when it fails before anything has changed. -/
theorem account_commands_iff (fault : Option AccountCall) (extractKeyFromUrl : String → Option String)
    (w : World) (c : AccountCommand) :
    AllOrNothing fault extractKeyFromUrl w c ↔ c.Whole fault extractKeyFromUrl w := by
  cases c with
  | deleteUser userId => exact deleteUser_iff fault extractKeyFromUrl w userId
  | updateUserProfile userId input year pick =>
    cases input with
    | image value => exact updateImage_iff extractKeyFromUrl value
    | nickname value => exact updateNickname_iff value
    | teamId value => exact updateTeamId_iff value year pick

/-- The fan and the cached profile. -/
def fanWorld : World where
  db := leagueDb
  redis := Redis.empty.saveUsers leagueDb.users.rows
  deletedImages := []

/-- Redis fails after the new nickname was saved. -/
theorem nickname_half_changed :
    ∃ t, (AccountCommand.updateUserProfile 7 (.nickname "winner") 2025 0).steps
        (some .existsUserInfo) (fun _ => none) fanWorld =
          .error (.http 500 "Redis userInfo 업데이트 실패") t ∧
      (t.db.users.find? 7).map User.nickname = some "winner" ∧
      (t.redis.userInfo 7).nickname = some "fan" ∧
      ¬ AllOrNothing (some .existsUserInfo) (fun _ => none) fanWorld
        (.updateUserProfile 7 (.nickname "winner") 2025 0) := by
  have hsteps : (AccountCommand.updateUserProfile 7 (.nickname "winner") 2025 0).steps
      (some .existsUserInfo) (fun _ => none) fanWorld =
        .error (.http 500 "Redis userInfo 업데이트 실패")
          (savedWorld fanWorld ⟨7, DEFAULT_PROFILE_IMAGE, "winner", "fan@test", 1⟩) := rfl
  refine ⟨_, hsteps, rfl, rfl, fun h => ?_⟩
  have hrows := (h _ _ hsteps).rows
  exact absurd (congrArg (fun rows => rows.user.map User.nickname) hrows) (by decide)

end VictoryFairy
