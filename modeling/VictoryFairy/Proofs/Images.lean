import VictoryFairy.Proofs.Rankings

/-!
# Stored images and the rows that refer to them

A registration may carry the URL of an object in S3.  `StoredImages` says that the objects
the rows refer to are there and that those they referred to before are gone.  A request
exchanges rows and deletes at most one object; it keeps the property exactly when that
object is the one no row refers to any longer (`exchange_iff`).

    next_images_iff    : for one event
    stored_images_iff  : for a history
-/

namespace VictoryFairy

open Runs

section

variable (extractKeyFromUrl : String → Option String)

/-- The object a URL stands for, as `deleteImage` finds it. -/
def imageKey (fileUrl : Option String) : Option String :=
  (fileUrl.bind extractKeyFromUrl).filter fun uploadName => uploadName ≠ ""

/-- The objects the rows refer to. -/
def imageKeys (registeredGames : Table RegisteredGame.id) : List String :=
  registeredGames.rows.filterMap fun r => imageKey extractKeyFromUrl r.image

/-- A row that satisfies `p` refers to the object. -/
def RefersTo (registeredGames : Table RegisteredGame.id) (p : RegisteredGame → Prop)
    (k : String) : Prop :=
  ∃ r ∈ registeredGames.rows, p r ∧ imageKey extractKeyFromUrl r.image = some k

/-! ## Runs that remember the references -/

/-- The stores, and every object a row has referred to so far. -/
structure ImageRun where
  world : World
  referenced : List String

namespace ImageRun

def start (teams : Table Team.id) (stadiums : Table Stadium.id) (games : Table GameRow.id)
    (terms : Table Term.id) : ImageRun where
  world := .start teams stadiums games terms
  referenced := []

def next (s : ImageRun) (e : Event) : ImageRun where
  world := s.world.next extractKeyFromUrl e
  referenced := s.referenced ++
    imageKeys extractKeyFromUrl (s.world.next extractKeyFromUrl e).db.registeredGames

end ImageRun

/-- No object a row refers to has been deleted, and every object that was referred to and
is not any more has been. -/
structure StoredImages (s : ImageRun) : Prop where
  kept : ∀ k ∈ imageKeys extractKeyFromUrl s.world.db.registeredGames, k ∉ s.world.deletedImages
  cleaned : ∀ k ∈ s.referenced, k ∉ imageKeys extractKeyFromUrl s.world.db.registeredGames →
    k ∈ s.world.deletedImages

theorem mem_imageKeys {registeredGames : Table RegisteredGame.id} {k : String} :
    k ∈ imageKeys extractKeyFromUrl registeredGames ↔
      ∃ r ∈ registeredGames.rows, imageKey extractKeyFromUrl r.image = some k :=
  List.mem_filterMap

theorem RefersTo.mem {registeredGames : Table RegisteredGame.id} {p : RegisteredGame → Prop}
    {k : String} (h : RefersTo extractKeyFromUrl registeredGames p k) :
    k ∈ imageKeys extractKeyFromUrl registeredGames := by
  obtain ⟨r, hr, -, hk⟩ := h
  exact (mem_imageKeys extractKeyFromUrl).2 ⟨r, hr, hk⟩

/-- A reference is that of a given row or another row's. -/
theorem mem_imageKeys_of_mem {registeredGames : Table RegisteredGame.id} {r : RegisteredGame}
    (hr : r ∈ registeredGames.rows) (k : String) :
    k ∈ imageKeys extractKeyFromUrl registeredGames ↔
      imageKey extractKeyFromUrl r.image = some k ∨
        RefersTo extractKeyFromUrl registeredGames (fun o => o.id ≠ r.id) k := by
  constructor
  · intro hk
    obtain ⟨o, ho, hk⟩ := (mem_imageKeys extractKeyFromUrl).1 hk
    by_cases hid : o.id = r.id
    · obtain rfl := Table.eq_of_key ho hr hid
      exact Or.inl hk
    · exact Or.inr ⟨o, ho, hid, hk⟩
  · rintro (hk | hothers)
    · exact (mem_imageKeys extractKeyFromUrl).2 ⟨r, hr, hk⟩
    · exact hothers.mem extractKeyFromUrl

theorem mem_imageKeys_save {registeredGames : Table RegisteredGame.id} {row : RegisteredGame}
    {k : String} : k ∈ imageKeys extractKeyFromUrl (registeredGames.save row) ↔
      imageKey extractKeyFromUrl row.image = some k ∨
        RefersTo extractKeyFromUrl registeredGames (fun o => o.id ≠ row.id) k := by
  rw [mem_imageKeys]
  constructor
  · rintro ⟨r, hr, hk⟩
    rcases Table.mem_save.1 hr with rfl | ⟨hr, hne⟩
    · exact Or.inl hk
    · exact Or.inr ⟨r, hr, hne, hk⟩
  · rintro (hk | ⟨r, hr, hne, hk⟩)
    · exact ⟨row, Table.mem_save.2 (Or.inl rfl), hk⟩
    · exact ⟨r, Table.mem_save.2 (Or.inr ⟨hr, hne⟩), hk⟩

theorem mem_imageKeys_remove {registeredGames : Table RegisteredGame.id} {id : Nat} {k : String} :
    k ∈ imageKeys extractKeyFromUrl (registeredGames.remove id) ↔
      RefersTo extractKeyFromUrl registeredGames (fun o => o.id ≠ id) k := by
  simp only [mem_imageKeys, RefersTo, Table.mem_remove, and_assoc]

theorem mem_imageKeys_removeUser {registeredGames : Table RegisteredGame.id} {userId : Nat}
    {k : String} :
    k ∈ imageKeys extractKeyFromUrl (registeredGames.reject fun r => r.user = userId) ↔
      RefersTo extractKeyFromUrl registeredGames (fun o => o.user ≠ userId) k := by
  simp only [mem_imageKeys, RefersTo, Table.mem_reject, decide_eq_false_iff_not, and_assoc, ne_eq]

/-- **One exchange.**  Rows are exchanged and at most one object is deleted. -/
theorem exchange_iff {s s' : ImageRun} {deleted : Option String} (h : StoredImages extractKeyFromUrl s)
    (hsub : ∀ k ∈ imageKeys extractKeyFromUrl s.world.db.registeredGames, k ∈ s.referenced)
    (href : s'.referenced =
      s.referenced ++ imageKeys extractKeyFromUrl s'.world.db.registeredGames)
    (hdel : s'.world.deletedImages = s.world.deletedImages ++ deleted.toList) :
    StoredImages extractKeyFromUrl s' ↔
      (∀ k ∈ imageKeys extractKeyFromUrl s'.world.db.registeredGames,
        k ∉ s.world.deletedImages ∧ deleted ≠ some k) ∧
      ∀ k ∈ imageKeys extractKeyFromUrl s.world.db.registeredGames,
        k ∉ imageKeys extractKeyFromUrl s'.world.db.registeredGames → deleted = some k := by
  have hmem : ∀ k, k ∈ s'.world.deletedImages ↔ k ∈ s.world.deletedImages ∨ deleted = some k := by
    intro k
    rw [hdel, List.mem_append, Option.mem_toList]
  constructor
  · intro h'
    refine ⟨fun k hk => ?_, fun k hk hgone => ?_⟩
    · have hkept := h'.kept k hk
      rw [hmem, not_or] at hkept
      exact hkept
    · have hcleaned := h'.cleaned k (by rw [href]; exact List.mem_append_left _ (hsub k hk)) hgone
      exact ((hmem k).1 hcleaned).resolve_left (h.kept k hk)
  · rintro ⟨hkept, hcleaned⟩
    refine ⟨fun k hk => ?_, fun k hk hgone => ?_⟩
    · rw [hmem, not_or]
      exact hkept k hk
    · rw [href] at hk
      rw [hmem]
      rcases List.mem_append.1 hk with hk | hk
      · by_cases hold : k ∈ imageKeys extractKeyFromUrl s.world.db.registeredGames
        · exact Or.inr (hcleaned k hold hgone)
        · exact Or.inl (h.cleaned k hk hold)
      · exact absurd hk hgone

/-- Nothing is exchanged and nothing deleted. -/
theorem StoredImages.unchanged {s s' : ImageRun} (h : StoredImages extractKeyFromUrl s)
    (hsub : ∀ k ∈ imageKeys extractKeyFromUrl s.world.db.registeredGames, k ∈ s.referenced)
    (href : s'.referenced =
      s.referenced ++ imageKeys extractKeyFromUrl s'.world.db.registeredGames)
    (hrows : s'.world.db.registeredGames = s.world.db.registeredGames)
    (hdel : s'.world.deletedImages = s.world.deletedImages) : StoredImages extractKeyFromUrl s' := by
  have hnone : s'.world.deletedImages = s.world.deletedImages ++ (none : Option String).toList := by
    rw [hdel]
    exact (List.append_nil _).symm
  rw [exchange_iff extractKeyFromUrl h hsub href hnone, hrows]
  exact ⟨fun k hk => ⟨h.kept k hk, nofun⟩, fun k hk hgone => absurd hk hgone⟩

/-! ## What a request deletes -/

theorem deleteImage_deleted (w : World) (fileUrl : Option String) :
    (w.deleteImage extractKeyFromUrl fileUrl).deletedImages =
      w.deletedImages ++ (imageKey extractKeyFromUrl fileUrl).toList := by
  unfold World.deleteImage imageKey
  cases fileUrl.bind extractKeyFromUrl with
  | none => simp
  | some uploadName =>
    by_cases hblank : uploadName = ""
    · simp [hblank]
    · simp [hblank, Option.filter]

/-- The object a user's profile image stands for, the default image apart. -/
def profileKey (user : User) : Option String :=
  if user.profileImage ≠ DEFAULT_PROFILE_IMAGE then
    imageKey extractKeyFromUrl (some user.profileImage)
  else none

/-- The object a request deletes in its hook. -/
def deletedBy (db : Db) : Op → Option String
  | .update id dto userId =>
    match update db id dto userId with
    | .ok (_, result) =>
      if result.teamCtx.isChanged && result.imageCtx.isChanged then
        imageKey extractKeyFromUrl result.imageCtx.prevImage
      else none
    | .error _ => none
  | .delete id userId =>
    match delete db id userId with
    | .ok (_, result) => imageKey extractKeyFromUrl result.prevImage
    | .error _ => none
  | .updateUserProfile userId (.image value) _ _ =>
    match updateUserProfileImage db userId value with
    | .ok (_, prevImage) => imageKey extractKeyFromUrl prevImage
    | .error _ => none
  | .deleteUser userId =>
    match deleteUserRow db userId with
    | .ok (_, prevImage) => imageKey extractKeyFromUrl prevImage
    | .error _ => none
  | _ => none

-- `new URL('')` throws
variable (hempty : extractKeyFromUrl "" = none)

include hempty in
/-- The check for an image before the call does not matter. -/
theorem deleteIfImage_deleted (w : World) (fileUrl : Option String) :
    (if (fileUrl.getD "") ≠ "" then w.deleteImage extractKeyFromUrl fileUrl else w).deletedImages =
      w.deletedImages ++ (imageKey extractKeyFromUrl fileUrl).toList := by
  split
  · exact deleteImage_deleted extractKeyFromUrl w fileUrl
  · next hnone =>
    have hkey : imageKey extractKeyFromUrl fileUrl = none := by
      unfold imageKey
      cases fileUrl with
      | none => rfl
      | some url =>
        rw [Option.getD_some, not_not] at hnone
        rw [hnone, Option.bind_some, hempty]
        rfl
    rw [hkey]
    simp

@[simp] theorem cacheUser_deletedImages (w : World) (user : User) :
    (w.cacheUser user).deletedImages = w.deletedImages := rfl

@[simp] theorem refreshRankings_deletedImages (w : World) (userId : Nat) :
    (w.refreshRankings userId).deletedImages = w.deletedImages := rfl

theorem updateHook_deletedImages (w : World) (result : UpdateRegisteredGameResult) (userId : Nat) :
    (w.updateHook extractKeyFromUrl result userId).deletedImages = w.deletedImages ++
      (if result.teamCtx.isChanged && result.imageCtx.isChanged then
        imageKey extractKeyFromUrl result.imageCtx.prevImage else none).toList := by
  unfold World.updateHook
  by_cases hteam : result.teamCtx.isChanged = true
  · by_cases himage : result.imageCtx.isChanged = true
    · simp [hteam, himage, deleteImage_deleted]
    · simp [hteam, himage]
  · simp [hteam]

include hempty in
theorem deleteHook_deletedImages (w : World) (result : DeleteRegisteredGameResult) (userId : Nat) :
    (w.deleteHook extractKeyFromUrl result userId).deletedImages =
      w.deletedImages ++ (imageKey extractKeyFromUrl result.prevImage).toList := by
  have hdeleted := deleteIfImage_deleted extractKeyFromUrl hempty w result.prevImage
  unfold World.deleteHook
  dsimp only
  split <;> exact hdeleted

include hempty in
theorem updateImage_deletedImages (w : World) (userId : Nat) (value : String) (year pick : Nat) :
    (w.updateImage extractKeyFromUrl userId value).1.deletedImages = w.deletedImages ++
      (deletedBy extractKeyFromUrl w.db
        (.updateUserProfile userId (.image value) year pick)).toList := by
  unfold World.updateImage deletedBy
  dsimp only
  cases updateUserProfileImage w.db userId value with
  | error e => simp
  | ok p =>
    obtain ⟨db, prevImage⟩ := p
    dsimp only
    have hdeleted := deleteIfImage_deleted extractKeyFromUrl hempty { w with db } prevImage
    split <;> exact hdeleted

theorem updateNickname_deletedImages (w : World) (userId : Nat) (value : String) :
    (w.updateNickname userId value).1.deletedImages = w.deletedImages := by
  unfold World.updateNickname
  split
  · rfl
  · dsimp only
    split <;> rfl

theorem updateTeamId_deletedImages (w : World) (userId value year pick : Nat) :
    (w.updateTeamId userId value year pick).1.deletedImages = w.deletedImages := by
  unfold World.updateTeamId
  split
  · rfl
  · split
    · rfl
    · split
      · rfl
      · split <;> rfl

include hempty in
theorem step_deletedImages (w : World) (op : Op) :
    (w.step extractKeyFromUrl op).deletedImages =
      w.deletedImages ++ (deletedBy extractKeyFromUrl w.db op).toList := by
  -- the requests that delete nothing
  have hnothing : w.deletedImages = w.deletedImages ++ (none : Option String).toList :=
    (List.append_nil _).symm
  cases op with
  | registerLocalUser dto env year =>
    show (transactional w (registerLocalUser w.db dto env year) World.cacheUser).deletedImages = _
    unfold transactional
    cases registerLocalUser w.db dto env year <;> exact hnothing
  | loginSocialUser sub email provider pick env year =>
    show (transactional w (loginSocialUser w.db sub email provider pick env year)
      fun w p => if p.2 then w.cacheUser p.1 else w).deletedImages = _
    unfold transactional
    cases loginSocialUser w.db sub email provider pick env year with
    | error e => exact hnothing
    | ok p => obtain ⟨db, user, _ | _⟩ := p <;> exact hnothing
  | register dto userId newId =>
    show (transactional w (register w.db dto userId newId)
      fun w _ => w.refreshRankings userId).deletedImages = _
    unfold transactional
    cases register w.db dto userId newId <;> exact hnothing
  | update id dto userId =>
    show (transactional w (update w.db id dto userId)
      fun w result => w.updateHook extractKeyFromUrl result userId).deletedImages = _
    unfold transactional deletedBy
    dsimp only
    cases update w.db id dto userId with
    | error e => exact hnothing
    | ok p => exact updateHook_deletedImages extractKeyFromUrl { w with db := p.1 } p.2 userId
  | delete id userId =>
    show (transactional w (delete w.db id userId)
      fun w result => w.deleteHook extractKeyFromUrl result userId).deletedImages = _
    unfold transactional deletedBy
    dsimp only
    cases delete w.db id userId with
    | error e => exact hnothing
    | ok p => exact deleteHook_deletedImages extractKeyFromUrl hempty { w with db := p.1 } p.2 userId
  | updateUserProfile userId input year pick =>
    cases input with
    | image value => exact updateImage_deletedImages extractKeyFromUrl hempty w userId value year pick
    | nickname value => exact (updateNickname_deletedImages w userId value).trans hnothing
    | teamId value => exact (updateTeamId_deletedImages w userId value year pick).trans hnothing
  | deleteUser userId =>
    unfold deletedBy
    dsimp only
    cases hrow : deleteUserRow w.db userId with
    | error e =>
      rw [World.step_deleteUser_error extractKeyFromUrl hrow]
      exact hnothing
    | ok p =>
      rw [World.step_deleteUser_ok extractKeyFromUrl hrow]
      exact deleteIfImage_deleted extractKeyFromUrl hempty w p.2

/-! ## When a request keeps the objects -/

/-- An update stores an image whose object is there.  If it changes the team it sends the
stored image again, or one that leaves the old object without a reference; if it keeps the
team it leaves the old object with one. -/
def UpdateKeeps (w : World) (r : RegisteredGame) (dto : UpdateRegisteredGameInput) : Prop :=
  (∀ k, imageKey extractKeyFromUrl (dto.image.getD r.image) = some k → k ∉ w.deletedImages) ∧
    ∀ k, imageKey extractKeyFromUrl r.image = some k →
      if r.cheeringTeam = dto.cheeringTeamId then
        imageKey extractKeyFromUrl (dto.image.getD r.image) = some k ∨
          RefersTo extractKeyFromUrl w.db.registeredGames (fun o => o.id ≠ r.id) k
      else
        dto.image = some r.image ∨
          ¬ (imageKey extractKeyFromUrl (dto.image.getD r.image) = some k ∨
            RefersTo extractKeyFromUrl w.db.registeredGames (fun o => o.id ≠ r.id) k)

/-- The objects of a user who leaves are the profile image alone, or others' as well. -/
def DeleteUserKeeps (w : World) (user : User) : Prop :=
  (∀ k, profileKey extractKeyFromUrl user = some k →
    ¬ RefersTo extractKeyFromUrl w.db.registeredGames (fun o => o.user ≠ user.id) k) ∧
    ∀ r ∈ w.db.registeredGames.rows, r.user = user.id →
      ∀ k, imageKey extractKeyFromUrl r.image = some k →
        profileKey extractKeyFromUrl user = some k ∨
          RefersTo extractKeyFromUrl w.db.registeredGames (fun o => o.user ≠ user.id) k

/-- The condition on a request, in the state it finds, when it is not rejected. -/
def KeepsImages (w : World) : Event → Prop
  | .request (.register dto userId newId) =>
    (∃ p, register w.db dto userId newId = .ok p) →
      ∀ k, imageKey extractKeyFromUrl dto.image = some k → k ∉ w.deletedImages
  | .request (.update id dto userId) =>
    (∃ p, update w.db id dto userId = .ok p) →
      ∀ r, w.db.registeredGames.find? id = some r → UpdateKeeps extractKeyFromUrl w r dto
  | .request (.delete id userId) =>
    (∃ p, delete w.db id userId = .ok p) →
      ∀ r, w.db.registeredGames.find? id = some r →
        ∀ k, imageKey extractKeyFromUrl r.image = some k →
          ¬ RefersTo extractKeyFromUrl w.db.registeredGames (fun o => o.id ≠ r.id) k
  | .request (.deleteUser userId) =>
    ∀ user, w.db.users.find? userId = some user → DeleteUserKeeps extractKeyFromUrl w user
  | .request (.updateUserProfile userId (.image value) _ _) =>
    (∃ p, updateUserProfileImage w.db userId value = .ok p) →
      ∀ user, w.db.users.find? userId = some user → value ≠ user.profileImage →
        ∀ k, profileKey extractKeyFromUrl user = some k →
          k ∉ imageKeys extractKeyFromUrl w.db.registeredGames
  | _ => True

variable {s : ImageRun} (h : StoredImages extractKeyFromUrl s)
  (hsub : ∀ k ∈ imageKeys extractKeyFromUrl s.world.db.registeredGames, k ∈ s.referenced)

include hempty h hsub in
/-- The exchange of a request. -/
theorem request_images_iff (op : Op) :
    StoredImages extractKeyFromUrl (s.next extractKeyFromUrl (.request op)) ↔
      (∀ k ∈ imageKeys extractKeyFromUrl (s.world.db.commit op).registeredGames,
        k ∉ s.world.deletedImages ∧ deletedBy extractKeyFromUrl s.world.db op ≠ some k) ∧
      ∀ k ∈ imageKeys extractKeyFromUrl s.world.db.registeredGames,
        k ∉ imageKeys extractKeyFromUrl (s.world.db.commit op).registeredGames →
          deletedBy extractKeyFromUrl s.world.db op = some k := by
  rw [← World.step_db extractKeyFromUrl s.world op]
  exact exchange_iff extractKeyFromUrl h hsub rfl
    (step_deletedImages extractKeyFromUrl hempty s.world op)

include hempty h hsub in
/-- A request that exchanges no row and deletes no object. -/
theorem request_keeps_images {op : Op}
    (hrows : (s.world.db.commit op).registeredGames = s.world.db.registeredGames)
    (hdel : deletedBy extractKeyFromUrl s.world.db op = none) :
    StoredImages extractKeyFromUrl (s.next extractKeyFromUrl (.request op)) := by
  refine h.unchanged extractKeyFromUrl hsub rfl ?_ ?_
  · rw [← hrows, ← World.step_db extractKeyFromUrl]
    rfl
  · show (s.world.step extractKeyFromUrl op).deletedImages = s.world.deletedImages
    rw [step_deletedImages extractKeyFromUrl hempty, hdel]
    exact List.append_nil _

include hempty h hsub in
theorem register_images_iff (dto : CreateRegisteredGameDto) (userId newId : Nat) :
    StoredImages extractKeyFromUrl
        (s.next extractKeyFromUrl (.request (.register dto userId newId))) ↔
      KeepsImages extractKeyFromUrl s.world (.request (.register dto userId newId)) := by
  cases hok : register s.world.db dto userId newId with
  | error e =>
    have hdb : s.world.db.commit (.register dto userId newId) = s.world.db := committed_error hok
    refine iff_of_true (request_keeps_images extractKeyFromUrl hempty h hsub (by rw [hdb]) rfl) ?_
    rintro ⟨p, hp⟩
    rw [hok] at hp
    cases hp
  | ok p =>
    obtain ⟨db', response⟩ := p
    obtain ⟨row, game, hnew, -, -, -, himage, hus⟩ := register_ok hok
    have hrows : (s.world.db.commit (.register dto userId newId)).registeredGames =
        s.world.db.registeredGames.save row := by
      rw [show s.world.db.commit (.register dto userId newId) = db' from committed_ok hok]
      exact applyRankUpdates_registeredGames hus
    have hothers : ∀ k, RefersTo extractKeyFromUrl s.world.db.registeredGames
        (fun o => o.id ≠ row.id) k ↔ k ∈ imageKeys extractKeyFromUrl s.world.db.registeredGames := by
      intro k
      refine ⟨fun hk => hk.mem extractKeyFromUrl, fun hk => ?_⟩
      obtain ⟨r, hr, hk⟩ := (mem_imageKeys extractKeyFromUrl).1 hk
      exact ⟨r, hr, hnew.id ▸ (hnew.fresh r hr).1, hk⟩
    rw [request_images_iff extractKeyFromUrl hempty h hsub, hrows]
    simp only [mem_imageKeys_save, hothers, himage]
    constructor
    · rintro ⟨hkept, -⟩ - k hk
      exact (hkept k (Or.inl hk)).1
    · intro hc
      refine ⟨fun k hk => ⟨?_, nofun⟩, fun k hk hgone => absurd (Or.inr hk) hgone⟩
      exact hk.elim (hc ⟨_, hok⟩ k) (h.kept k)

include hempty h hsub in
theorem update_images_iff (id : Nat) (dto : UpdateRegisteredGameInput) (userId : Nat) :
    StoredImages extractKeyFromUrl (s.next extractKeyFromUrl (.request (.update id dto userId))) ↔
      KeepsImages extractKeyFromUrl s.world (.request (.update id dto userId)) := by
  cases hok : update s.world.db id dto userId with
  | error e =>
    have hdb : s.world.db.commit (.update id dto userId) = s.world.db := committed_error hok
    have hdel : deletedBy extractKeyFromUrl s.world.db (.update id dto userId) = none := by
      unfold deletedBy
      dsimp only
      rw [hok]
    refine iff_of_true (request_keeps_images extractKeyFromUrl hempty h hsub (by rw [hdb]) hdel) ?_
    rintro ⟨p, hp⟩
    rw [hok] at hp
    cases hp
  | ok p =>
    obtain ⟨db', result⟩ := p
    obtain ⟨r, game, changed, hr, -, -, hedit, -, hteamCtx, himage, himageCtx, hus⟩ := update_ok hok
    have hrows : (s.world.db.commit (.update id dto userId)).registeredGames =
        s.world.db.registeredGames.save changed := by
      rw [show s.world.db.commit (.update id dto userId) = db' from committed_ok hok]
      exact applyRankUpdates_registeredGames hus
    have hdel : deletedBy extractKeyFromUrl s.world.db (.update id dto userId) =
        if r.cheeringTeam ≠ dto.cheeringTeamId ∧ some r.image ≠ dto.image then
          imageKey extractKeyFromUrl r.image else none := by
      unfold deletedBy
      dsimp only
      rw [hok]
      simp only [hteamCtx, himageCtx, Bool.and_eq_true, decide_eq_true_eq]
    have hold := mem_imageKeys_of_mem extractKeyFromUrl (Table.mem_of_find? hr)
    rw [request_images_iff extractKeyFromUrl hempty h hsub, hrows]
    simp only [mem_imageKeys_save, hedit.id, himage, hdel, hold]
    constructor
    · rintro ⟨hkept, hcleaned⟩ - r' hr'
      rw [hr] at hr'
      cases hr'
      refine ⟨fun k hk => (hkept k (Or.inl hk)).1, fun k hk => ?_⟩
      split
      · next hteam =>
        by_contra hgone
        have hdropped := hcleaned k (Or.inl hk) hgone
        rw [if_neg fun hc => hc.1 hteam] at hdropped
        cases hdropped
      · next hteam =>
        by_cases hsame : dto.image = some r.image
        · exact Or.inl hsame
        · refine Or.inr fun hstill => (hkept k hstill).2 ?_
          rw [if_pos ⟨hteam, Ne.symm hsame⟩]
          exact hk
    · intro hc
      obtain ⟨hnew, hchanged⟩ := hc ⟨_, hok⟩ r hr
      have hothers : ∀ k, RefersTo extractKeyFromUrl s.world.db.registeredGames
          (fun o => o.id ≠ r.id) k → k ∉ s.world.deletedImages := fun k hk =>
        h.kept k (hk.mem extractKeyFromUrl)
      refine ⟨fun k hk => ⟨hk.elim (hnew k) (hothers k), fun hdropped => ?_⟩, fun k hk hgone => ?_⟩
      · split at hdropped
        · next hboth =>
          have hcase := hchanged k hdropped
          rw [if_neg hboth.1] at hcase
          exact hcase.elim (fun hsame => hboth.2 hsame.symm) fun hnot => hnot hk
        · cases hdropped
      · have hk := hk.resolve_right fun ho => hgone (Or.inr ho)
        have hcase := hchanged k hk
        split at hcase
        · exact absurd hcase hgone
        · next hteam =>
          rcases hcase with hsame | -
          · rw [hsame] at hgone
            exact absurd (Or.inl hk) hgone
          · have hne : some r.image ≠ dto.image := by
              intro he
              rw [← he] at hgone
              exact hgone (Or.inl hk)
            rw [if_pos ⟨hteam, hne⟩]
            exact hk

include hempty h hsub in
theorem delete_images_iff (id userId : Nat) :
    StoredImages extractKeyFromUrl (s.next extractKeyFromUrl (.request (.delete id userId))) ↔
      KeepsImages extractKeyFromUrl s.world (.request (.delete id userId)) := by
  cases hok : delete s.world.db id userId with
  | error e =>
    have hdb : s.world.db.commit (.delete id userId) = s.world.db := committed_error hok
    have hdel : deletedBy extractKeyFromUrl s.world.db (.delete id userId) = none := by
      unfold deletedBy
      dsimp only
      rw [hok]
    refine iff_of_true (request_keeps_images extractKeyFromUrl hempty h hsub (by rw [hdb]) hdel) ?_
    rintro ⟨p, hp⟩
    rw [hok] at hp
    cases hp
  | ok p =>
    obtain ⟨db', result⟩ := p
    obtain ⟨r, game, hr, -, -, -, hprev, hus⟩ := delete_ok hok
    have hid : r.id = id := Table.find?_key hr
    have hrows : (s.world.db.commit (.delete id userId)).registeredGames =
        s.world.db.registeredGames.remove r.id := by
      rw [show s.world.db.commit (.delete id userId) = db' from committed_ok hok, hid]
      exact applyRankUpdates_registeredGames hus
    have hdel : deletedBy extractKeyFromUrl s.world.db (.delete id userId) =
        imageKey extractKeyFromUrl r.image := by
      unfold deletedBy
      dsimp only
      rw [hok]
      exact congrArg (imageKey extractKeyFromUrl) hprev
    rw [request_images_iff extractKeyFromUrl hempty h hsub, hrows, hdel]
    simp only [mem_imageKeys_remove]
    constructor
    · rintro ⟨hkept, -⟩ - r' hr' k hk hstill
      rw [hr] at hr'
      cases hr'
      exact (hkept k hstill).2 hk
    · intro hc
      refine ⟨fun k hk => ⟨?_, fun hdropped => hc ⟨_, hok⟩ r hr k hdropped hk⟩, fun k hk hgone => ?_⟩
      · exact h.kept k (hk.mem extractKeyFromUrl)
      · have hold := (mem_imageKeys_of_mem extractKeyFromUrl (Table.mem_of_find? hr) k).1 hk
        exact hold.resolve_right hgone

include hempty h hsub in
theorem deleteUser_images_iff (userId : Nat) :
    StoredImages extractKeyFromUrl (s.next extractKeyFromUrl (.request (.deleteUser userId))) ↔
      KeepsImages extractKeyFromUrl s.world (.request (.deleteUser userId)) := by
  cases hfind : s.world.db.users.find? userId with
  | none =>
    have hok : deleteUserRow s.world.db userId = .error .typeError := by
      unfold deleteUserRow loadUser
      rw [hfind]
      rfl
    have hdb : s.world.db.commit (.deleteUser userId) = s.world.db := committed_error hok
    have hdel : deletedBy extractKeyFromUrl s.world.db (.deleteUser userId) = none := by
      unfold deletedBy
      dsimp only
      rw [hok]
    refine iff_of_true (request_keeps_images extractKeyFromUrl hempty h hsub (by rw [hdb]) hdel) ?_
    intro user huser
    rw [hfind] at huser
    cases huser
  | some user =>
    have hid : user.id = userId := Table.find?_key hfind
    have hok : deleteUserRow s.world.db userId = .ok (s.world.db.removeUser userId,
        if user.profileImage ≠ DEFAULT_PROFILE_IMAGE then some user.profileImage else none) := by
      unfold deleteUserRow loadUser
      rw [hfind]
      rfl
    have hrows : (s.world.db.commit (.deleteUser userId)).registeredGames =
        s.world.db.registeredGames.reject fun r => r.user = user.id := by
      rw [show s.world.db.commit (.deleteUser userId) = s.world.db.removeUser userId from
        committed_ok hok, hid]
      rfl
    have hdel : deletedBy extractKeyFromUrl s.world.db (.deleteUser userId) =
        profileKey extractKeyFromUrl user := by
      unfold deletedBy profileKey
      dsimp only
      rw [hok]
      dsimp only
      split <;> rfl
    rw [request_images_iff extractKeyFromUrl hempty h hsub, hrows, hdel]
    simp only [mem_imageKeys_removeUser]
    constructor
    · rintro ⟨hkept, hcleaned⟩ user' huser'
      rw [hfind] at huser'
      cases huser'
      refine ⟨fun k hk hstill => (hkept k hstill).2 hk, fun r hr hu k hk => ?_⟩
      by_cases hstill :
          RefersTo extractKeyFromUrl s.world.db.registeredGames (fun o => o.user ≠ user.id) k
      · exact Or.inr hstill
      · exact Or.inl (hcleaned k ((mem_imageKeys extractKeyFromUrl).2 ⟨r, hr, hk⟩) hstill)
    · intro hc
      obtain ⟨hprofile, hremoved⟩ := hc user hfind
      refine ⟨fun k hk => ⟨?_, fun hdropped => hprofile k hdropped hk⟩, fun k hk hgone => ?_⟩
      · exact h.kept k (hk.mem extractKeyFromUrl)
      · obtain ⟨o, ho, hk⟩ := (mem_imageKeys extractKeyFromUrl).1 hk
        by_cases hu : o.user = user.id
        · exact (hremoved o ho hu k hk).resolve_right hgone
        · exact absurd ⟨o, ho, hu, hk⟩ hgone

/-- The image that is replaced, unless it is the default one or stays. -/
theorem updateUserProfileImage_prev {db db' : Db} {userId : Nat} {imageUrl : String}
    {prev : Option String} (hok : updateUserProfileImage db userId imageUrl = .ok (db', prev)) :
    ∃ user, db.users.find? userId = some user ∧
      prev = if user.profileImage ≠ imageUrl ∧ user.profileImage ≠ DEFAULT_PROFILE_IMAGE then
        some user.profileImage else none := by
  unfold updateUserProfileImage at hok
  obtain ⟨user, hload, hok⟩ := bind_eq_ok.1 hok
  obtain ⟨changed, -, hok⟩ := bind_eq_ok.1 hok
  obtain ⟨db1, -, hok⟩ := bind_eq_ok.1 hok
  cases hok
  exact ⟨user, loadUser_ok hload, rfl⟩

include hempty h hsub in
theorem updateImage_images_iff (userId : Nat) (value : String) (year pick : Nat) :
    StoredImages extractKeyFromUrl
        (s.next extractKeyFromUrl (.request (.updateUserProfile userId (.image value) year pick))) ↔
      KeepsImages extractKeyFromUrl s.world
        (.request (.updateUserProfile userId (.image value) year pick)) := by
  cases hok : updateUserProfileImage s.world.db userId value with
  | error e =>
    have hdb : s.world.db.commit (.updateUserProfile userId (.image value) year pick) =
        s.world.db := committed_error hok
    have hdel : deletedBy extractKeyFromUrl s.world.db
        (.updateUserProfile userId (.image value) year pick) = none := by
      unfold deletedBy
      dsimp only
      rw [hok]
    refine iff_of_true (request_keeps_images extractKeyFromUrl hempty h hsub (by rw [hdb]) hdel) ?_
    rintro ⟨p, hp⟩
    rw [hok] at hp
    cases hp
  | ok p =>
    obtain ⟨db', prev⟩ := p
    obtain ⟨user, hfind, hprev⟩ := updateUserProfileImage_prev hok
    have hrows : (s.world.db.commit
        (.updateUserProfile userId (.image value) year pick)).registeredGames =
        s.world.db.registeredGames := by
      rw [show s.world.db.commit (.updateUserProfile userId (.image value) year pick) = db' from
        committed_ok hok]
      obtain ⟨-, changed, -, -, rfl, -⟩ := updateUserProfileImage_ok hok
      rfl
    have hdel : deletedBy extractKeyFromUrl s.world.db
        (.updateUserProfile userId (.image value) year pick) =
        if value ≠ user.profileImage then profileKey extractKeyFromUrl user else none := by
      unfold deletedBy profileKey
      dsimp only
      rw [hok, hprev]
      dsimp only
      by_cases hsame : value = user.profileImage
      · rw [if_neg fun hc => hc.1 hsame.symm, if_neg (not_not.2 hsame)]
        rfl
      · by_cases hdefault : user.profileImage = DEFAULT_PROFILE_IMAGE
        · rw [if_neg fun hc => hc.2 hdefault, if_pos hsame, if_neg (not_not.2 hdefault)]
          rfl
        · rw [if_pos ⟨Ne.symm hsame, hdefault⟩, if_pos hsame, if_pos hdefault]
    rw [request_images_iff extractKeyFromUrl hempty h hsub, hrows, hdel]
    constructor
    · rintro ⟨hkept, -⟩ - user' huser' hnew k hk hstill
      rw [hfind] at huser'
      cases huser'
      refine (hkept k hstill).2 ?_
      rw [if_pos hnew]
      exact hk
    · intro hc
      refine ⟨fun k hk => ⟨h.kept k hk, fun hdropped => ?_⟩, fun k hk hgone => absurd hk hgone⟩
      split at hdropped
      · next hnew => exact hc ⟨_, hok⟩ user hfind hnew k hdropped hk
      · cases hdropped

/-! ## Histories -/

theorem insertRankIfAbsent_registeredGames {db db' : Db} {k : RankKey}
    (hok : insertRankIfAbsent db k = .ok db') : db'.registeredGames = db.registeredGames := by
  obtain ⟨rows, hw, -⟩ := insertRankIfAbsent_ok hok
  rw [hw.eq]
  rfl

theorem teamIdCommit_registeredGames (db : Db) (userId value year pick : Nat) :
    (teamIdCommit db userId value year pick).registeredGames = db.registeredGames := by
  unfold teamIdCommit
  cases hup : updateUserProfileTeamId db userId value with
  | error e => rfl
  | ok p =>
    obtain ⟨db1, prevTeamId⟩ := p
    obtain ⟨-, user, -, -, -, rfl, -⟩ := updateUserProfileTeamId_ok hup
    dsimp only
    split
    · rfl
    · next db2 hins =>
      have hinserted := insertRankIfAbsent_registeredGames hins
      split
      · exact ((deleteRank_keeps db2 prevTeamId userId pick).1).trans hinserted
      · exact hinserted

include hempty h hsub in
theorem next_images_iff (e : Event) :
    StoredImages extractKeyFromUrl (s.next extractKeyFromUrl e) ↔
      KeepsImages extractKeyFromUrl s.world e := by
  cases e with
  | outcomes f => exact iff_of_true (h.unchanged extractKeyFromUrl hsub rfl rfl rfl) trivial
  | newGame game =>
    refine iff_of_true (h.unchanged extractKeyFromUrl hsub rfl ?_ rfl) trivial
    show (s.world.db.insertGame game).registeredGames = s.world.db.registeredGames
    unfold Db.insertGame
    split
    · rfl
    · cases s.world.db.games.insert? game <;> rfl
  | request op =>
    cases op with
    | registerLocalUser dto env year =>
      refine iff_of_true (request_keeps_images extractKeyFromUrl hempty h hsub ?_ rfl) trivial
      refine committed_of (P := fun db => db.registeredGames = _) rfl fun db' user hok => ?_
      obtain ⟨db1, k, hs, hins, -⟩ := registerLocalUser_ok hok
      exact (insertRankIfAbsent_registeredGames hins).trans hs.registeredGames
    | loginSocialUser sub email provider pick env year =>
      refine iff_of_true (request_keeps_images extractKeyFromUrl hempty h hsub ?_ rfl) trivial
      refine committed_of (P := fun db => db.registeredGames = _) rfl fun db' p hok => ?_
      rcases loginSocialUser_ok hok with ⟨-, rfl⟩ | ⟨-, db1, k, hs, hins, -⟩
      · rfl
      · exact (insertRankIfAbsent_registeredGames hins).trans hs.registeredGames
    | register dto userId newId =>
      exact register_images_iff extractKeyFromUrl hempty h hsub dto userId newId
    | update id dto userId => exact update_images_iff extractKeyFromUrl hempty h hsub id dto userId
    | delete id userId => exact delete_images_iff extractKeyFromUrl hempty h hsub id userId
    | updateUserProfile userId input year pick =>
      cases input with
      | image value => exact updateImage_images_iff extractKeyFromUrl hempty h hsub userId value year pick
      | nickname value =>
        refine iff_of_true (request_keeps_images extractKeyFromUrl hempty h hsub ?_ rfl) trivial
        show (nicknameCommit s.world.db userId value).registeredGames = _
        unfold nicknameCommit
        cases hok : updateUserProfileNickname s.world.db userId value with
        | error e => rfl
        | ok db' =>
          obtain ⟨-, user, -, -, rfl, -⟩ := updateUserProfileNickname_ok hok
          rfl
      | teamId value =>
        refine iff_of_true (request_keeps_images extractKeyFromUrl hempty h hsub ?_ rfl) trivial
        exact teamIdCommit_registeredGames s.world.db userId value year pick
    | deleteUser userId => exact deleteUser_images_iff extractKeyFromUrl hempty h hsub userId

end

/-- **Stored images.**  The objects follow the rows throughout a history exactly when every
request of it meets its condition in the state it finds. -/
theorem stored_images_iff (extractKeyFromUrl : String → Option String)
    (hempty : extractKeyFromUrl "" = none) (teams : Table Team.id) (stadiums : Table Stadium.id)
    (games : Table GameRow.id) (terms : Table Term.id) (history : List Event) :
    Always (ImageRun.next extractKeyFromUrl) (StoredImages extractKeyFromUrl)
        (ImageRun.start teams stadiums games terms) history ↔
      Guarded (ImageRun.next extractKeyFromUrl)
        (fun s e => KeepsImages extractKeyFromUrl s.world e)
        (ImageRun.start teams stadiums games terms) history := by
  refine always_iff_guarded (I := fun s : ImageRun =>
      ∀ k ∈ imageKeys extractKeyFromUrl s.world.db.registeredGames, k ∈ s.referenced)
    (fun s e _ k hk => List.mem_append_right _ hk)
    (fun s e hsub h => next_images_iff extractKeyFromUrl hempty h hsub e) ?_ ⟨?_, ?_⟩ history
  · exact nofun
  · exact nofun
  · exact nofun

/-! ## A fan changes sides -/

/-- The path of the one URL below. -/
def imagePath (url : String) : Option String :=
  if url = "https://img.test/a.webp" then some "a.webp" else none

/-- A fan registers a game with a picture and then moves to the other team's side. -/
def sidesChanged : List Event :=
  [.request (.registerLocalUser ⟨"fan@test", "pw", "", "fan", 1⟩ ⟨1, "hash", fun _ => 0⟩ 2025),
   .request (.register ⟨some "https://img.test/a.webp", "A1", "good", "20250601HHLG0", 1⟩ 1 1),
   .request (.update 1 ⟨2, "A1", "good", none⟩ 1)]

theorem stored_images_iff_sidesChanged :
    Always (ImageRun.next imagePath) (StoredImages imagePath)
        (ImageRun.start twoTeams leagueDb.stadiums (Table.empty.save wonGame) .empty) sidesChanged ↔
      Guarded (ImageRun.next imagePath) (fun s e => KeepsImages imagePath s.world e)
        (ImageRun.start twoTeams leagueDb.stadiums (Table.empty.save wonGame) .empty) sidesChanged :=
  stored_images_iff imagePath (by decide) _ _ _ _ sidesChanged

/-- No two rows carry the same URL, and the picture is deleted while its row remains. -/
theorem picture_deleted :
    Always (ImageRun.next imagePath)
        (fun s => (s.world.db.registeredGames.rows.filterMap RegisteredGame.image).Nodup)
        (ImageRun.start twoTeams leagueDb.stadiums (Table.empty.save wonGame) .empty) sidesChanged ∧
      ¬ Always (ImageRun.next imagePath) (StoredImages imagePath)
        (ImageRun.start twoTeams leagueDb.stadiums (Table.empty.save wonGame) .empty)
        sidesChanged := by
  refine ⟨?_, fun h => ?_⟩
  · simp only [Always, sidesChanged]
    decide
  · exact h.last.kept "a.webp" (by decide) (by decide)

end VictoryFairy
