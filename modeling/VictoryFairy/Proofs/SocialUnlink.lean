import VictoryFairy.Proofs.Credentials

/-!
# An unlink after a link

A link is made for a provider and a sub, an unlink names the provider alone and takes the
first of its rows.  With another row of the provider the first one may be the wrong one:
the older link goes, or the primary row refuses.

    linkSocial_rows         : the rows after a link
    removeSocialAuth_only   : the only row of a provider is found in every order
    unlink_restores_iff     : the unlink takes the link back exactly when it is the only row
-/

namespace VictoryFairy

open Runs

/-- In whatever order the rows are loaded, an unlink leaves the user's rows as they were
before the link. -/
def UnlinkRestores (db db' : Db) (userId : Nat) (provider : String) : Prop :=
  ∀ loaded, loaded.Perm (db'.socialAuthsOf userId 0) →
    ∃ db'', unlinkLoaded db' userId loaded provider = .ok db'' ∧
      (db''.socialAuthsOf userId 0).Perm (db.socialAuthsOf userId 0)

/-! ## The rows -/

theorem mem_socialAuthsOf {db : Db} {userId pick : Nat} {a : SocialAuth} :
    a ∈ db.socialAuthsOf userId pick ↔ a ∈ db.socialAuths.rows ∧ a.userId = userId := by
  unfold Db.socialAuthsOf
  rw [List.mem_rotate, List.mem_filter, decide_eq_true_iff]

/-- The order `unlinkSocial` picks is one of the orders. -/
theorem unlinkSocial_eq (db : Db) (userId : Nat) (provider : String) (pick : Nat) :
    unlinkSocial db userId provider pick =
      unlinkLoaded db userId (db.socialAuthsOf userId pick) provider := by
  unfold unlinkSocial unlinkLoaded
  cases hload : loadUser db userId with
  | error e => rfl
  | ok user =>
    have hid : user.id = userId := Table.find?_key (loadUser_ok hload)
    rw [← hid]
    rfl

theorem socialAuthsOf_perm (db : Db) (userId pick : Nat) :
    (db.socialAuthsOf userId pick).Perm (db.socialAuthsOf userId 0) := by
  unfold Db.socialAuthsOf
  rw [List.rotate_zero]
  exact List.rotate_perm _ pick

/-- A link adds its row and nothing else. -/
theorem linkSocial_rows {db db' : Db} {data : CreateSocialAuthInput}
    (h : linkSocial db data = .ok db') {a : SocialAuth} :
    a ∈ db'.socialAuthsOf data.userId 0 ↔ a = data.row ∨ a ∈ db.socialAuthsOf data.userId 0 := by
  obtain ⟨-, -, hfresh, rfl⟩ := linkSocial_ok h
  rw [mem_socialAuthsOf, mem_socialAuthsOf]
  show a ∈ (db.socialAuths.save data.row).rows ∧ _ ↔ _
  rw [Table.rows_save_of_fresh (Table.find?_eq_none.1 hfresh), List.mem_append, List.mem_singleton]
  constructor
  · rintro ⟨hmem | rfl, hid⟩
    · exact Or.inr ⟨hmem, hid⟩
    · exact Or.inl rfl
  · rintro (rfl | ⟨hmem, hid⟩)
    · exact ⟨Or.inr rfl, rfl⟩
    · exact ⟨Or.inl hmem, hid⟩

/-! ## The first row of a provider -/

/-- The only row of a provider is found in every order. -/
theorem removeSocialAuth_only {loaded : List SocialAuth} {target : SocialAuth} (hmem : target ∈ loaded)
    (honly : ∀ a ∈ loaded, a.provider = target.provider → a = target)
    (hprimary : target.isPrimary = false) :
    User.removeSocialAuth loaded target.provider = .ok target := by
  have hfind : loaded.find? (fun a => a.provider = target.provider) = some target := by
    cases hfound : loaded.find? fun a => a.provider = target.provider with
    | none =>
      have hno := List.find?_eq_none.1 hfound target hmem
      simp at hno
    | some a =>
      have hprovider : a.provider = target.provider := by simpa using List.find?_some hfound
      rw [honly a (List.mem_of_find?_eq_some hfound) hprovider]
  unfold User.removeSocialAuth
  rw [if_neg (by simpa using List.ne_nil_of_mem hmem), hfind]
  simp [hprimary]

/-- A row of the provider that comes first is taken. -/
theorem removeSocialAuth_head {a target : SocialAuth} {rest : List SocialAuth}
    (h : User.removeSocialAuth (a :: rest) a.provider = .ok target) : target = a := by
  unfold User.removeSocialAuth at h
  simp only [List.isEmpty_cons, Bool.false_eq_true, if_false, List.find?_cons, decide_true] at h
  split at h
  · cases h
  · cases h; rfl

/-! ## The round trip -/

/-- The unlink takes the whole database back. -/
theorem unlink_link {db db' : Db} {data : CreateSocialAuthInput} (hlink : data.isPrimary = false)
    (h : linkSocial db data = .ok db')
    (hfirst : ∀ a ∈ db.socialAuthsOf data.userId 0, a.provider ≠ data.provider)
    {loaded : List SocialAuth} (hloaded : loaded.Perm (db'.socialAuthsOf data.userId 0)) :
    unlinkLoaded db' data.userId loaded data.provider = .ok db := by
  have htarget : User.removeSocialAuth loaded data.provider = .ok data.row := by
    show User.removeSocialAuth loaded data.row.provider = .ok data.row
    refine removeSocialAuth_only ?_ (fun a ha hprovider => ?_) hlink
    · exact hloaded.mem_iff.2 ((linkSocial_rows h).2 (Or.inl rfl))
    · rcases (linkSocial_rows h).1 (hloaded.mem_iff.1 ha) with rfl | hold
      · rfl
      · exact absurd hprovider (hfirst a hold)
  obtain ⟨huser, -, hfresh, rfl⟩ := linkSocial_ok h
  obtain ⟨user, hfind⟩ := Option.isSome_iff_exists.1 huser
  have hload : loadUser { db with socialAuths := db.socialAuths.save data.row } data.userId =
      .ok user := by
    unfold loadUser
    rw [hfind]
  unfold unlinkLoaded
  rw [hload, htarget]
  show Except.ok { db with
    socialAuths := (db.socialAuths.save data.row).remove data.row.key } = Except.ok db
  rw [Table.remove_save_of_fresh (Table.find?_eq_none.1 hfresh)]

/-- So does the order that `unlinkSocial` picks. -/
theorem unlinkSocial_link {db db' : Db} {data : CreateSocialAuthInput} (hlink : data.isPrimary = false)
    (h : linkSocial db data = .ok db')
    (hfirst : ∀ a ∈ db.socialAuthsOf data.userId 0, a.provider ≠ data.provider) (pick : Nat) :
    unlinkSocial db' data.userId data.provider pick = .ok db := by
  rw [unlinkSocial_eq]
  exact unlink_link hlink h hfirst (socialAuthsOf_perm db' data.userId pick)

/-- **Unlinking undoes linking.**  After a link that is not primary, an unlink of the provider
succeeds and leaves the user's rows as they were, in whatever order they are loaded, exactly
when the user had no row of the provider before. -/
theorem unlink_restores_iff {db db' : Db} {userId : Nat} {provider sub providerEmail : String}
    (h : linkSocial db ⟨sub, provider, userId, providerEmail, false⟩ = .ok db') :
    UnlinkRestores db db' userId provider ↔
      ∀ a ∈ db.socialAuths.rows, a.userId = userId → a.provider ≠ provider := by
  constructor
  · rintro hrestores a hmem rfl rfl
    have hold : a ∈ db.socialAuthsOf a.userId 0 := mem_socialAuthsOf.2 ⟨hmem, rfl⟩
    have hnew : a ∈ db'.socialAuthsOf a.userId 0 := (linkSocial_rows h).2 (Or.inr hold)
    -- the older row is the first one
    obtain ⟨db'', hunlink, hsame⟩ := hrestores _ (List.perm_cons_erase hnew).symm
    unfold unlinkLoaded at hunlink
    obtain ⟨user, -, hunlink⟩ := bind_eq_ok.1 hunlink
    obtain ⟨target, htarget, hunlink⟩ := bind_eq_ok.1 hunlink
    cases hunlink
    obtain rfl := removeSocialAuth_head htarget
    have hgone := (mem_socialAuthsOf.1 (hsame.mem_iff.2 hold)).1
    exact (Table.mem_remove.1 hgone).2 rfl
  · intro hfirst loaded hloaded
    refine ⟨db, unlink_link rfl h (fun a ha => ?_) hloaded, .refl _⟩
    obtain ⟨hmem, hid⟩ := mem_socialAuthsOf.1 ha
    exact hfirst a hmem hid

/-- A fan who signed up with a google account. -/
def googleDb : Db :=
  { leagueDb with socialAuths := Table.empty.save ⟨"google", "first", 7, "fan@test", true⟩ }

/-- The fan has linked another account. -/
def googleLinked (provider sub : String) : Db :=
  { googleDb with socialAuths := googleDb.socialAuths.save ⟨provider, sub, 7, "fan@test", false⟩ }

theorem unlink_restores_kakao :
    linkSocial googleDb ⟨"sub", "kakao", 7, "fan@test", false⟩ = .ok (googleLinked "kakao" "sub") ∧
      (UnlinkRestores googleDb (googleLinked "kakao" "sub") 7 "kakao" ↔
        ∀ a ∈ googleDb.socialAuths.rows, a.userId = 7 → a.provider ≠ "kakao") :=
  ⟨rfl, unlink_restores_iff (show linkSocial googleDb ⟨"sub", "kakao", 7, "fan@test", false⟩ =
    .ok (googleLinked "kakao" "sub") from rfl)⟩

/-- The second google account of the fan cannot be unlinked: the primary row comes first. -/
theorem unlink_second_account :
    ¬ ∀ (db db' : Db) (userId : Nat) (provider sub providerEmail : String),
      (∀ a ∈ db.socialAuths.rows, ¬ (a.provider = provider ∧ a.sub = sub)) →
      linkSocial db ⟨sub, provider, userId, providerEmail, false⟩ = .ok db' →
      UnlinkRestores db db' userId provider := by
  intro h
  have hrestores := h googleDb (googleLinked "google" "second") 7 "google" "second" "fan@test"
    (by decide) rfl
  obtain ⟨db'', hunlink, -⟩ := hrestores _ (.refl _)
  have hrefused : unlinkLoaded (googleLinked "google" "second") 7
      ((googleLinked "google" "second").socialAuthsOf 7 0) "google" =
      .error (.account .primarySocialCannotUnlink) := rfl
  rw [hrefused] at hunlink
  cases hunlink

end VictoryFairy
