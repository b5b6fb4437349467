import VictoryFairy.Proofs.SignUpCrashes

/-!
# Where the server answers 500

Most of what can go wrong has an error of its own, with its status; the rest is answered with
an internal server error.

    Unforeseen      : the requests that the services do not foresee
    answers_500_iff : in every state of a history, these are answered 500 and no others
-/

namespace VictoryFairy

open Runs Failures

/-! ## What a history keeps -/

/-- The stadium of a new game is stored. -/
def StadiumStored (stadiums : Table Stadium.id) : AccountEvent → Prop
  | .event (.newGame game) => (stadiums.find? game.stadium).isSome
  | _ => True

theorem nextAccount_stadiums (extractKeyFromUrl : String → Option String) (w : World)
    (e : AccountEvent) : (w.nextAccount extractKeyFromUrl e).db.stadiums = w.db.stadiums := by
  rcases nextAccount_cases extractKeyFromUrl w e with ⟨e, rfl⟩ | ⟨localAuths, socialAuths, hnext⟩
  · exact (next_league extractKeyFromUrl w e).2
  · rw [hnext]

section

variable {w : World} (h : ServingInv w) (extractKeyFromUrl : String → Option String)
include h

/-- Passwords and social accounts apart, the rows of now are those of before. -/
theorem ServingInv.credentials_changed {localAuths : Table LocalAuth.userId}
    {socialAuths : Table SocialAuth.key}
    (hcredentials : CredentialInv { w.db with localAuths, socialAuths }) :
    ServingInv { w with db := { w.db with localAuths, socialAuths } } where
  users user hm := (h.users user hm).congr rfl rfl
  credentials := hcredentials
  terms := h.terms
  games := h.games
  ledger := h.ledger.congr rfl rfl fun _ _ => rfl
  rows := h.rows
  ids := h.ids

theorem ServingInv.next (e : AccountEvent) (he : StadiumStored w.db.stadiums e) :
    ServingInv (w.nextAccount extractKeyFromUrl e) := by
  have hcredentials := (nextAccount_credentials extractKeyFromUrl w e).inv h.credentials
  have hterms := (nextAccount_keepsTerms extractKeyFromUrl w e).owners h.terms
  rcases nextAccount_cases extractKeyFromUrl w e with ⟨e, rfl⟩ | ⟨localAuths, socialAuths, hnext⟩
  · obtain ⟨hteams, hstadiums⟩ := next_league extractKeyFromUrl w e
    refine ⟨next_usersInv extractKeyFromUrl w e h.users, hcredentials, hterms, ?_,
      nextOrFail_ledgerInv extractKeyFromUrl w (.event e) h.ledger,
      next_takes extractKeyFromUrl h.rows e, next_idsCached extractKeyFromUrl e h.ids⟩
    show ∀ game ∈ (w.next extractKeyFromUrl e).db.games.rows,
      GameStored (w.next extractKeyFromUrl e).db.teams (w.next extractKeyFromUrl e).db.stadiums game
    rw [hteams, hstadiums]
    refine next_games extractKeyFromUrl (fun _ _ hgame => ⟨hgame.homeTeam, hgame.awayTeam, hgame.stadium⟩)
      h.games e fun game hnew hhome haway => ?_
    subst hnew
    exact ⟨hhome, haway, he⟩
  · rw [hnext] at hcredentials ⊢
    exact h.credentials_changed hcredentials

end

/-! ## Answers -/

/-- The requests that the services do not foresee: a sign-up or a profile with something that
another user has or that is not stored, a link to somebody else's social account, and a reset for
nobody.  Of registrations, deletions, unlinks, images and nicknames, with values that fit, there
is none. -/
def Unforeseen (db : Db) : AccountEvent → Prop
  | .event (.request (.registerLocalUser dto env _)) =>
    NoNickname db dto.nickname env.draw ∨ "" ∈ requiredTermIds db ∨ EmailTaken db dto.email ∨
      db.teams.find? (if dto.teamId = 0 then 1 else dto.teamId) = none
  | .event (.request (.loginSocialUser sub email provider _ env _)) =>
    NewSocialUser db sub email provider ∧ (NoFreeNickname db env.draw ∨
      SocialAuthValid email sub provider ∧ ("" ∈ requiredTermIds db ∨ db.teams.find? 1 = none))
  | .event (.request (.updateUserProfile _ (.teamId value) _ _)) =>
    (1 ≤ value ∧ value ≤ 10) ∧ db.teams.find? value = none
  | .linkSocial userId sub provider providerEmail =>
    SocialAuthValid providerEmail sub provider ∧
      ∃ auth, db.socialAuths.find? (sub, provider) = some auth ∧ auth.userId ≠ userId
  | .changePassword email _ => ¬ EmailTaken db email
  | _ => False

/-- A request of a user who is stored, with ids that no row has yet. -/
def Arrives (db : Db) : AccountEvent → Prop
  | .event (.request (.registerLocalUser _ env _)) => db.users.find? env.newId = none
  | .event (.request (.loginSocialUser _ _ _ _ env _)) => db.users.find? env.newId = none
  | .event (.request (.register _ userId newId)) =>
    (db.users.find? userId).isSome ∧ db.registeredGames.find? newId = none
  | .event (.request (.update _ _ userId)) => (db.users.find? userId).isSome
  | .event (.request (.delete _ userId)) => (db.users.find? userId).isSome
  | .event (.request (.updateUserProfile userId _ _ _)) => (db.users.find? userId).isSome
  | .event (.request (.deleteUser userId)) => (db.users.find? userId).isSome
  | .linkSocial userId _ _ _ => (db.users.find? userId).isSome
  | .unlinkSocial userId _ _ => (db.users.find? userId).isSome
  | _ => True

section

variable (extractKeyFromUrl : String → Option String)

theorem errorResponse_iff (w : World) (e : FittingEvent) :
    w.errorResponse extractKeyFromUrl e = some internalServerError ↔
      Crashes (w.accountOutcome extractKeyFromUrl e) := by
  unfold World.errorResponse
  cases w.accountOutcome extractKeyFromUrl e.1 with
  | ok a => exact iff_of_false nofun (fails_ok a)
  | error e =>
    refine Iff.trans ?_ fails_error.symm
    exact Option.some_inj

/-- One request, where the rows it relies on are there. -/
theorem ServingInv.answers {w : World} (h : ServingInv w) (e : FittingEvent)
    (he : Arrives w.db e) :
    w.errorResponse extractKeyFromUrl e = some internalServerError ↔ Unforeseen w.db e := by
  rw [errorResponse_iff]
  obtain ⟨e, hfits⟩ := e
  dsimp only at he ⊢
  cases e with
  | event e =>
    cases e with
    | request op =>
      cases op with
      | registerLocalUser dto env year => exact fails_map.trans (crashes_registerLocalUser h he)
      | loginSocialUser sub email provider pick env year =>
        exact fails_map.trans (crashes_loginSocialUser h he)
      | register dto userId newId =>
        exact fails_map.trans (iff_of_false (not_crashes_register h he.1 dto hfits.2.2 he.2) not_false)
      | update id dto userId =>
        exact fails_map.trans (iff_of_false (not_crashes_update h he id dto hfits.2) not_false)
      | delete id userId =>
        exact fails_map.trans (iff_of_false (not_crashes_delete h he id) not_false)
      | updateUserProfile userId input year pick =>
        cases input with
        | image value =>
          exact iff_of_false (not_crashes_updateImage h he extractKeyFromUrl value) not_false
        | nickname value => exact iff_of_false (not_crashes_updateNickname h he value) not_false
        | teamId value => exact crashes_updateTeamId h he value year pick
      | deleteUser userId =>
        exact fails_map.trans (iff_of_false (not_crashes_deleteUser he extractKeyFromUrl) not_false)
    | outcomes f => exact iff_of_false (fails_ok ()) not_false
    | newGame game => exact iff_of_false (fails_ok ()) not_false
  | linkSocial userId sub provider providerEmail =>
    exact fails_map.trans (crashes_linkSocial he sub provider providerEmail)
  | unlinkSocial userId provider pick =>
    exact fails_map.trans (iff_of_false (not_crashes_unlinkSocial he provider pick) not_false)
  | changePassword email hashed => exact fails_map.trans (crashes_changePassword email hashed)

/-- **Internal server errors.**  After every history from stored games, whose new games have a
stored stadium, a request with values that fit is answered with an internal server error exactly
when it is one that the services do not foresee. -/
theorem answers_500_iff (teams : Table Team.id) (stadiums : Table Stadium.id)
    (games : Table GameRow.id) (terms : Table Term.id)
    (hgames : ∀ game ∈ games.rows, GameStored teams stadiums game) (history : List AccountEvent)
    (hnew : ∀ e ∈ history, StadiumStored stadiums e) :
    Always (World.nextAccount extractKeyFromUrl)
      (fun w => ∀ e : FittingEvent, Arrives w.db e →
        (w.errorResponse extractKeyFromUrl e = some internalServerError ↔ Unforeseen w.db e))
      (World.start teams stadiums games terms) history := by
  have hstart : ServingInv (World.start teams stadiums games terms) := by
    refine ⟨?_, ⟨?_, ?_, ?_⟩, ?_, hgames, ⟨fun _ _ => rfl, ?_⟩, ?_, ?_⟩ <;> exact nofun
  have hrun : Always (World.nextAccount extractKeyFromUrl)
      (fun w => ServingInv w ∧ w.db.stadiums = stadiums)
      (World.start teams stadiums games terms) history := by
    refine always_of_guarded (C := fun _ e => StadiumStored stadiums e) (fun w e h he => ?_)
      ⟨hstart, rfl⟩ (guarded_of_forall hnew)
    obtain ⟨h, rfl⟩ := h
    exact ⟨h.next extractKeyFromUrl e he, nextAccount_stadiums extractKeyFromUrl w e⟩
  refine hrun.imp fun w h => ?_
  intro e he
  exact h.1.answers extractKeyFromUrl e he

end

/-- A fan signs up. -/
def oneFan : List AccountEvent :=
  [.event (.request (.registerLocalUser ⟨"fan@test", "pw", "", "fan", 1⟩ ⟨7, "hash", fun _ => 0⟩ 2025))]

/-- Another sign-up with the fan's e-mail. -/
def sameEmail : AccountEvent :=
  .event (.request (.registerLocalUser ⟨"fan@test", "other", "", "fairy", 2⟩ ⟨8, "hash", fun _ => 0⟩
    2025))

theorem sameEmail_fits : sameEmail.Fits := by
  show IsKey "fan@test" ∧ IsKey "fairy" ∧ IsText "" ∧ IsInteger 2
  decide

theorem answers_500_iff_sameEmail :
    (run (World.nextAccount some)
      (World.start twoTeams leagueDb.stadiums ⟨[wonGame], by decide⟩ .empty) oneFan).errorResponse
        some ⟨sameEmail, sameEmail_fits⟩ = some internalServerError := by
  have hstored : ∀ game ∈ [wonGame], GameStored twoTeams leagueDb.stadiums game := by
    intro game hgame
    obtain rfl := List.mem_singleton.1 hgame
    exact ⟨by decide, by decide, by decide⟩
  have hserved := (answers_500_iff some twoTeams leagueDb.stadiums ⟨[wonGame], by decide⟩ .empty
    hstored oneFan (List.forall_mem_singleton.2 trivial)).last
  have hfresh : (run (World.nextAccount some)
      (World.start twoTeams leagueDb.stadiums ⟨[wonGame], by decide⟩ .empty) oneFan).db.users.find? 8 =
        none := by decide
  refine (hserved ⟨sameEmail, sameEmail_fits⟩ hfresh).2 (Or.inr (Or.inr (Or.inl ?_)))
  exact ⟨⟨7, DEFAULT_PROFILE_IMAGE, "fan", "fan@test", 1⟩, by decide, rfl⟩

end VictoryFairy
