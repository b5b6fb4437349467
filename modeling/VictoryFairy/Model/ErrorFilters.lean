import VictoryFairy.Model.Credentials

/-!
# Exception filters

What a request answers when it rejects.  `DomainExceptionFilter` looks the code of a domain
error up in `DOMAIN_ERROR_HTTP_MAP`; `GlobalExceptionFilter` answers everything else.  Of an
internal error neither tells more than that there was one.

    AppError.responseBody : the body of the answer to an error
    World.errorResponse   : the body a request is answered with when it rejects

What a column does not take never gets to an error of the services: PostgreSQL rejects the first
statement that has it, and the answer is the bare internal one.  A request has values that fit.
-/

namespace VictoryFairy

namespace HttpStatus

def BAD_REQUEST : Nat := 400
def UNAUTHORIZED : Nat := 401
def NOT_FOUND : Nat := 404
def CONFLICT : Nat := 409
def INTERNAL_SERVER_ERROR : Nat := 500

end HttpStatus

open HttpStatus

/-- The keys are the codes.  `GameError.invalidPreGameWinner` has the same code for every game. -/
def DOMAIN_ERROR_HTTP_MAP : List (String × Nat) :=
  [(RegisteredGameError.userRequired.code, BAD_REQUEST),
   (RegisteredGameError.gameRequired.code, BAD_REQUEST),
   (RegisteredGameError.cheeringTeamRequired.code, BAD_REQUEST),
   (RegisteredGameError.seatRequired.code, BAD_REQUEST),
   (RegisteredGameError.reviewRequired.code, BAD_REQUEST),
   (RegisteredGameError.invalidCheeringTeam.code, BAD_REQUEST),
   (RegisteredGameError.alreadyRegistered.code, CONFLICT),
   (RegisteredGameError.notFound.code, NOT_FOUND),
   (RankError.recordNotFound.code, BAD_REQUEST),
   (RankError.invalidRecordDecrease.code, BAD_REQUEST),
   (RankError.invalidTeamId.code, BAD_REQUEST),
   (RankError.invalidUserId.code, BAD_REQUEST),
   (RankError.invalidActiveYear.code, BAD_REQUEST),
   (AccountError.userNotFound.code, BAD_REQUEST),
   (AccountError.emailAlreadyExists.code, CONFLICT),
   (AccountError.invalidCredentials.code, UNAUTHORIZED),
   (AccountError.nicknameAlreadyExists.code, CONFLICT),
   (AccountError.nicknameGenerationFailed.code, INTERNAL_SERVER_ERROR),
   (AccountError.notLocalAccount.code, BAD_REQUEST),
   (AccountError.invalidTeamId.code, BAD_REQUEST),
   (AccountError.emptyNickname.code, BAD_REQUEST),
   (AccountError.emptyProfileImage.code, BAD_REQUEST),
   (AccountError.alreadyRegistered.code, BAD_REQUEST),
   (AccountError.alreadyLinked.code, CONFLICT),
   (AccountError.noSocialLinkHistory.code, NOT_FOUND),
   (AccountError.socialPlatformNotFound.code, NOT_FOUND),
   (AccountError.primarySocialCannotUnlink.code, BAD_REQUEST),
   (AccountError.invalidSocialAuthData.code, BAD_REQUEST),
   (AccountError.invalidProvider.code, BAD_REQUEST),
   (AccountError.emptyTermId.code, INTERNAL_SERVER_ERROR),
   (GameError.notFound.code, NOT_FOUND),
   (GameError.sameHomeAwayTeam.code, BAD_REQUEST),
   ((GameError.invalidPreGameWinner "").code, BAD_REQUEST),
   (GameError.invalidFinishedGameNoWinner.code, BAD_REQUEST),
   (GameError.invalidFinishedGameHasWinner.code, BAD_REQUEST)]

/-- `STATUS_CODES` of Node's `http` module, for the statuses of the map. -/
def STATUS_CODES : List (Nat × String) :=
  [(BAD_REQUEST, "Bad Request"), (UNAUTHORIZED, "Unauthorized"), (NOT_FOUND, "Not Found"),
   (CONFLICT, "Conflict"), (INTERNAL_SERVER_ERROR, "Internal Server Error")]

structure ResponseBody where
  statusCode : Nat
  message : String
  error : Option String
deriving DecidableEq, Repr

/-- The answer of both filters to an internal error. -/
def internalServerError : ResponseBody :=
  ⟨INTERNAL_SERVER_ERROR, "Internal Server Error", some "Internal Server Error"⟩

/-- The status of a domain error. -/
def domainStatus (code : String) : Nat :=
  (DOMAIN_ERROR_HTTP_MAP.lookup code).getD INTERNAL_SERVER_ERROR

def domainExceptionFilter (code message : String) : ResponseBody :=
  let httpStatus := domainStatus code
  if httpStatus = INTERNAL_SERVER_ERROR then internalServerError
  else { statusCode := httpStatus, message, error := STATUS_CODES.lookup httpStatus }

/-- Nest's exception classes, under the name of their instances. -/
structure HttpException where
  status : Nat
  message : String
  name : String
deriving DecidableEq, Repr

/-- `none` is an exception of another class. -/
def globalExceptionFilter (exception : Option HttpException) : ResponseBody :=
  match exception with
  | none => internalServerError
  | some e =>
    if e.status = INTERNAL_SERVER_ERROR then internalServerError
    else { statusCode := e.status, message := e.message, error := some e.name }

/-- The class that is thrown with a status. -/
def exceptionName (status : Nat) : String :=
  if status = BAD_REQUEST then "BadRequestException"
  else if status = UNAUTHORIZED then "UnauthorizedException"
  else if status = NOT_FOUND then "NotFoundException"
  else if status = CONFLICT then "ConflictException"
  else "InternalServerErrorException"

def AppError.responseBody : AppError → ResponseBody
  | .rank e => domainExceptionFilter e.code e.message
  | .game e => domainExceptionFilter e.code e.message
  | .registeredGame e => domainExceptionFilter e.code e.message
  | .account e => domainExceptionFilter e.code e.message
  | .teamNotFound id =>
    globalExceptionFilter
      (some ⟨NOT_FOUND, "Team with id " ++ toString id ++ " is not found", "NotFoundException"⟩)
  | .http status message => globalExceptionFilter (some ⟨status, message, exceptionName status⟩)
  | .db _ => globalExceptionFilter none
  | .typeError => globalExceptionFilter none

/-! ## Requests -/

/-- A text for a unique column: its index takes 2704 bytes at most, and a character has up to
four. -/
def IsKey (s : String) : Prop := IsText s ∧ s.length ≤ 600

instance (s : String) : Decidable (IsKey s) := inferInstanceAs (Decidable (_ ∧ _))

/-- The columns take the values of a request: ids are in the range of `integer`, texts have no
U+0000, and the e-mail of a social account is a `varchar(100)`. -/
def AccountEvent.Fits : AccountEvent → Prop
  | .event (.request (.registerLocalUser dto _ _)) =>
    IsKey dto.email ∧ IsKey dto.nickname ∧ IsText dto.image ∧ IsInteger dto.teamId
  | .event (.request (.loginSocialUser sub email provider _ _ _)) =>
    IsKey sub ∧ IsText email ∧ email.length ≤ 100 ∧ IsText provider
  | .event (.request (.register dto _ _)) =>
    IsText dto.gameId ∧ IsInteger dto.cheeringTeamId ∧ IsText dto.seat ∧ IsText dto.review ∧
      ∀ image ∈ dto.image, IsText image
  | .event (.request (.update id dto _)) =>
    IsInteger id ∧ IsText dto.seat ∧ IsText dto.review ∧
      ∀ given ∈ dto.image, ∀ image ∈ given, IsText image
  | .event (.request (.delete id _)) => IsInteger id
  | .event (.request (.updateUserProfile _ (.image value) _ _)) => IsText value
  | .event (.request (.updateUserProfile _ (.nickname value) _ _)) => IsKey value
  | .linkSocial _ sub provider providerEmail =>
    IsKey sub ∧ IsText provider ∧ IsText providerEmail ∧ providerEmail.length ≤ 100
  | .changePassword email _ => IsText email
  | _ => True

abbrev FittingEvent := { e : AccountEvent // e.Fits }

namespace World

variable (extractKeyFromUrl : String → Option String)

/-- Whether a request returns, or what it rejects with. -/
def outcome (w : World) : Op → Except AppError Unit
  | .registerLocalUser dto env year =>
    (VictoryFairy.registerLocalUser w.db dto env year).map fun _ => ()
  | .loginSocialUser sub providerEmail provider pick env year =>
    (VictoryFairy.loginSocialUser w.db sub providerEmail provider pick env year).map fun _ => ()
  | .register dto userId newId => (VictoryFairy.register w.db dto userId newId).map fun _ => ()
  | .update id dto userId => (VictoryFairy.update w.db id dto userId).map fun _ => ()
  | .delete id userId => (VictoryFairy.delete w.db id userId).map fun _ => ()
  | .updateUserProfile userId input year pick =>
    (w.updateUserProfile extractKeyFromUrl userId input year pick).2
  | .deleteUser userId => (w.deleteUser extractKeyFromUrl userId).map fun _ => ()

/-- The same for the requests on credentials.  The games are changed by nobody's request. -/
def accountOutcome (w : World) : AccountEvent → Except AppError Unit
  | .event (.request op) => w.outcome extractKeyFromUrl op
  | .event (.outcomes _) => .ok ()
  | .event (.newGame _) => .ok ()
  | .linkSocial userId sub provider providerEmail =>
    (VictoryFairy.linkSocial w.db { sub, provider, userId, providerEmail, isPrimary := false }).map
      fun _ => ()
  | .unlinkSocial userId provider pick =>
    (VictoryFairy.unlinkSocial w.db userId provider pick).map fun _ => ()
  | .changePassword email hashed => (VictoryFairy.changePassword w.db email hashed).map fun _ => ()

def errorResponse (w : World) (e : FittingEvent) : Option ResponseBody :=
  match w.accountOutcome extractKeyFromUrl e with
  | .ok _ => none
  | .error error => some error.responseBody

end World

/-! ## What the filters tell -/

/-- Every code has an entry, and one only. -/
theorem DOMAIN_ERROR_HTTP_MAP_codes :
    (DOMAIN_ERROR_HTTP_MAP.map Prod.fst).Nodup ∧
      (∀ e : RankError, e.code ∈ DOMAIN_ERROR_HTTP_MAP.map Prod.fst) ∧
      (∀ e : GameError, e.code ∈ DOMAIN_ERROR_HTTP_MAP.map Prod.fst) ∧
      (∀ e : RegisteredGameError, e.code ∈ DOMAIN_ERROR_HTTP_MAP.map Prod.fst) ∧
      ∀ e : AccountError, e.code ∈ DOMAIN_ERROR_HTTP_MAP.map Prod.fst := by
  refine ⟨by decide +kernel, fun e => ?_, fun e => ?_, fun e => ?_, fun e => ?_⟩
  · cases e <;> decide +kernel
  · cases e with
    | invalidPreGameWinner id =>
      show "GAME_INVALID_PRE_GAME_WINNER" ∈ DOMAIN_ERROR_HTTP_MAP.map Prod.fst
      decide +kernel
    | _ => decide +kernel
  · cases e <;> decide +kernel
  · cases e <;> decide +kernel

theorem domainExceptionFilter_statusCode (code message : String) :
    (domainExceptionFilter code message).statusCode = domainStatus code := by
  unfold domainExceptionFilter
  dsimp only
  split
  · next h => exact h.symm
  · rfl

theorem globalExceptionFilter_statusCode (exception : Option HttpException) :
    (globalExceptionFilter exception).statusCode =
      exception.elim INTERNAL_SERVER_ERROR HttpException.status := by
  unfold globalExceptionFilter
  cases exception with
  | none => rfl
  | some e =>
    dsimp only
    split
    · next h => exact h.symm
    · rfl

namespace AppError

/-- The filters answer it with an internal server error. -/
def Internal (e : AppError) : Prop := e.responseBody = internalServerError

/-- The status alone says so: with this status nothing of the error is told. -/
theorem internal_iff {e : AppError} :
    e.Internal ↔ e.responseBody.statusCode = INTERNAL_SERVER_ERROR := by
  unfold Internal
  refine ⟨fun h => h ▸ rfl, fun h => ?_⟩
  have hdomain : ∀ code message : String, (domainExceptionFilter code message).statusCode =
      INTERNAL_SERVER_ERROR → domainExceptionFilter code message = internalServerError := by
    intro code message h
    rw [domainExceptionFilter_statusCode] at h
    exact if_pos h
  have hglobal : ∀ exception : Option HttpException,
      (globalExceptionFilter exception).statusCode = INTERNAL_SERVER_ERROR →
        globalExceptionFilter exception = internalServerError := by
    intro exception h
    rw [globalExceptionFilter_statusCode] at h
    cases exception with
    | none => rfl
    | some e => exact if_pos h
  cases e with
  | rank | game | registeredGame | account => exact hdomain _ _ h
  | db | teamNotFound | http | typeError => exact hglobal _ h

@[simp] theorem internal_rank (e : RankError) : ¬ (rank e).Internal := by
  rw [internal_iff]
  show ¬ (domainExceptionFilter e.code e.message).statusCode = INTERNAL_SERVER_ERROR
  rw [domainExceptionFilter_statusCode]
  cases e <;> decide +kernel

@[simp] theorem internal_game (e : GameError) : ¬ (game e).Internal := by
  rw [internal_iff]
  show ¬ (domainExceptionFilter e.code e.message).statusCode = INTERNAL_SERVER_ERROR
  rw [domainExceptionFilter_statusCode]
  cases e with
  | invalidPreGameWinner id =>
    show ¬ domainStatus "GAME_INVALID_PRE_GAME_WINNER" = INTERNAL_SERVER_ERROR
    decide +kernel
  | _ => decide +kernel

@[simp] theorem internal_registeredGame (e : RegisteredGameError) :
    ¬ (registeredGame e).Internal := by
  rw [internal_iff]
  show ¬ (domainExceptionFilter e.code e.message).statusCode = INTERNAL_SERVER_ERROR
  rw [domainExceptionFilter_statusCode]
  cases e <;> decide +kernel

/-- The two errors of an account that the map gives away to the server. -/
@[simp] theorem internal_account (e : AccountError) :
    (account e).Internal ↔ e = .nicknameGenerationFailed ∨ e = .emptyTermId := by
  rw [internal_iff]
  show (domainExceptionFilter e.code e.message).statusCode = INTERNAL_SERVER_ERROR ↔ _
  rw [domainExceptionFilter_statusCode]
  cases e <;> decide +kernel

@[simp] theorem internal_db (e : DbError) : (db e).Internal := rfl

@[simp] theorem internal_teamNotFound (id : Nat) : ¬ (teamNotFound id).Internal := by
  rw [internal_iff]
  show ¬ NOT_FOUND = INTERNAL_SERVER_ERROR
  decide

@[simp] theorem internal_http (status : Nat) (message : String) :
    (http status message).Internal ↔ status = INTERNAL_SERVER_ERROR := by
  rw [internal_iff]
  show (globalExceptionFilter _).statusCode = INTERNAL_SERVER_ERROR ↔ _
  rw [globalExceptionFilter_statusCode]
  rfl

@[simp] theorem internal_typeError : typeError.Internal := rfl

end AppError

end VictoryFairy
