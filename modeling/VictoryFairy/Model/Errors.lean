import Mathlib.Data.List.Nodup

/-!
# Errors of the application

One inductive type for each `*_ERROR_CODE` table of the source, with the code
and the default message of each error class; `AppError` is what a request can
reject with, the errors of the database and of a property read on `null`
included.
-/

namespace VictoryFairy

/-- `rank.error.ts` -/
inductive RankError where
  | recordNotFound
  | invalidRecordDecrease
  | invalidTeamId
  | invalidUserId
  | invalidActiveYear
deriving DecidableEq, Repr

def RankError.code : RankError → String
  | .recordNotFound => "RANK_RECORD_NOT_FOUND"
  | .invalidRecordDecrease => "RANK_INVALID_RECORD_DECREASE"
  | .invalidTeamId => "RANK_INVALID_TEAM_ID"
  | .invalidUserId => "RANK_INVALID_USER_ID"
  | .invalidActiveYear => "RANK_INVALID_ACTIVE_YEAR"

def RankError.message : RankError → String
  | .recordNotFound => "제거하려는 랭킹 기록이 존재하지 않습니다"
  | .invalidRecordDecrease => "유효하지 않은 요청입니다"
  | .invalidTeamId => "유효하지 않은 팀 ID입니다"
  | .invalidUserId => "유효하지 않은 유저 ID입니다"
  | .invalidActiveYear => "유효하지 않은 활성 연도입니다"

/-- `game.error.ts` -/
inductive GameError where
  | notFound
  | sameHomeAwayTeam
  /-- thrown with the id of the game in its text -/
  | invalidPreGameWinner (id : String)
  | invalidFinishedGameNoWinner
  | invalidFinishedGameHasWinner
deriving DecidableEq, Repr

def GameError.code : GameError → String
  | .notFound => "GAME_NOT_FOUND"
  | .sameHomeAwayTeam => "GAME_SAME_HOME_AWAY_TEAM"
  | .invalidPreGameWinner _ => "GAME_INVALID_PRE_GAME_WINNER"
  | .invalidFinishedGameNoWinner => "GAME_INVALID_FINISHED_GAME_NO_WINNER"
  | .invalidFinishedGameHasWinner => "GAME_INVALID_FINISHED_GAME_HAS_WINNER"

def GameError.message : GameError → String
  | .notFound => "해당 경기를 찾을 수 없습니다"
  | .sameHomeAwayTeam => "홈 팀과 원정 팀은 같을 수 없습니다"
  | .invalidPreGameWinner id =>
    "경기 전 상태에서는 승리 팀이 반드시 없어야 합니다. " ++ id ++ " [object Object]"
  | .invalidFinishedGameNoWinner => "경기 종료 상태이고 동점이 아니면 승리 팀이 반드시 존재해야 합니다"
  | .invalidFinishedGameHasWinner => "경기 종료 상태이고 동점이면 승리 팀이 반드시 없어야 합니다"

/-- `registered-game.error.ts` -/
inductive RegisteredGameError where
  | userRequired
  | gameRequired
  | cheeringTeamRequired
  | seatRequired
  | reviewRequired
  | invalidCheeringTeam
  | alreadyRegistered
  | notFound
deriving DecidableEq, Repr

def RegisteredGameError.code : RegisteredGameError → String
  | .userRequired => "USER_REQUIRED"
  | .gameRequired => "GAME_REQUIRED"
  | .cheeringTeamRequired => "CHEERING_TEAM_REQUIRED"
  | .seatRequired => "SEAT_REQUIRED"
  | .reviewRequired => "REVIEW_REQUIRED"
  | .invalidCheeringTeam => "INVALID_CHEERING_TEAM"
  | .alreadyRegistered => "ALREADY_REGISTERED"
  | .notFound => "REGISTERED_GAME_NOT_FOUND"

def RegisteredGameError.message : RegisteredGameError → String
  | .userRequired => "유저 정보가 필요합니다"
  | .gameRequired => "경기 정보가 필요합니다"
  | .cheeringTeamRequired => "응원팀 정보가 필요합니다"
  | .seatRequired => "좌석 정보가 필요합니다"
  | .reviewRequired => "리뷰 정보가 필요합니다"
  | .invalidCheeringTeam => "응원팀은 해당 경기의 홈팀 또는 원정팀이어야 합니다"
  | .alreadyRegistered => "이미 등록된 경기입니다"
  | .notFound => "직관 경기를 찾을 수 없습니다"

/-- `account.error.ts` -/
inductive AccountError where
  | userNotFound
  | emailAlreadyExists
  | invalidCredentials
  | nicknameAlreadyExists
  | nicknameGenerationFailed
  | notLocalAccount
  | invalidTeamId
  | emptyNickname
  | emptyProfileImage
  | alreadyRegistered
  | alreadyLinked
  | noSocialLinkHistory
  | socialPlatformNotFound
  | primarySocialCannotUnlink
  | invalidSocialAuthData
  | invalidProvider
  | emptyTermId
deriving DecidableEq, Repr

def AccountError.code : AccountError → String
  | .userNotFound => "ACCOUNT_USER_NOT_FOUND"
  | .emailAlreadyExists => "ACCOUNT_EMAIL_ALREADY_EXISTS"
  | .invalidCredentials => "ACCOUNT_INVALID_CREDENTIALS"
  | .nicknameAlreadyExists => "ACCOUNT_NICKNAME_ALREADY_EXISTS"
  | .nicknameGenerationFailed => "ACCOUNT_NICKNAME_GENERATION_FAILED"
  | .notLocalAccount => "ACCOUNT_NOT_LOCAL_ACCOUNT"
  | .invalidTeamId => "ACCOUNT_INVALID_TEAM_ID"
  | .emptyNickname => "ACCOUNT_EMPTY_NICKNAME"
  | .emptyProfileImage => "ACCOUNT_EMPTY_PROFILE_IMAGE"
  | .alreadyRegistered => "ACCOUNT_ALREADY_REGISTERED"
  | .alreadyLinked => "ACCOUNT_ALREADY_LINKED"
  | .noSocialLinkHistory => "ACCOUNT_NO_SOCIAL_LINK_HISTORY"
  | .socialPlatformNotFound => "ACCOUNT_NOT_FOUND_SOCIAL_PLATFORM"
  | .primarySocialCannotUnlink => "ACCOUNT_PRIMARY_SOCIAL_CANNOT_UNLINK"
  | .invalidSocialAuthData => "ACCOUNT_INVALID_SOCIAL_AUTH_DATA"
  | .invalidProvider => "ACCOUNT_INVALID_PROVIDER"
  | .emptyTermId => "ACCOUNT_EMPTY_TERM_ID"

def AccountError.message : AccountError → String
  | .userNotFound => "존재하지 않는 유저입니다"
  | .emailAlreadyExists => "이미 가입된 이메일입니다"
  | .invalidCredentials => "이메일 또는 비밀번호가 틀렸습니다"
  | .nicknameAlreadyExists => "이미 존재하는 닉네임입니다"
  | .nicknameGenerationFailed => "닉네임 생성 실패"
  | .notLocalAccount => "로컬 계정이 아닙니다"
  | .invalidTeamId => "유효하지 않은 팀 ID입니다"
  | .emptyNickname => "닉네임이 비어있습니다"
  | .emptyProfileImage => "업데이트할 프로필 이미지가 비어있습니다"
  | .alreadyRegistered => "해당 아이디는 이미 가입되어 있습니다"
  | .alreadyLinked => "이미 연동된 계정입니다"
  | .noSocialLinkHistory => "소셜 계정 연동 내역이 없습니다"
  | .socialPlatformNotFound => "해당 플랫폼으로 연동된 계정이 없습니다"
  | .primarySocialCannotUnlink => "첫 가입 플랫폼은 연동 해제 불가능합니다"
  | .invalidSocialAuthData => "SocialAuth create error"
  | .invalidProvider => "소셜 로그인 제공하는 플랫폼이 아닙니다"
  | .emptyTermId => "약관 아이디가 없습니다"

/-- What PostgreSQL rejects a statement with. -/
inductive DbError where
  | uniqueViolation
  | notNullViolation
  | foreignKeyViolation
  | invalidTextRepresentation
  | numericValueOutOfRange
  | characterNotInRepertoire
  | syntaxError
deriving DecidableEq, Repr

inductive AppError where
  | rank (e : RankError)
  | game (e : GameError)
  | registeredGame (e : RegisteredGameError)
  | account (e : AccountError)
  | db (e : DbError)
  /-- `NotFoundException` of `TeamCoreService.findOne` -/
  | teamNotFound (id : Nat)
  /-- `NotFoundException` / `InternalServerErrorException` with its text -/
  | http (status : Nat) (message : String)
  /-- a property of `null` or `undefined` was read -/
  | typeError
deriving DecidableEq, Repr

/-! ## Columns -/

/-- A text column has no character U+0000. -/
def IsText (s : String) : Prop := '\x00' ∉ s.toList

instance (s : String) : Decidable (IsText s) := inferInstanceAs (Decidable (_ ∉ _))

/-- The range of an `integer` column. -/
def IsInteger (n : Int) : Prop := -2147483648 ≤ n ∧ n ≤ 2147483647

instance (n : Int) : Decidable (IsInteger n) := inferInstanceAs (Decidable (_ ∧ _))

/-! ## Codes -/

/-- Over an enumeration, texts without a duplicate. -/
theorem injective_of_nodup {α : Type} {code : α → String} {l : List α} (hall : ∀ e, e ∈ l)
    (h : (l.map code).Nodup) : Function.Injective code := by
  intro a b he
  exact List.inj_on_of_nodup_map h (hall a) (hall b) he

/-- Error codes of one table are pairwise different, so a code names its error
(the game id in one message apart). -/
theorem RankError.code_injective : Function.Injective RankError.code := by
  have hall : ∀ e : RankError, e ∈ (List.range 5).map RankError.ofNat := by
    intro e
    cases e <;> decide
  exact injective_of_nodup hall (by decide +kernel)

theorem RegisteredGameError.code_injective : Function.Injective RegisteredGameError.code := by
  have hall : ∀ e : RegisteredGameError, e ∈ (List.range 8).map RegisteredGameError.ofNat := by
    intro e
    cases e <;> decide
  exact injective_of_nodup hall (by decide +kernel)

theorem AccountError.code_injective : Function.Injective AccountError.code := by
  have hall : ∀ e : AccountError, e ∈ (List.range 17).map AccountError.ofNat := by
    intro e
    cases e <;> decide
  exact injective_of_nodup hall (by decide +kernel)

end VictoryFairy
