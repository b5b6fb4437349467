import VictoryFairy.Model.Errors

/-!
# The `User` entity and its child tables
-/

namespace VictoryFairy

def DEFAULT_PROFILE_IMAGE : String :=
  "https://sngyo-image.s3.ap-northeast-2.amazonaws.com/fairyImg/0.webp"

/-- `SocialProvider` -/
def SocialProvider : List String := ["google", "apple", "kakao"]

structure User where
  id : Nat
  profileImage : String
  nickname : String
  email : String
  supportTeam : Nat
deriving DecidableEq, Repr

structure LocalAuth where
  userId : Nat
  password : String
deriving DecidableEq, Repr

structure SocialAuth where
  provider : String
  sub : String
  userId : Nat
  providerEmail : String
  isPrimary : Bool
deriving DecidableEq, Repr

/-- The columns of the unique constraint. -/
def SocialAuth.key (a : SocialAuth) : String × String := (a.sub, a.provider)

structure UserTerm where
  userId : Nat
  termId : String
deriving DecidableEq, Repr

def UserTerm.key (t : UserTerm) : Nat × String := (t.userId, t.termId)

/-- Characters that `String.prototype.trim` removes. -/
def isJsSpace (c : Char) : Bool :=
  let n := c.toNat
  (9 ≤ n && n ≤ 13) || n == 0x20 || n == 0xA0 || n == 0x1680 || (0x2000 ≤ n && n ≤ 0x200A) ||
    n == 0x2028 || n == 0x2029 || n == 0x202F || n == 0x205F || n == 0x3000 || n == 0xFEFF

/-- `s.trim() === ''` -/
def isBlank (s : String) : Bool := s.toList.all isJsSpace

/-- `User.generateRandomNickname` for the number drawn. -/
def generateRandomNickname (randomNum : Nat) : String :=
  let digits := toString randomNum
  "승리요정#" ++ String.ofList (List.replicate (4 - digits.length) '0') ++ digits

namespace User

/-- `agreeTerms`: the terms pushed for the ids not agreed to before.  The set of
agreed ids is fixed before the loop. -/
def agreeTerms (userId : Nat) (agreed termIds : List String) : Except AppError (List UserTerm) :=
  (termIds.filter fun id => !agreed.contains id).mapM fun termId =>
    if termId = "" then .error (.account .emptyTermId) else .ok { userId, termId }

def updateTeam (u : User) (teamId : Nat) : Except AppError User :=
  if teamId = 0 ∨ teamId > 10 then .error (.account .invalidTeamId)
  else .ok { u with supportTeam := teamId }

def updateNickname (u : User) (nickname : String) : Except AppError User :=
  if isBlank nickname then .error (.account .emptyNickname) else .ok { u with nickname }

def updateProfileImage (u : User) (imageUrl : String) : Except AppError User :=
  if isBlank imageUrl then .error (.account .emptyProfileImage)
  else .ok { u with profileImage := imageUrl }

/-- The row both factories build, with their defaults for image and team. -/
def build (id : Nat) (email image nickname : String) (teamId : Nat) : User :=
  { id, email, nickname, profileImage := if isBlank image then DEFAULT_PROFILE_IMAGE else image,
    supportTeam := if teamId = 0 then 1 else teamId }

end User

def SocialAuth.create (userId : Nat) (provider sub providerEmail : String) (isPrimary : Bool) :
    Except AppError SocialAuth :=
  if providerEmail = "" ∨ sub = "" ∨ provider = "" then .error (.account .invalidSocialAuthData)
  else if provider ∉ SocialProvider then .error (.account .invalidProvider)
  else .ok { provider, sub, userId, providerEmail, isPrimary }

end VictoryFairy
