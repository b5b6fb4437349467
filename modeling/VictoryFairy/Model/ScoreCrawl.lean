import VictoryFairy.Lib.Rounding
import VictoryFairy.Model.Schedule

/-!
# The crawled score

`getCurrentGameStatus` reads two pages of a running game.  A score is the inner text of an
element: `isNumber` accepts it when `+text` is finite, and `parseInt` reads it.

    Js.toNumber      : `+text`, over the numeric literals of ECMAScript
    Js.parseInt      : the longest run of digits
    isNumber         : the guard
    crawledScore     : `number | null`
-/

namespace VictoryFairy

namespace Js

/-! ## Numbers -/

/-- Both zeros are `finite 0`. -/
inductive Number where
  | nan
  | infinity (negative : Bool)
  | finite (value : ℚ)
deriving DecidableEq, Repr

def Number.isFinite : Number → Bool
  | .finite _ => true
  | _ => false

def double : Rounding.Format where
  precision := 53
  minExponent := -1074
  precision_pos := by norm_num
  minExponent_le := by norm_num

/-- The number nearest to `q`, or to `-q`. -/
def Number.round (negative : Bool) (q : ℚ) : Number :=
  if double.nearest q < 2 ^ 1024 then
    .finite (if negative then -double.nearest q else double.nearest q)
  else .infinity negative

/-! ## Digits -/

/-- The letters follow the ten digits. -/
def digitValue (c : Char) : Nat :=
  if c.isDigit then c.toNat - '0'.toNat
  else if c.isLower then 10 + (c.toNat - 'a'.toNat)
  else if c.isUpper then 10 + (c.toNat - 'A'.toNat)
  else 36

def isDigitOf (radix : Nat) (c : Char) : Bool := digitValue c < radix

def digitsValue (radix : Nat) (digits : List Char) : Nat :=
  digits.foldl (fun n c => radix * n + digitValue c) 0

/-- Whether there is a `-`, and what follows the sign. -/
def readSign : List Char → Bool × List Char
  | [] => (false, [])
  | c :: cs =>
    if c = '-' then (true, cs)
    else if c = '+' then (false, cs)
    else (false, c :: cs)

def prefixRadix (letter : Char) : Option Nat :=
  if letter = 'b' ∨ letter = 'B' then some 2
  else if letter = 'o' ∨ letter = 'O' then some 8
  else if letter = 'x' ∨ letter = 'X' then some 16
  else none

/-- The radix of `0b`, `0o` or `0x`, and what follows. -/
def readPrefix : List Char → Option (Nat × List Char)
  | zero :: letter :: digits =>
    if zero = '0' then (prefixRadix letter).map fun radix => (radix, digits) else none
  | _ => none

/-! ## `+text` -/

/-- `StringNumericLiteral` -/
inductive NumericLiteral where
  | blank
  | nonDecimal (radix : Nat) (digits : List Char)
  | infinity (negative : Bool)
  | decimal (negative : Bool) (int frac : List Char) (exponent : Int)
deriving DecidableEq, Repr

/-- The digits behind a point, and what follows them. -/
def readFraction : List Char → List Char × List Char
  | [] => ([], [])
  | c :: cs =>
    if c = '.' then (cs.takeWhile (isDigitOf 10), cs.dropWhile (isDigitOf 10)) else ([], c :: cs)

/-- `ExponentPart`, if anything is left. -/
def readExponent : List Char → Option Int
  | [] => some 0
  | c :: cs =>
    let digits := (readSign cs).2
    if (c = 'e' ∨ c = 'E') ∧ digits ≠ [] ∧ digits.all (isDigitOf 10) then
      some (if (readSign cs).1 then -(digitsValue 10 digits : Int) else digitsValue 10 digits)
    else none

/-- `StrUnsignedDecimalLiteral`: a digit at least, before or behind the point. -/
def readDecimal (negative : Bool) (cs : List Char) : Option NumericLiteral :=
  let int := cs.takeWhile (isDigitOf 10)
  let frac := (readFraction (cs.dropWhile (isDigitOf 10))).1
  let rest := (readFraction (cs.dropWhile (isDigitOf 10))).2
  if int = [] ∧ frac = [] then none
  else (readExponent rest).map (.decimal negative int frac)

/-- Only a decimal literal has a sign. -/
def readLiteral (cs : List Char) : Option NumericLiteral :=
  if cs = [] then some .blank
  else
    match readPrefix cs with
    | some (radix, digits) =>
      if digits ≠ [] ∧ digits.all (isDigitOf radix) then some (.nonDecimal radix digits) else none
    | none =>
      if (readSign cs).2 = "Infinity".toList then some (.infinity (readSign cs).1)
      else readDecimal (readSign cs).1 (readSign cs).2

def decimalValue (int frac : List Char) (exponent : Int) : ℚ :=
  digitsValue 10 (int ++ frac) * 10 ^ (exponent - frac.length)

def NumericLiteral.number : NumericLiteral → Number
  | .blank => .finite 0
  | .nonDecimal radix digits => .round false (digitsValue radix digits)
  | .infinity negative => .infinity negative
  | .decimal negative int frac exponent => .round negative (decimalValue int frac exponent)

def toNumber (s : String) : Number :=
  (readLiteral (trim s.toList)).elim .nan NumericLiteral.number

/-! ## `parseInt(text)` -/

/-- The radix is 16 behind `0x`. -/
def parseIntRadix (cs : List Char) : Nat × List Char :=
  match readPrefix cs with
  | some (radix, digits) => if radix = 16 then (16, digits) else (10, cs)
  | none => (10, cs)

/-- What follows the digits is ignored. -/
def readInteger (cs : List Char) : Number :=
  let negative := (readSign cs).1
  let radix := (parseIntRadix (readSign cs).2).1
  let digits := (parseIntRadix (readSign cs).2).2.takeWhile (isDigitOf radix)
  if digits = [] then .nan else .round negative (digitsValue radix digits)

def parseInt (s : String) : Number := readInteger (trimStart s.toList)

/-- `Math.trunc` -/
def trunc (q : ℚ) : Int := if 0 ≤ q then ⌊q⌋ else ⌈q⌉

end Js

/-! ## `isNumber` -/

/-- The loop ends at the first character that is not one of the four blanks.  Of a string:
nothing else is passed here. -/
def isNumber (num : String) : Bool :=
  num.toList.any (fun c => c.toNat ≠ 32 ∧ c.toNat ≠ 13 ∧ c.toNat ≠ 10 ∧ c.toNat ≠ 9) &&
    (Js.toNumber num).isFinite

/-! ## `getCurrentGameStatus` -/

/-- `element && isNumber(element.innerText) ? parseInt(element.innerText) : null` -/
def crawledScore (innerText : Option String) : Option Js.Number :=
  match innerText with
  | some text => if isNumber text then some (Js.parseInt text) else none
  | none => none

/-- What the parser finds on the page of the score: the inner texts of `.teamHome em` and
`.teamAway em`. -/
structure ScorePage where
  homeScoreElement : Option String
  awayScoreElement : Option String

/-- The inner text of `span.date`. -/
structure StatusPage where
  statusElement : Option String

structure CrawledGameStatus where
  homeScore : Option Js.Number
  awayScore : Option Js.Number
  status : Option String
deriving DecidableEq

def isLineTerminator (c : Char) : Bool :=
  c = '\n' || c = '\r' || c.toNat = 0x2028 || c.toNat = 0x2029

/-- `/\[(.*?)\]/` -/
def matchBrackets : List Char → Option (List Char)
  | [] => none
  | c :: cs =>
    let inside := cs.takeWhile (· ≠ ']')
    if c = '[' ∧ ']' ∈ cs ∧ !inside.any isLineTerminator then some inside else matchBrackets cs

def extractScore (page : ScorePage) : Option Js.Number × Option Js.Number :=
  (crawledScore page.homeScoreElement, crawledScore page.awayScoreElement)

def extractStatus (page : StatusPage) : Option String :=
  page.statusElement.bind fun text => (matchBrackets text.toList).map String.ofList

/-- A request that was rejected has no page. -/
def getCurrentGameStatus (scoreRes : Option ScorePage) (statusRes : Option StatusPage) :
    CrawledGameStatus :=
  match scoreRes, statusRes with
  | some score, some status =>
    { homeScore := (extractScore score).1
      awayScore := (extractScore score).2
      status := extractStatus status }
  | _, _ => { homeScore := none, awayScore := none, status := none }

end VictoryFairy
