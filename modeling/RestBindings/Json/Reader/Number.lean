import RestBindings.Json.Reader.Basic

/-! # Reading numbers

A number has a whole part without leading zeros, and may have a fraction and an exponent.  Its
digits are gathered in a significand below `2^64`; once the next digit does not fit, the rest of the
part is only counted.  A number without fraction and exponent whose digits all fit is an integer;
any other is the significand times a power of ten in double precision.  `skipNumber` checks the form
alone.
-/
namespace RestBindings
namespace Json
namespace Reader

/-- The value of a decimal digit. -/
def digitValue (c : Char) : Nat := c.toNat - 0x30

/-- Gather digits into a significand while they fit; the digits that did not fit are counted. -/
def gather (significand : Nat) : List Char → Nat × Nat
  | [] => (significand, 0)
  | c :: rest =>
    let larger := 10 * significand + digitValue c
    if larger < Nat.pow 2 64 then gather larger rest else (significand, (c :: rest).length)

/-- The whole part: a zero, or digits that do not start with a zero. -/
def wholeDigits : Reader (List Char) := do
  match ← next with
  | none => stop .endInValue 0
  | some '0' =>
    take
    match ← next with
    | some c => if c.isDigit then stop .invalidNumber 1 else pure ['0']
    | none => pure ['0']
  | some c => if c.isDigit then takeDigits else stop .invalidNumber 1

/-- At least one digit, in a fraction or an exponent. -/
def someDigits : Reader (List Char) := do
  match ← takeDigits with
  | [] =>
    match ← next with
    | none => stop .endInValue 0
    | some _ => stop .invalidNumber 1
  | digits => pure digits

/-- The fraction after a point, if there is a point. -/
def fraction? : Reader (Option (List Char)) := do
  match ← next with
  | some '.' => take; some <$> someDigits
  | _ => pure none

/-- The letter before an exponent. -/
def isExponentMark (c : Char) : Bool := c == 'e' || c == 'E'

/-- Take a sign; the answer is whether it is a minus. -/
def takeSign : Reader Bool := do
  match ← next with
  | some '+' => take; pure false
  | some '-' => take; pure true
  | _ => pure false

/-- The value of digits, or the digits after the first that takes the value beyond `2^31`. -/
def exponentValue (value : Nat) : List Char → Except (List Char) Nat
  | [] => .ok value
  | c :: rest =>
    let larger := 10 * value + digitValue c
    if larger < Nat.pow 2 31 then exponentValue larger rest else .error rest

/-- An exponent: absent, a number, or one so far below zero (or on a significand that is zero) that
the whole number is zero. -/
inductive Exponent where
  | absent
  | value (n : Int)
  | vanishing

/-- The exponent of a number; one that is too large is refused at the digit that makes it so. -/
def exponent (isZero : Bool) : Reader Exponent := do
  match ← next with
  | none => pure .absent
  | some c =>
    if isExponentMark c then
      take
      let isNegative ← takeSign
      let digits ← someDigits
      match exponentValue 0 digits with
      | .ok n => pure (.value (if isNegative then -n else n))
      | .error unread =>
        if isZero || isNegative then pure .vanishing
        else fun left => stop .numberOutOfRange 0 (unread ++ left)
    else pure .absent

/-- A significand times a power of ten, or a refusal if that is too large. -/
def real (isNegative : Bool) (significand : Nat) (exponent : Int) : Reader Number :=
  match Magnitude.ofDecimal? significand exponent with
  | some magnitude => pure (.real isNegative magnitude)
  | none => stop .numberOutOfRange 0

/-- A number without fraction and exponent whose digits fit the significand. -/
def integer (isNegative : Bool) (n : Nat) : Number :=
  if !isNegative then .natural n
  else if n = 0 ∨ Nat.pow 2 63 < n then .real true (.ofNat n)
  else .negative n

/-- Read a number after its sign. -/
def number (isNegative : Bool) : Reader Number := do
  let whole ← wholeDigits
  let fraction ← fraction?
  let (head, beyond) := gather 0 whole
  let (significand, uncounted) := gather head (fraction.getD [])
  let shift : Int := beyond - ((fraction.getD []).length - uncounted : Nat)
  match ← exponent (significand == 0) with
  | .value n => real isNegative significand (shift + n)
  | .vanishing => pure (.real isNegative .zero)
  | .absent =>
    if fraction.isNone && beyond == 0 then pure (integer isNegative head)
    else real isNegative significand shift

/-- At least one digit, where the end of the text is no better than another character. -/
def skipSomeDigits : Reader Unit := do
  match ← takeDigits with
  | [] => stop .invalidNumber 1
  | _ => pure ()

/-- Skip a number after its sign. -/
def skipNumber : Reader Unit := do
  match ← next with
  | some '0' =>
    take
    match ← next with
    | some c => if c.isDigit then stop .invalidNumber 1 else pure ()
    | none => pure ()
  | _ => skipSomeDigits
  match ← next with
  | some '.' => take; skipSomeDigits
  | _ => pure ()
  match ← next with
  | some c =>
    if isExponentMark c then
      take
      let _ ← takeSign
      skipSomeDigits
    else pure ()
  | none => pure ()

end Reader
end Json
end RestBindings
