import RestBindings.Text.Split

/-! # TOML scalars

A word that is no text is a truth value, an integer, a float, or a date or time.  Digits may be
grouped by single underscores; a decimal integer has no leading zero.
-/
namespace RestBindings
namespace Toml

/-- Digits, grouped by single underscores. -/
def isDigits (isDigit : Char → Bool) (cs : List Char) : Bool :=
  (Text.splitOn (· == '_') cs).all fun group => !group.isEmpty && group.all isDigit

/-- A word without its sign. -/
def dropSign : List Char → List Char
  | '+' :: cs => cs
  | '-' :: cs => cs
  | cs => cs

/-- A decimal integer without a sign. -/
def isDecimal (cs : List Char) : Bool :=
  isDigits Char.isDigit cs && (cs == ['0'] || cs.head? != some '0')

/-- A digit of a base up to sixteen. -/
def isDigitOf (base : Nat) (c : Char) : Bool :=
  if c.isDigit then c.toNat - 0x30 < base
  else 10 < base && (('a' ≤ c && c ≤ 'f') || ('A' ≤ c && c ≤ 'F'))

/-- An integer: decimal with a sign or without, or with the mark of another base. -/
def isInteger (cs : List Char) : Bool :=
  match cs with
  | '0' :: 'x' :: digits => isDigits (isDigitOf 16) digits
  | '0' :: 'o' :: digits => isDigits (isDigitOf 8) digits
  | '0' :: 'b' :: digits => isDigits (isDigitOf 2) digits
  | _ => isDecimal (dropSign cs)

/-- The part of a float before its exponent. -/
def isMantissa (cs : List Char) : Bool :=
  match Text.splitOn (· == '.') cs with
  | [whole] => isDecimal whole
  | [whole, fraction] => isDecimal whole && isDigits Char.isDigit fraction
  | _ => false

/-- A float: an infinity, not a number, or a decimal with a fraction or an exponent. -/
def isFloat (cs : List Char) : Bool :=
  let cs := dropSign cs
  cs == ['i', 'n', 'f'] || cs == ['n', 'a', 'n'] ||
    match Text.splitOn (fun c => c == 'e' || c == 'E') cs with
    | [mantissa] => isMantissa mantissa
    | [mantissa, exponent] => isMantissa mantissa && isDigits Char.isDigit (dropSign exponent)
    | _ => false

/-- A number of a fixed count of digits within bounds. -/
def isCount (digits least most : Nat) (cs : List Char) : Bool :=
  cs.length == digits && cs.all Char.isDigit &&
    match (String.ofList cs).toNat? with
    | some n => least ≤ n && n ≤ most
    | none => false

/-- A date: year, month and day. -/
def isDate (cs : List Char) : Bool :=
  match Text.splitOn (· == '-') cs with
  | [year, month, day] => isCount 4 0 9999 year && isCount 2 1 12 month && isCount 2 1 31 day
  | _ => false

/-- The seconds of a time, with a fraction or without. -/
def isSeconds (cs : List Char) : Bool :=
  match Text.splitOn (· == '.') cs with
  | [whole] => isCount 2 0 60 whole
  | [whole, fraction] => isCount 2 0 60 whole && !fraction.isEmpty && fraction.all Char.isDigit
  | _ => false

/-- A time: hour and minute, and seconds or not. -/
def isTime (cs : List Char) : Bool :=
  match Text.splitOn (· == ':') cs with
  | [hour, minute] => isCount 2 0 23 hour && isCount 2 0 59 minute
  | [hour, minute, second] => isCount 2 0 23 hour && isCount 2 0 59 minute && isSeconds second
  | _ => false

/-- The distance from universal time. -/
def isOffset (cs : List Char) : Bool :=
  cs.isEmpty || cs == ['Z'] || cs == ['z'] ||
    match Text.splitOn (· == ':') (dropSign cs) with
    | [hour, minute] =>
      dropSign cs != cs && isCount 2 0 23 hour && isCount 2 0 59 minute
    | _ => false

/-- A date or a time, or both with a `T` or a space between them. -/
def isMoment (cs : List Char) : Bool :=
  isDate cs || isTime cs ||
    (isDate (cs.take 10) && ['T', 't', ' '].contains ((cs[10]?).getD '-') &&
      let time := (cs.drop 11).takeWhile fun c => c.isDigit || c == ':' || c == '.'
      isTime time && isOffset (cs.drop (11 + time.length)))

/-- A word that is no text. -/
def isScalar (cs : List Char) : Bool :=
  cs == ['t', 'r', 'u', 'e'] || cs == ['f', 'a', 'l', 's', 'e'] || isInteger cs || isFloat cs ||
    isMoment cs

end Toml
end RestBindings
