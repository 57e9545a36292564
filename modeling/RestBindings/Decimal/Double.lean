/-! # Double precision magnitudes

A **magnitude** is a non-negative number of the form `m · 2^e` with at most 53 bits in `m` and `e`
at least -1074, as IEEE double precision has them.  Everything is exact arithmetic on naturals:
`nearest` rounds a ratio once, half to even, and products and quotients round the exact result.
-/
namespace RestBindings

/-- The number `mantissa · 2^exponent`. -/
structure Magnitude where
  mantissa : Nat
  exponent : Int
deriving DecidableEq, Repr

namespace Magnitude

/-- The largest exponent of a finite magnitude. -/
def maxExponent : Int := 971

/-- The exponent of the smallest magnitudes. -/
def minExponent : Int := -1074

/-- A result too large to be finite. -/
def isInfinite (x : Magnitude) : Bool := maxExponent < x.exponent

/-- The number zero. -/
def zero : Magnitude := ⟨0, minExponent⟩

/-- `a / b` rounded to a natural, half to even. -/
def roundQuotient (a b : Nat) : Nat :=
  let q := a / b
  let r := a % b
  if 2 * r < b then q else if b < 2 * r then q + 1 else q + q % 2

/-- Numerator and denominator of `(a / b) · 2^n`. -/
def scaled (a b : Nat) (n : Int) : Nat × Nat :=
  if 0 ≤ n then (a <<< n.toNat, b) else (a, b <<< (-n).toNat)

/-- The magnitude nearest to `a / b`. -/
def nearest (a b : Nat) : Magnitude :=
  if a = 0 then zero
  else
    let guess : Int := (Nat.log2 a : Int) - Nat.log2 b
    let below := let (n, d) := scaled a b (-guess); n < d
    let exponent := max ((if below then guess - 1 else guess) - 52) minExponent
    let (n, d) := scaled a b (-exponent)
    let m := roundQuotient n d
    if m = Nat.pow 2 53 then ⟨Nat.pow 2 52, exponent + 1⟩ else ⟨m, exponent⟩

/-- The magnitude nearest to a natural. -/
def ofNat (n : Nat) : Magnitude := nearest n 1

/-- The magnitude nearest to the product. -/
def times (x y : Magnitude) : Magnitude :=
  let (n, d) := scaled (x.mantissa * y.mantissa) 1 (x.exponent + y.exponent)
  nearest n d

/-- The magnitude nearest to the quotient by a positive number. -/
def dividedBy (x y : Magnitude) : Magnitude :=
  let (n, d) := scaled x.mantissa y.mantissa (x.exponent - y.exponent)
  nearest n d

/-- The magnitude nearest to a power of ten. -/
def powerOfTen (n : Nat) : Magnitude := ofNat (Nat.pow 10 n)

/-- `significand · 10^exponent`, rounded after each of its steps: the significand, the power of ten,
and their product or quotient.  Powers of ten stop at 308, so a smaller exponent takes an extra
division, after two of which nothing is left.  `none` is a number too large. -/
def ofDecimal? (significand : Nat) (exponent : Int) : Option Magnitude :=
  let x := ofNat significand
  if 0 ≤ exponent then
    if significand = 0 then some zero
    else if exponent ≤ 308 then
      let y := x.times (powerOfTen exponent.toNat)
      if y.isInfinite then none else some y
    else none
  else if -308 ≤ exponent then some (x.dividedBy (powerOfTen (-exponent).toNat))
  else if -616 ≤ exponent then
    some ((x.dividedBy (powerOfTen 308)).dividedBy (powerOfTen (-exponent - 308).toNat))
  else some zero

end Magnitude
end RestBindings
