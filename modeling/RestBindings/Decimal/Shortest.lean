import RestBindings.Decimal.Double

/-! # The shortest decimal of a magnitude

A magnitude is written with the fewest digits that read back as the same magnitude, and of those
the nearest.  The numbers that read back form an interval between the midpoints to the two
neighbours; its ends belong to it when the mantissa is even.  On the grid of `n`-digit decimals only
the two neighbours of the number need to be tried.
-/
namespace RestBindings

/-- Digits `digits` with the decimal point moved by `exponent` places: `digits · 10^exponent`. -/
structure Decimal where
  digits : Nat
  exponent : Int
deriving DecidableEq, Repr

namespace Magnitude

/-- The number in units of `2^(exponent - 2)`, together with the two midpoints around it. -/
def quarterUnits (x : Magnitude) : Nat × Nat × Nat :=
  let m := 4 * x.mantissa
  let low := if x.mantissa = Nat.pow 2 52 ∧ x.exponent ≠ minExponent then m - 1 else m - 2
  (low, m, m + 2)

/-- `q` quarter units against `d · 10^k`, as two naturals to be compared. -/
def compared (x : Magnitude) (q d : Nat) (k : Int) : Nat × Nat :=
  let e := x.exponent - 2
  let (two, half) := if 0 ≤ e then (Nat.pow 2 e.toNat, 1) else (1, Nat.pow 2 (-e).toNat)
  let (ten, tenth) := if 0 ≤ k then (Nat.pow 10 k.toNat, 1) else (1, Nat.pow 10 (-k).toNat)
  (q * two * tenth, d * half * ten)

/-- A decimal that reads back as the magnitude. -/
def reads (x : Magnitude) (d : Nat) (k : Int) : Bool :=
  let (low, _, high) := x.quarterUnits
  let (lowLeft, lowRight) := x.compared low d k
  let (highLeft, highRight) := x.compared high d k
  if x.mantissa % 2 = 0 then lowLeft ≤ lowRight && highRight ≤ highLeft
  else lowLeft < lowRight && highRight < highLeft

/-- The decimal with unit `10^k` that reads back and is nearest, if there is one. -/
def onGrid? (x : Magnitude) (k : Int) : Option Decimal :=
  let (q, unit) := x.compared (4 * x.mantissa) 1 k
  let d := q / unit
  let r := q % unit
  match x.reads d k, x.reads (d + 1) k with
  | true, true => some ⟨if 2 * r < unit ∨ (2 * r = unit ∧ d % 2 = 0) then d else d + 1, k⟩
  | true, false => some ⟨d, k⟩
  | false, true => some ⟨d + 1, k⟩
  | false, false => none

/-- The exponent of the largest power of ten that is not above the number; the search goes down from
`place`. -/
def leadingPlace (x : Magnitude) : (fuel : Nat) → (place : Int) → Int
  | 0, place => place
  | fuel + 1, place =>
    let (q, unit) := x.compared (4 * x.mantissa) 1 place
    if unit ≤ q then place else x.leadingPlace fuel (place - 1)

/-- The shortest decimal that reads back.  The first grid is one place coarser than the leading
digit, because the number may lie just below a power of ten that reads back. -/
def shortest (x : Magnitude) : Decimal :=
  let place := x.leadingPlace 700 310
  ((List.range 18).findSome? fun (n : Nat) => x.onGrid? (place + 1 - n)).getD ⟨0, 0⟩

end Magnitude

/-- Positional notation up to sixteen places before the point and five zeros after it, one digit
before the point and an exponent beyond; a whole number keeps one zero after the point. -/
def Decimal.text (d : Decimal) : String :=
  let digits := Nat.toDigits 10 d.digits
  let count := digits.length
  let point : Int := count + d.exponent
  if 0 ≤ d.exponent ∧ point ≤ 16 then
    String.ofList (digits ++ List.replicate d.exponent.toNat '0' ++ ['.', '0'])
  else if 0 < point ∧ point ≤ 16 then
    String.ofList (digits.take point.toNat ++ '.' :: digits.drop point.toNat)
  else if -5 < point ∧ point ≤ 0 then
    String.ofList ('0' :: '.' :: List.replicate (-point).toNat '0' ++ digits)
  else
    let fraction := if count = 1 then [] else '.' :: digits.drop 1
    String.ofList (digits.take 1 ++ fraction) ++ "e" ++ toString (point - 1)

/-- The text of a magnitude. -/
def Magnitude.text (x : Magnitude) : String :=
  if x.mantissa = 0 then "0.0" else x.shortest.text

end RestBindings
