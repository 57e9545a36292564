/-! # Sets and maps of code points

Properties of characters are tables of the Unicode standard.  A set is a list of inclusive ranges
(`Ranges.holds`), a case mapping a list of runs whose members all move by one distance
(`CaseRun.image?`).  Both are searched from the front, by structural recursion, so that a look-up
evaluates inside a proof.
-/
namespace RestBindings
namespace Text

/-- A set of code points, given as inclusive ranges. -/
abbrev Ranges := List (Nat × Nat)

/-- Membership in a set of code points. -/
def Ranges.holds (ranges : Ranges) (n : Nat) : Bool :=
  ranges.any fun r => r.1 ≤ n && n ≤ r.2

theorem Ranges.holds_iff {ranges : Ranges} {n : Nat} :
    ranges.holds n = true ↔ ∃ r ∈ ranges, r.1 ≤ n ∧ n ≤ r.2 := by
  simp [Ranges.holds]

/-- Every `step`-th code point from `first` to `last`, mapped in order to every `step`-th code
point from `target` on. -/
structure CaseRun where
  /-- The first code point of the run. -/
  first : Nat
  /-- The last code point of the run. -/
  last : Nat
  /-- The distance between members; upper and lower case often alternate. -/
  step : Nat
  /-- The image of `first`. -/
  target : Nat

/-- The image of a code point, if the run holds it. -/
def CaseRun.image? (r : CaseRun) (n : Nat) : Option Nat :=
  if r.first ≤ n && n ≤ r.last && (n - r.first) % r.step == 0 then
    some (r.target + (n - r.first))
  else
    none

end Text
end RestBindings
