import ScopedBuilder.Binary64.Basic

/-!
The shortest decimal that reads back as a given number. The decimals of a coarse grid are tried before
those of a finer one, so the first grid with a point in the rounding interval has the fewest digits.
-/

namespace ScopedBuilder

/-- The number digits times ten to the exponent. -/
structure Decimal where
  digits : Nat
  exponent : Int
  deriving DecidableEq

/-- The reals that round to a number, in units of a power of two. -/
structure RoundingInterval where
  lower : Nat
  center : Nat
  upper : Nat
  unitExponent : Int
  /-- Whether the ends round to the number as well. -/
  closed : Bool

namespace RoundingInterval

/-- The interval reaches half way to each neighbour; below a power of two the gap is half as wide. -/
def around (x : Binary64) : RoundingInterval where
  lower := 4 * x.significand - if x.fractionField = 0 && 1 < x.exponentField then 1 else 2
  center := 4 * x.significand
  upper := 4 * x.significand + 2
  unitExponent := x.exponent - 2
  closed := x.significand % 2 = 0

/-- The units of the interval over the steps of the decimal grid, as a fraction. -/
def unitsPerStep (unitExponent gridExponent : Int) : Nat × Nat :=
  ((1 <<< unitExponent.toNat) * Nat.pow 10 (-gridExponent).toNat,
   (1 <<< (-unitExponent).toNat) * Nat.pow 10 gridExponent.toNat)

/-- The point of a decimal grid in the interval that is nearest to the center; of two at the same
distance the upper one. -/
def gridPoint? (r : RoundingInterval) (gridExponent : Int) : Option Decimal :=
  let (num, den) := unitsPerStep r.unitExponent gridExponent
  let inside (k : Nat) : Bool :=
    if r.closed then r.lower * num ≤ k * den && k * den ≤ r.upper * num
    else r.lower * num < k * den && k * den < r.upper * num
  let below := r.center * num / den
  let above := below + 1
  let distanceBelow := r.center * num - below * den
  let distanceAbove := above * den - r.center * num
  match inside below, inside above with
  | false, false => none
  | true, false => some ⟨below, gridExponent⟩
  | false, true => some ⟨above, gridExponent⟩
  | true, true =>
    some ⟨if distanceBelow < distanceAbove then below else above, gridExponent⟩

end RoundingInterval

namespace Binary64

/-- The exponents of the decimal grids on which finite numbers have their shortest decimals, the
coarsest first. -/
def decimalGrids : List Int := (List.range 633).map fun (k : Nat) => 308 - (k : Int)

/-- The shortest decimal in the rounding interval of a finite nonzero magnitude. -/
def shortest (x : Binary64) : Decimal :=
  (decimalGrids.findSome? (RoundingInterval.around x).gridPoint?).getD ⟨0, 0⟩

end Binary64

end ScopedBuilder
