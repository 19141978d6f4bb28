/-!
Double precision numbers as their bit patterns, so that every value is distinguishable and comparison
is a computation on words. A finite magnitude is a whole multiple of a power of two.
-/

namespace ScopedBuilder

/-- A double precision number in its interchange format: sign, eleven exponent bits, 52 fraction bits. -/
structure Binary64 where
  bits : UInt64

namespace Binary64

def isNegative (x : Binary64) : Bool :=
  x.bits.toNat >>> 63 = 1

def exponentField (x : Binary64) : Nat :=
  (x.bits.toNat >>> 52) % 2048

def fractionField (x : Binary64) : Nat :=
  x.bits.toNat % (1 <<< 52)

def isNaN (x : Binary64) : Bool :=
  x.exponentField = 2047 && x.fractionField ≠ 0

def isInfinite (x : Binary64) : Bool :=
  x.exponentField = 2047 && x.fractionField = 0

def isZero (x : Binary64) : Bool :=
  x.exponentField = 0 && x.fractionField = 0

/-- A finite magnitude is significand times two to this power. -/
def exponent (x : Binary64) : Int :=
  if x.exponentField = 0 then -1074 else x.exponentField - 1075

/-- The significand, with its leading bit unless the number is subnormal. -/
def significand (x : Binary64) : Nat :=
  if x.exponentField = 0 then x.fractionField else (1 <<< 52) + x.fractionField

/-- Numeric comparison: the zeros are equal, and no number equals a NaN. -/
def numericEq (x y : Binary64) : Bool :=
  !x.isNaN && !y.isNaN && (x.bits == y.bits || x.isZero && y.isZero)

instance : BEq Binary64 := ⟨numericEq⟩

/-- The number with a sign and the remaining 63 bits. -/
def ofMagnitude (negative : Bool) (magnitude : Nat) : Binary64 :=
  ⟨.ofNat (magnitude + if negative then 1 <<< 63 else 0)⟩

def infinity (negative : Bool) : Binary64 := ofMagnitude negative (2047 <<< 52)

def nan (negative : Bool) : Binary64 := ofMagnitude negative ((2047 <<< 52) + (1 <<< 51))

end Binary64

end ScopedBuilder
