import ScopedBuilder.Binary64.Shortest

/-!
The double precision number nearest to a decimal, a tie going to the even significand.
-/

namespace ScopedBuilder.Binary64

/-- A quotient rounded to the nearest natural number, ties to even. -/
def roundHalfEven (num den : Nat) : Nat :=
  let q := num / den
  let r := num % den
  if 2 * r < den then q
  else if den < 2 * r then q + 1
  else q + q % 2

/-- The binary exponent that gives a positive quotient 53 significant bits, or the least exponent. -/
def significandExponent (num den : Nat) : Int :=
  let guess : Int := num.log2 - den.log2 - 53
  let exact := if den <<< (guess + 53).toNat ≤ num <<< (-(guess + 53)).toNat
    then guess + 1 else guess
  max exact (-1074)

/-- The bits below the sign for a positive quotient; a carry out of the significand raises the exponent,
and too large a magnitude is infinite. -/
def magnitudeOfQuotient (num den : Nat) : Nat :=
  let q := significandExponent num den
  let significand := roundHalfEven (num <<< (-q).toNat) (den <<< q.toNat)
  min (((q + 1074).toNat <<< 52) + significand) (2047 <<< 52)

/-- How many decimal digits a number has; none for zero. -/
def digitCount (n : Nat) : Nat :=
  if n = 0 then 0 else (Nat.toDigits 10 n).length

/-- Rounds a decimal. A decimal far outside the range is not expanded. -/
def nearest (negative : Bool) (d : Decimal) : Binary64 :=
  let scale := d.exponent + digitCount d.digits
  if d.digits = 0 || scale < -330 then ofMagnitude negative 0
  else if 310 < scale then infinity negative
  else ofMagnitude negative
    (magnitudeOfQuotient (d.digits * Nat.pow 10 d.exponent.toNat)
      (Nat.pow 10 (-d.exponent).toNat))

end ScopedBuilder.Binary64
