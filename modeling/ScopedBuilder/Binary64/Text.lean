import ScopedBuilder.Binary64.Shortest

/-!
The text of a number: its shortest digits around a decimal point, never an exponent. A whole number
shows no point.
-/

namespace ScopedBuilder

/-- Positional layout, with a zero before the point when nothing else stands there. -/
def Decimal.positional (d : Decimal) : List Char :=
  let digits := Nat.toDigits 10 d.digits
  let places := (-d.exponent).toNat
  if 0 ≤ d.exponent then digits ++ List.replicate d.exponent.toNat '0'
  else if places < digits.length then
    digits.take (digits.length - places) ++ '.' :: digits.drop (digits.length - places)
  else ['0', '.'] ++ List.replicate (places - digits.length) '0' ++ digits

/-- The sign of zero is shown, that of a NaN is not. -/
def Binary64.text (x : Binary64) : String :=
  if x.isNaN then "NaN"
  else
    let magnitude :=
      if x.isInfinite then ['i', 'n', 'f']
      else if x.isZero then ['0']
      else x.shortest.positional
    String.ofList (if x.isNegative then '-' :: magnitude else magnitude)

end ScopedBuilder
