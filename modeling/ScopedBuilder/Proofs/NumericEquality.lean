import Mathlib.Algebra.Order.Group.Nat
import ScopedBuilder.Binary64.Basic

/-!
# Numeric equality

Every double precision number that is not a NaN is infinite or a whole multiple of the least positive one, and
comparison on words is comparison of these numbers. The only two words for one number are those of the zeros.
-/

namespace ScopedBuilder.Binary64

/-! ## What a word stands for -/

/-- A number in multiples of the least positive one, or an infinity. -/
inductive Number where
  | finite (units : Int)
  | infinite (negative : Bool)
  deriving DecidableEq

/-- A finite magnitude in multiples of the least positive number, which is two to the power -1074. -/
def units (x : Binary64) : Nat := x.significand * 2 ^ (x.exponent + 1074).toNat

/-- The number that a word stands for, unless it is a NaN. -/
def number? (x : Binary64) : Option Number :=
  if x.isNaN then none
  else if x.isInfinite then some (.infinite x.isNegative)
  else some (.finite (if x.isNegative then -x.units else x.units))

/-- The word itself, but of the two zeros the positive one. -/
def canonical (x : Binary64) : Binary64 := if x.isZero then ⟨0⟩ else x

variable {x y : Binary64}

/-! ## Fields -/

theorem fractionField_lt (x : Binary64) : x.fractionField < 2 ^ 52 :=
  Nat.mod_lt _ (by decide)

theorem bits_eq (x : Binary64) :
    x.bits.toNat = (if x.isNegative then 2 ^ 63 else 0) + x.exponentField * 2 ^ 52 + x.fractionField := by
  have hbits := x.bits.toNat_lt
  simp only [isNegative, exponentField, fractionField, Nat.shiftRight_eq_div_pow, Nat.one_shiftLeft,
    decide_eq_true_eq]
  split <;> omega

/-- The fields make up the word. -/
theorem eq_of_fields (hnegative : x.isNegative = y.isNegative)
    (hexponent : x.exponentField = y.exponentField) (hfraction : x.fractionField = y.fractionField) :
    x = y := by
  have hbits : x.bits.toNat = y.bits.toNat := by
    rw [x.bits_eq, y.bits_eq, hnegative, hexponent, hfraction]
  obtain ⟨_⟩ := x
  obtain ⟨_⟩ := y
  exact congrArg Binary64.mk (UInt64.toNat_inj.mp hbits)

/-! ## Magnitudes -/

theorem units_eq (x : Binary64) : x.units = x.significand * 2 ^ (x.exponentField - 1) := by
  have hexponent : (x.exponent + 1074).toNat = x.exponentField - 1 := by
    unfold exponent
    split <;> omega
  rw [units, hexponent]

theorem units_of_subnormal (h : x.exponentField = 0) : x.units = x.fractionField := by
  rw [units_eq, significand, if_pos h, h, Nat.pow_zero, Nat.mul_one]

theorem units_of_normal (h : x.exponentField ≠ 0) :
    x.units = (2 ^ 52 + x.fractionField) * 2 ^ (x.exponentField - 1) := by
  rw [units_eq, significand, if_neg h, Nat.one_shiftLeft]

/-- The magnitudes with one exponent lie below those with a greater one. -/
theorem units_lt (x : Binary64) : x.units < 2 ^ (52 + x.exponentField) := by
  have hfraction := x.fractionField_lt
  by_cases h : x.exponentField = 0
  · rw [units_of_subnormal h, h]
    exact hfraction
  · have hpower : 2 ^ (52 + x.exponentField) = 2 ^ 53 * 2 ^ (x.exponentField - 1) := by
      rw [← Nat.pow_add]
      congr 1
      omega
    rw [units_of_normal h, hpower]
    apply Nat.mul_lt_mul_of_pos_right
    · omega
    · exact Nat.two_pow_pos _

theorem le_units (h : x.exponentField ≠ 0) : 2 ^ (51 + x.exponentField) ≤ x.units := by
  have hpower : 2 ^ (51 + x.exponentField) = 2 ^ 52 * 2 ^ (x.exponentField - 1) := by
    rw [← Nat.pow_add]
    congr 1
    omega
  rw [units_of_normal h, hpower]
  apply Nat.mul_le_mul_right
  omega

theorem units_lt_units (h : x.exponentField < y.exponentField) : x.units < y.units := by
  have hpositive : y.exponentField ≠ 0 := by omega
  calc x.units
      < 2 ^ (52 + x.exponentField) := x.units_lt
    _ ≤ 2 ^ (51 + y.exponentField) := Nat.pow_le_pow_right (by decide) (by omega)
    _ ≤ y.units := le_units hpositive

/-- A magnitude has one exponent and one fraction. -/
theorem fields_eq_of_units_eq (h : x.units = y.units) :
    x.exponentField = y.exponentField ∧ x.fractionField = y.fractionField := by
  rcases Nat.lt_trichotomy x.exponentField y.exponentField with hlt | heq | hgt
  · have hless := units_lt_units hlt
    omega
  · refine ⟨heq, ?_⟩
    by_cases hzero : x.exponentField = 0
    · rw [units_of_subnormal hzero, units_of_subnormal (heq ▸ hzero)] at h
      exact h
    · rw [units_of_normal hzero, units_of_normal (heq ▸ hzero), ← heq] at h
      have hsum := Nat.eq_of_mul_eq_mul_right (Nat.two_pow_pos _) h
      omega
  · have hless := units_lt_units hgt
    omega

theorem units_eq_zero_iff : x.units = 0 ↔ x.isZero = true := by
  simp only [isZero, Bool.and_eq_true, decide_eq_true_eq]
  constructor
  · intro h
    by_cases hsubnormal : x.exponentField = 0
    · rw [units_of_subnormal hsubnormal] at h
      exact ⟨hsubnormal, h⟩
    · have hle := le_units hsubnormal
      have hpositive := Nat.two_pow_pos (51 + x.exponentField)
      omega
  · rintro ⟨hsubnormal, hfraction⟩
    rw [units_of_subnormal hsubnormal, hfraction]

/-! ## Comparison -/

theorem beq_iff : (x == y) = true ↔
    x.isNaN = false ∧ y.isNaN = false ∧ (x = y ∨ x.isZero = true ∧ y.isZero = true) := by
  have hbits : x.bits = y.bits ↔ x = y := by
    cases x
    cases y
    simp
  change x.numericEq y = true ↔ _
  simp only [numericEq, Bool.and_eq_true, Bool.or_eq_true, Bool.not_eq_true', beq_iff_eq, hbits,
    and_assoc]

theorem isNaN_of_isZero (h : x.isZero = true) : x.isNaN = false := by
  simp only [isZero, Bool.and_eq_true, decide_eq_true_eq] at h
  simp [isNaN, h.1]

@[simp] theorem isNaN_canonical (x : Binary64) : x.canonical.isNaN = x.isNaN := by
  by_cases h : x.isZero = true
  · rw [canonical, if_pos h, isNaN_of_isZero h]
    decide
  · rw [canonical, if_neg h]

theorem canonical_eq_iff :
    x.canonical = y.canonical ↔ x = y ∨ x.isZero = true ∧ y.isZero = true := by
  by_cases hx : x.isZero = true <;> by_cases hy : y.isZero = true
  · simp [canonical, hx, hy]
  · have hne : x ≠ y := fun h => hy (h ▸ hx)
    have hzero : (⟨0⟩ : Binary64) ≠ y := by
      rintro rfl
      exact hy (by decide)
    simp [canonical, hx, hy, hne, hzero]
  · have hne : x ≠ y := fun h => hx (h ▸ hy)
    have hzero : x ≠ (⟨0⟩ : Binary64) := by
      rintro rfl
      exact hx (by decide)
    simp [canonical, hx, hy, hne, hzero]
  · simp [canonical, hx, hy]

/-- Two words are equal if they are the same up to the sign of a zero, and no NaN. -/
theorem beq_iff_canonical : (x == y) = true ↔ x.canonical = y.canonical ∧ x.isNaN = false := by
  rw [beq_iff, canonical_eq_iff]
  constructor
  · rintro ⟨hx, -, h⟩
    exact ⟨h, hx⟩
  · rintro ⟨h, hx⟩
    refine ⟨hx, ?_, h⟩
    rw [← isNaN_canonical, ← canonical_eq_iff.mpr h, isNaN_canonical]
    exact hx

theorem number?_eq_none_iff : x.number? = none ↔ x.isNaN = true := by
  by_cases hnan : x.isNaN = true <;> by_cases hinfinite : x.isInfinite = true <;>
    simp [number?, hnan, hinfinite]

theorem isNaN_of_number? {n : Number} (h : x.number? = some n) : x.isNaN = false := by
  rw [← Bool.not_eq_true, ← number?_eq_none_iff, h]
  exact Option.some_ne_none n

theorem number?_of_isZero (h : x.isZero = true) : x.number? = some (.finite 0) := by
  have hunits := units_eq_zero_iff.mpr h
  simp only [isZero, Bool.and_eq_true, decide_eq_true_eq] at h
  simp [number?, isNaN, isInfinite, h.1, hunits]

/-- Words for one number are the same, up to the sign of a zero. -/
theorem eq_or_isZero_of_number? {n : Number} (hx : x.number? = some n) (hy : y.number? = some n) :
    x = y ∨ x.isZero = true ∧ y.isZero = true := by
  have hxnan := isNaN_of_number? hx
  have hynan := isNaN_of_number? hy
  simp only [number?, hxnan, hynan, Bool.false_eq_true, if_false] at hx hy
  by_cases hxinf : x.isInfinite = true <;> by_cases hyinf : y.isInfinite = true
  · simp only [hxinf, hyinf, if_true, Option.some.injEq] at hx hy
    have hnegative : x.isNegative = y.isNegative := by simpa using hx.trans hy.symm
    simp only [isInfinite, Bool.and_eq_true, decide_eq_true_eq] at hxinf hyinf
    refine .inl (eq_of_fields hnegative ?_ ?_)
    · rw [hxinf.1, hyinf.1]
    · rw [hxinf.2, hyinf.2]
  · simp only [hxinf, hyinf, if_true, Bool.false_eq_true, if_false, Option.some.injEq] at hx hy
    cases hx.trans hy.symm
  · simp only [hxinf, hyinf, if_true, Bool.false_eq_true, if_false, Option.some.injEq] at hx hy
    cases hx.trans hy.symm
  · simp only [hxinf, hyinf, Bool.false_eq_true, if_false, Option.some.injEq] at hx hy
    have hvalue := Number.finite.inj (hx.trans hy.symm)
    by_cases hnegative : x.isNegative = y.isNegative
    · have hunits : x.units = y.units := by
        rw [hnegative] at hvalue
        split at hvalue <;> omega
      obtain ⟨hexponent, hfraction⟩ := fields_eq_of_units_eq hunits
      exact .inl (eq_of_fields hnegative hexponent hfraction)
    · -- A number with both signs is zero.
      have hzero : x.units = 0 ∧ y.units = 0 := by
        cases hxneg : x.isNegative <;> cases hyneg : y.isNegative <;>
          simp only [hxneg, hyneg, if_true, Bool.false_eq_true, if_false, not_true_eq_false]
            at hvalue hnegative <;>
          omega
      exact .inr ⟨units_eq_zero_iff.mp hzero.1, units_eq_zero_iff.mp hzero.2⟩

/-- Two words are equal exactly if they stand for the same number; a NaN stands for none. -/
theorem beq_iff_number? : (x == y) = true ↔ ∃ n, x.number? = some n ∧ y.number? = some n := by
  rw [beq_iff]
  constructor
  · rintro ⟨hx, -, rfl | ⟨hxzero, hyzero⟩⟩
    · cases hnumber : x.number? with
      | none =>
          rw [number?_eq_none_iff.mp hnumber] at hx
          cases hx
      | some n => exact ⟨n, rfl, rfl⟩
    · exact ⟨.finite 0, number?_of_isZero hxzero, number?_of_isZero hyzero⟩
  · rintro ⟨n, hx, hy⟩
    exact ⟨isNaN_of_number? hx, isNaN_of_number? hy, eq_or_isZero_of_number? hx hy⟩

end ScopedBuilder.Binary64
