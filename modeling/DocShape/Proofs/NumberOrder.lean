import DocShape.Proofs.NumberValue
import Mathlib.Algebra.Order.Field.Basic

/-!
Conversion to doubles and the order of numbers.

Conversion is to a nearest double, so it does not exchange two numbers, but it may bring them
together. It does not bring a number below `2 ^ 53` together with another one: such a number is a
double, and what is no double is beyond `2 ^ 53`, which is a double in between.

* `Binary64.IsNearest.units_le`, `Number.units_toBinary64_le`: conversion keeps the order.
* `Number.compare_toBinary64`: with a number below `2 ^ 53` it keeps strict order too.
-/

namespace DocShape

/-- Nearest doubles are in the order of what they are nearest to. Were they exchanged, each number
would be on the far side of the middle between them. -/
theorem Binary64.IsNearest.units_le {x y : Binary64} {a b : Int} (hx : x.IsNearest a)
    (hy : y.IsNearest b) (h : a < b) : x.units ≤ y.units := by
  have hxy := hx y
  have hyx := hy x
  omega

namespace Number

variable {n m : Number}

theorem abs_units (n : Number) : ((|n.units| : Int) : ℚ) = |n.value| * Format.double.one := by
  rw [value_eq_div, abs_div, abs_of_pos one_pos, div_mul_cancel₀ _ one_pos.ne', Int.cast_abs]

theorem units_lt_iff : n.units < m.units ↔ n.value < m.value := by
  rw [value_eq_div, value_eq_div, div_lt_div_iff_of_pos_right one_pos, Int.cast_lt]

/-- Conversion keeps the order. -/
theorem units_toBinary64_le (h : n.value ≤ m.value) : n.toBinary64.units ≤ m.toBinary64.units := by
  rcases h.lt_or_eq with hlt | heq
  · exact n.isNearest_toBinary64.units_le m.isNearest_toBinary64 (units_lt_iff.mpr hlt)
  · exact (units_toBinary64_of_same (same_iff.mpr (.inl heq))).le

/-- Numbers up to `2 ^ 53` are doubles, words too. -/
theorem isDouble_of_abs_value_le (h : |n.value| ≤ 2 ^ 53) : n.IsDouble := by
  cases hfloat : n.isFloat with
  | true => exact isDouble_of_isFloat hfloat
  | false => exact isDouble_of_abs_le hfloat h

theorem abs_units_lt (h : |n.value| < 2 ^ 53) : |n.units| < 2 ^ 53 * Format.double.one := by
  have hlt := mul_lt_mul_of_pos_right h one_pos
  rw [← abs_units] at hlt
  exact_mod_cast hlt

theorem lt_abs_units (h : 2 ^ 53 < |n.value|) : 2 ^ 53 * Format.double.one < |n.units| := by
  have hlt := mul_lt_mul_of_pos_right h one_pos
  rw [← abs_units] at hlt
  exact_mod_cast hlt

theorem units_ofNat_two_pow (negative : Bool) :
    (Binary64.ofNat negative (2 ^ 53) (by decide)).units =
      if negative then -(2 ^ 53 * Format.double.one : Int) else 2 ^ 53 * Format.double.one := by
  rw [Binary64.units_ofNat_of_bits negative _ (show 1 < 2 ^ Format.double.precision by decide)
    (Nat.one_mul _).symm, Binary64.signed]
  cases negative with
  | false => rfl
  | true => exact Int.neg_mul _ _

/-- Numbers of different values, one of them below `2 ^ 53`, are converted to different doubles. -/
theorem units_toBinary64_ne (hm : |m.value| < 2 ^ 53) (h : n.value ≠ m.value) :
    n.toBinary64.units ≠ m.toBinary64.units := by
  rw [units_toBinary64_iff.mpr (isDouble_of_abs_value_le hm.le)]
  by_cases hn : |n.value| ≤ 2 ^ 53
  · rw [units_toBinary64_iff.mpr (isDouble_of_abs_value_le hn)]
    exact mt value_eq_iff.mpr h
  · -- The double `2 ^ 53` with the sign of the word lies between the two.
    intro heq
    have hnear (negative : Bool) := n.isNearest_toBinary64 (.ofNat negative (2 ^ 53) (by decide))
    simp only [units_ofNat_two_pow, heq] at hnear
    have hbelow := abs_lt.mp (abs_units_lt hm)
    have hbeyond := lt_abs.mp (lt_abs_units (not_le.mp hn))
    generalize (2 ^ 53 * Format.double.one : Int) = far at hnear hbelow hbeyond
    rcases hbeyond with hpos | hneg
    · have hle := hnear false
      rw [if_neg Bool.false_ne_true] at hle
      omega
    · have hle := hnear true
      rw [if_pos rfl] at hle
      omega

/-- A number lies relative to one below `2 ^ 53` as their doubles lie. -/
theorem compare_toBinary64 (hm : |m.value| < 2 ^ 53) :
    compare n.toBinary64.units m.toBinary64.units = compare n.value m.value := by
  rcases lt_trichotomy n.value m.value with hlt | heq | hgt
  · rw [compare_lt_iff_lt.mpr hlt, compare_lt_iff_lt]
    exact (units_toBinary64_le hlt.le).lt_of_ne (units_toBinary64_ne hm hlt.ne)
  · rw [compare_eq_iff_eq.mpr heq, compare_eq_iff_eq]
    exact (units_toBinary64_le heq.le).antisymm (units_toBinary64_le heq.ge)
  · rw [compare_gt_iff_gt.mpr hgt, compare_gt_iff_gt]
    exact (units_toBinary64_le hgt.le).lt_of_ne (units_toBinary64_ne hm hgt.ne').symm

end Number
end DocShape
