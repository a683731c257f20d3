import DocShape.Number
import Mathlib.Data.Nat.Dist

/-!
Rounding delivers the nearest number.

* `roundEven_nearest`: no multiple of the denominator is nearer to the numerator.
* `Format.nearest?_nearest`: no magnitude of the format is nearer to the ratio. Above the ratio's
  own power of two the magnitudes are multiples of the step that is rounded to, and below it they
  are no nearer than that power.
* `Format.units_nearest?_of_bits`: a number with no more bits than the significand is kept.
* `Binary64.isNearest_ofNat`: whole numbers are converted to a nearest double.
-/

namespace DocShape

-- Powers are those of core, whatever else is imported.
attribute [local instance (2000)] instPowNat

/-- No multiple of the denominator is nearer to the numerator than the rounded one. -/
theorem roundEven_nearest (num : Nat) {den : Nat} (h : 0 < den) (k : Nat) :
    Nat.dist (roundEven num den * den) num ≤ Nat.dist (k * den) num := by
  have hnum := Nat.div_add_mod' num den
  have hrest := Nat.mod_lt num h
  have hk : k * den ≤ num / den * den ∨ num / den * den + den ≤ k * den := by
    rcases Nat.lt_or_ge (num / den) k with hlt | hge
    · right
      rw [← Nat.succ_mul]
      exact Nat.mul_le_mul_right den hlt
    · exact .inl (Nat.mul_le_mul_right den hge)
  unfold roundEven Nat.dist
  dsimp only
  split
  · omega
  · rw [Nat.succ_mul]
    omega

theorem roundEven_mul_of_dvd {num den : Nat} (h : 0 < den) (hdvd : den ∣ num) :
    roundEven num den * den = num := by
  obtain ⟨k, rfl⟩ := hdvd
  rw [Nat.mul_comm den k, roundEven_mul_right k h]

namespace Format

variable {f : Format}

/-- Carrying does not change the value. -/
theorem units_carry (f : Format) (significand scale : Nat) :
    (f.carry significand scale).1 * 2 ^ (f.carry significand scale).2 =
      significand * 2 ^ scale := by
  unfold carry
  split
  · rename_i hfull
    have hf := f.precision_pos
    rw [hfull, ← Nat.pow_add, ← Nat.pow_add]
    congr 1
    omega
  · rfl

/-- The value that is rounded to: a multiple of the step. -/
theorem units_of_nearest? {num den : Nat} {x : f.Magnitude} (h : f.nearest? num den = some x) :
    x.units = roundEven (num * f.one) (den * 2 ^ f.scaleOf (num * f.one / den)) *
      2 ^ f.scaleOf (num * f.one / den) := by
  unfold nearest? at h
  dsimp only at h
  split at h
  · cases h
    exact units_carry f _ _
  · cases h

/-- A magnitude is a multiple of the step, or lies below the power of two that the step belongs
to. -/
theorem dvd_units_or_lt (x : f.Magnitude) (scale : Nat) :
    2 ^ scale ∣ x.units ∨ scale ≠ 0 ∧ x.units < 2 ^ (f.precision - 1 + scale) := by
  rcases Nat.lt_or_ge x.scale scale with hlt | hge
  · refine .inr ⟨by omega, ?_⟩
    have hf := f.precision_pos
    calc x.units < 2 ^ f.precision * 2 ^ x.scale :=
          Nat.mul_lt_mul_of_pos_right x.canonical.significand_lt (Nat.two_pow_pos _)
      _ = 2 ^ (f.precision + x.scale) := (Nat.pow_add 2 _ _).symm
      _ ≤ 2 ^ (f.precision - 1 + scale) := Nat.pow_le_pow_right (by decide) (by omega)
  · exact .inl (Nat.dvd_trans (Nat.pow_dvd_pow 2 hge) (Nat.dvd_mul_left _ _))

/-- No magnitude of the format is nearer to the ratio. -/
theorem nearest?_nearest {num den : Nat} (hden : 0 < den) {x : f.Magnitude}
    (h : f.nearest? num den = some x) (y : f.Magnitude) :
    Nat.dist (x.units * den) (num * f.one) ≤ Nat.dist (y.units * den) (num * f.one) := by
  rw [units_of_nearest? h]
  generalize hscale : f.scaleOf (num * f.one / den) = scale
  have hstep : 0 < den * 2 ^ scale := Nat.mul_pos hden (Nat.two_pow_pos _)
  -- No multiple of the step is nearer.
  have hmultiple : ∀ k, Nat.dist (roundEven (num * f.one) (den * 2 ^ scale) * 2 ^ scale * den)
      (num * f.one) ≤ Nat.dist (k * 2 ^ scale * den) (num * f.one) := by
    intro k
    have hassoc : ∀ n, n * (den * 2 ^ scale) = n * 2 ^ scale * den := by
      intro n
      rw [Nat.mul_comm den, Nat.mul_assoc]
    have hnearest := roundEven_nearest (num * f.one) hstep k
    rwa [hassoc, hassoc] at hnearest
  rcases dvd_units_or_lt y scale with ⟨k, hk⟩ | ⟨hne, hlt⟩
  · rw [hk, Nat.mul_comm (2 ^ scale) k]
    exact hmultiple k
  · -- The power of two lies between the magnitude and the ratio.
    have hpower : 2 ^ (f.precision - 1) * 2 ^ scale * den ≤ num * f.one := by
      rw [← Nat.pow_add, ← Nat.le_div_iff_mul_le hden, ← hscale]
      exact f.two_pow_le_of_scaleOf (by omega)
    have hbelow : y.units * den ≤ 2 ^ (f.precision - 1) * 2 ^ scale * den := by
      rw [← Nat.pow_add]
      exact Nat.mul_le_mul_right den hlt.le
    refine Nat.le_trans (hmultiple (2 ^ (f.precision - 1))) ?_
    unfold Nat.dist
    omega

/-- A step divides a number with no more bits than the significand above it. -/
theorem scaleOf_le {significand scale : Nat} (h : significand < 2 ^ f.precision) :
    f.scaleOf (significand * 2 ^ scale) ≤ scale := by
  by_cases hzero : significand * 2 ^ scale = 0
  · rw [hzero, scaleOf_zero]
    exact Nat.zero_le scale
  · have hbound : significand * 2 ^ scale < 2 ^ (f.precision + scale) := by
      rw [Nat.pow_add]
      exact Nat.mul_lt_mul_of_pos_right h (Nat.two_pow_pos _)
    have hlog := (Nat.log2_lt hzero).mpr hbound
    simp only [scaleOf]
    omega

/-- A number with no more bits than the significand is kept, whatever its scale. -/
theorem units_nearest?_of_bits {num : Nat} {x : f.Magnitude} (h : f.nearest? num 1 = some x)
    {significand scale : Nat} (hlt : significand < 2 ^ f.precision)
    (hnum : num * f.one = significand * 2 ^ scale) : x.units = num * f.one := by
  have hstep : 2 ^ f.scaleOf (num * f.one) ∣ num * f.one := by
    rw [hnum]
    exact Nat.dvd_trans (Nat.pow_dvd_pow 2 (scaleOf_le hlt)) (Nat.dvd_mul_left _ _)
  have hunits := units_of_nearest? h
  rw [Nat.div_one, Nat.one_mul] at hunits
  rw [hunits, roundEven_mul_of_dvd (Nat.two_pow_pos _) hstep]

end Format

namespace Binary64

/-- Whether no double is nearer to a number of units. -/
def IsNearest (x : Binary64) (units : Int) : Prop :=
  ∀ y : Binary64, (x.units - units).natAbs ≤ (y.units - units).natAbs

theorem IsNearest.units_eq {x y : Binary64} {units : Int} (h : x.IsNearest units)
    (hy : y.units = units) : x.units = units := by
  have hle := h y
  omega

theorem isNearest_self (x : Binary64) : x.IsNearest x.units := by
  intro y
  omega

/-- The whole number that a sign and a magnitude stand for. -/
def signed (negative : Bool) (n : Nat) : Int :=
  if negative then -n else n

theorem signed_mul (negative : Bool) (n k : Nat) :
    signed negative n * k = signed negative (n * k) := by
  cases negative with
  | false => exact (Int.natCast_mul n k).symm
  | true => rw [signed, signed, if_pos rfl, if_pos rfl, Int.natCast_mul, Int.neg_mul]

theorem ofNat_eq (negative : Bool) {n : Nat} (h : n < UInt64.size) :
    ∃ m, Format.double.nearest? n 1 = some m ∧ ofNat negative n h = ⟨negative, m⟩ := by
  have hsome := @isSome_ofRatio? negative n 1 (by omega)
  obtain ⟨x, hx⟩ := Option.isSome_iff_exists.mp hsome
  obtain ⟨m, hm, rfl⟩ := Option.map_eq_some_iff.mp hx
  refine ⟨m, hm, ?_⟩
  unfold ofNat
  simp only [hx, Option.get_some]

/-- A whole number is converted to a nearest double. One on the other side of zero is farther away
than zero is. -/
theorem isNearest_ofNat (negative : Bool) {n : Nat} (h : n < UInt64.size) :
    (ofNat negative n h).IsNearest (signed negative n * Format.double.one) := by
  obtain ⟨m, hm, heq⟩ := ofNat_eq negative h
  have hnearest : ∀ y : Format.double.Magnitude,
      Nat.dist m.units (n * Format.double.one) ≤ Nat.dist y.units (n * Format.double.one) := by
    intro y
    have hle := Format.nearest?_nearest Nat.one_pos hm y
    rwa [Nat.mul_one, Nat.mul_one] at hle
  have hzero : (zero false).magnitude.units = 0 := rfl
  intro y
  have hsame := hnearest y.magnitude
  have hother := hnearest (zero false).magnitude
  rw [hzero] at hother
  rw [heq, signed_mul]
  -- The number itself does not matter from here on, and it is a large literal.
  generalize n * Format.double.one = target at hsame hother
  unfold units signed
  unfold Nat.dist at hsame hother
  cases negative <;> cases y.negative <;>
    simp only [if_true, Bool.false_eq_true, if_false] <;> omega

/-- A whole number with no more bits than the significand is kept. -/
theorem units_ofNat_of_bits (negative : Bool) {n : Nat} (h : n < UInt64.size)
    {significand scale : Nat} (hlt : significand < 2 ^ Format.double.precision)
    (hn : n = significand * 2 ^ scale) :
    (ofNat negative n h).units = signed negative n * Format.double.one := by
  obtain ⟨m, hm, heq⟩ := ofNat_eq negative h
  have hnum : n * Format.double.one =
      significand * 2 ^ (scale + Format.double.unitExponent) := by
    rw [hn, Nat.pow_add, Nat.mul_assoc]
    rfl
  have hunits := Format.units_nearest?_of_bits hm hlt hnum
  rw [heq, signed_mul, ← hunits]
  rfl

end Binary64
end DocShape
