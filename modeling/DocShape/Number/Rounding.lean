/-!
Rounding to the nearest, a half going to the even neighbour: first a ratio of natural numbers to
a whole number, then to the magnitudes of a binary format. Dropping the fraction of a magnitude.

Main statements: `div_le_roundEven` and `roundEven_le_succ` bound the rounded quotient by its two
whole neighbours, `Format.carry_canonical` puts a rounded significand into the canonical form of
its format, `Format.isSome_nearest?` says when rounding does not overflow, and
`Format.Magnitude.units_whole` what a magnitude without its fraction is worth.
-/

namespace DocShape

-- Powers are those of core, whatever else is imported.
attribute [local instance (2000)] instPowNat

/-- The whole number nearest to `num / den`; of two equally near ones the even one. -/
def roundEven (num den : Nat) : Nat :=
  let below := num / den
  let rest := num % den
  if 2 * rest < den ∨ (2 * rest = den ∧ below % 2 = 0) then below else below + 1

theorem div_le_roundEven (num den : Nat) : num / den ≤ roundEven num den := by
  simp only [roundEven]
  split <;> omega

theorem roundEven_le_succ (num den : Nat) : roundEven num den ≤ num / den + 1 := by
  simp only [roundEven]
  split <;> omega

/-- A ratio that is whole is its own rounding. -/
theorem roundEven_mul_right (n : Nat) {den : Nat} (h : 0 < den) : roundEven (n * den) den = n := by
  simp [roundEven, Nat.mul_div_cancel _ h, h]

/-- A binary number format. Its magnitudes are `significand * 2 ^ scale` units of
`2 ^ -unitExponent`, with `significand < 2 ^ precision` and `scale ≤ maxScale`. -/
structure Format where
  precision : Nat
  unitExponent : Nat
  maxScale : Nat
  precision_pos : 0 < precision := by decide

namespace Format

/-- Double precision. -/
def double : Format := { precision := 53, unitExponent := 1074, maxScale := 2045 }

/-- Single precision. -/
def single : Format := { precision := 24, unitExponent := 149, maxScale := 253 }

/-- The number of units in one. -/
def one (f : Format) : Nat := 2 ^ f.unitExponent

/-- The form that each magnitude has once: only the smallest ones do without a leading bit. -/
structure Canonical (f : Format) (significand scale : Nat) : Prop where
  significand_lt : significand < 2 ^ f.precision
  leading : scale ≠ 0 → 2 ^ (f.precision - 1) ≤ significand

/-- A magnitude that the format holds. -/
structure Magnitude (f : Format) where
  significand : Nat
  scale : Nat
  canonical : f.Canonical significand scale
  scale_le : scale ≤ f.maxScale

/-- The number of units that a magnitude is worth. -/
def Magnitude.units {f : Format} (x : f.Magnitude) : Nat :=
  x.significand * 2 ^ x.scale

/-- The scale at which a magnitude of `units` fills the precision; zero for the smallest ones. -/
def scaleOf (f : Format) (units : Nat) : Nat :=
  units.log2 + 1 - f.precision

/-- A significand that rounding carried past the precision, brought back into it. -/
def carry (f : Format) (significand scale : Nat) : Nat × Nat :=
  if significand = 2 ^ f.precision then (2 ^ (f.precision - 1), scale + 1)
  else (significand, scale)

theorem roundEven_le_two_pow (f : Format) (units den : Nat) :
    roundEven units (den * 2 ^ f.scaleOf (units / den)) ≤ 2 ^ f.precision := by
  refine Nat.le_trans (roundEven_le_succ _ _) ?_
  rw [← Nat.div_div_eq_div_mul]
  have hlog : units / den < 2 ^ ((units / den).log2 + 1) := Nat.lt_log2_self
  have hpow : 2 ^ ((units / den).log2 + 1) ≤ 2 ^ f.precision * 2 ^ f.scaleOf (units / den) := by
    rw [← Nat.pow_add]
    exact Nat.pow_le_pow_right (by decide) (by simp only [scaleOf]; omega)
  have hlt : units / den / 2 ^ f.scaleOf (units / den) < 2 ^ f.precision :=
    Nat.div_lt_of_lt_mul (by rw [Nat.mul_comm]; omega)
  omega

theorem scaleOf_zero (f : Format) : f.scaleOf 0 = 0 := by
  have hf := f.precision_pos
  have hlog : Nat.log2 0 = 0 := by decide
  simp only [scaleOf]
  omega

/-- A number that has a scale fills the precision at it. -/
theorem two_pow_le_of_scaleOf (f : Format) {units : Nat} (h : f.scaleOf units ≠ 0) :
    2 ^ (f.precision - 1 + f.scaleOf units) ≤ units := by
  have hf := f.precision_pos
  have hne : units ≠ 0 := by
    intro h0
    rw [h0] at h
    exact h f.scaleOf_zero
  refine Nat.le_trans (Nat.pow_le_pow_right (by decide) ?_) (Nat.log2_self_le hne)
  simp only [scaleOf] at h ⊢
  omega

theorem two_pow_le_roundEven (f : Format) (units den : Nat) (h : f.scaleOf (units / den) ≠ 0) :
    2 ^ (f.precision - 1) ≤ roundEven units (den * 2 ^ f.scaleOf (units / den)) := by
  refine Nat.le_trans ?_ (div_le_roundEven _ _)
  rw [← Nat.div_div_eq_div_mul, Nat.le_div_iff_mul_le (Nat.two_pow_pos _), ← Nat.pow_add]
  exact f.two_pow_le_of_scaleOf h

/-- Rounding a ratio of units, and carrying, delivers the canonical form. -/
theorem carry_canonical (f : Format) (units den : Nat) :
    let scale := f.scaleOf (units / den)
    let rounded := f.carry (roundEven units (den * 2 ^ scale)) scale
    f.Canonical rounded.1 rounded.2 := by
  intro scale rounded
  have hle := f.roundEven_le_two_pow units den
  have hge := f.two_pow_le_roundEven units den
  have hp : 2 ^ (f.precision - 1) < 2 ^ f.precision :=
    Nat.pow_lt_pow_right (by decide) (by have := f.precision_pos; omega)
  simp only [rounded, scale, carry]
  split
  · exact ⟨hp, fun _ => Nat.le_refl _⟩
  · rename_i hr
    exact ⟨Nat.lt_of_le_of_ne hle hr, hge⟩

/-- Where the point lies within the significand, the digits behind it can be cleared: the leading
bit is in front of it. -/
theorem Canonical.clear {f : Format} {significand scale : Nat} (h : f.Canonical significand scale)
    (hone : f.one ≤ significand * 2 ^ scale) :
    f.Canonical (significand / 2 ^ (f.unitExponent - scale) * 2 ^ (f.unitExponent - scale))
      scale := by
  have hf := f.precision_pos
  refine ⟨Nat.lt_of_le_of_lt (Nat.div_mul_le_self _ _) h.significand_lt, fun hs => ?_⟩
  have hlt : 2 ^ f.unitExponent < 2 ^ (f.precision + scale) := by
    rw [Nat.pow_add]
    exact Nat.lt_of_le_of_lt hone (Nat.mul_lt_mul_of_pos_right h.significand_lt (Nat.two_pow_pos _))
  have hpoint : f.unitExponent - scale ≤ f.precision - 1 := by
    have := (Nat.pow_lt_pow_iff_right (by decide)).mp hlt
    omega
  calc 2 ^ (f.precision - 1)
      = 2 ^ (f.precision - 1) / 2 ^ (f.unitExponent - scale) * 2 ^ (f.unitExponent - scale) :=
        (Nat.div_mul_cancel (Nat.pow_dvd_pow 2 hpoint)).symm
    _ ≤ _ := Nat.mul_le_mul_right _ (Nat.div_le_div_right (h.leading hs))

/-- A magnitude without its fraction. -/
def Magnitude.whole {f : Format} (x : f.Magnitude) : f.Magnitude :=
  if h : f.one ≤ x.units then
    ⟨x.significand / 2 ^ (f.unitExponent - x.scale) * 2 ^ (f.unitExponent - x.scale), x.scale,
      x.canonical.clear h, x.scale_le⟩
  else ⟨0, 0, ⟨Nat.two_pow_pos _, fun h => absurd rfl h⟩, Nat.zero_le _⟩

/-- The number of units that are left is a multiple of those in one. -/
theorem Magnitude.units_whole {f : Format} (x : f.Magnitude) :
    x.whole.units = x.units / f.one * f.one := by
  unfold whole
  split
  · rename_i h
    simp only [units, one]
    rcases Nat.le_total f.unitExponent x.scale with hle | hle
    · -- The point is behind the significand: there is no fraction.
      have hdvd : 2 ^ f.unitExponent ∣ x.significand * 2 ^ x.scale :=
        Nat.dvd_trans (Nat.pow_dvd_pow 2 hle) (Nat.dvd_mul_left _ _)
      rw [Nat.sub_eq_zero_of_le hle, Nat.pow_zero, Nat.div_one, Nat.mul_one,
        Nat.div_mul_cancel hdvd]
    · have hone : 2 ^ f.unitExponent = 2 ^ (f.unitExponent - x.scale) * 2 ^ x.scale := by
        rw [← Nat.pow_add, Nat.sub_add_cancel hle]
      rw [hone, Nat.mul_div_mul_right _ _ (Nat.two_pow_pos _), Nat.mul_assoc]
  · rename_i h
    rw [Nat.div_eq_of_lt (Nat.lt_of_not_le h), Nat.zero_mul]
    exact Nat.zero_mul _

/-- The magnitude nearest to `num / den`, a half going to the even significand. There is none
when the ratio is beyond the largest magnitude of the format. -/
def nearest? (f : Format) (num den : Nat) : Option f.Magnitude :=
  let units := num * f.one
  let scale := f.scaleOf (units / den)
  let rounded := f.carry (roundEven units (den * 2 ^ scale)) scale
  if h : rounded.2 ≤ f.maxScale then
    some ⟨rounded.1, rounded.2, f.carry_canonical units den, h⟩
  else none

/-- A ratio below a power of two that the format holds does not overflow. -/
theorem isSome_nearest? (f : Format) {num den k : Nat} (h : num < den * 2 ^ k)
    (hk : k + f.unitExponent + 1 < f.precision + f.maxScale) (hs : 0 < f.maxScale) :
    (f.nearest? num den).isSome := by
  have hf := f.precision_pos
  have hlt : num * f.one / den < 2 ^ (k + f.unitExponent) := by
    refine Nat.div_lt_of_lt_mul ?_
    rw [Nat.pow_add, ← Nat.mul_assoc]
    exact Nat.mul_lt_mul_of_pos_right h (Nat.two_pow_pos _)
  have hscale : f.scaleOf (num * f.one / den) + 1 ≤ f.maxScale := by
    by_cases h0 : num * f.one / den = 0
    · rw [h0, scaleOf_zero]
      exact hs
    · have := (Nat.log2_lt h0).2 hlt
      simp only [scaleOf]
      omega
  have hle : (f.carry (roundEven (num * f.one)
      (den * 2 ^ f.scaleOf (num * f.one / den)))
      (f.scaleOf (num * f.one / den))).2 ≤ f.maxScale := by
    simp only [carry]
    split
    · exact hscale
    · exact Nat.le_of_succ_le hscale
  simp [nearest?, hle]

end Format
end DocShape
