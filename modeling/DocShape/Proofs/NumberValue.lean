import DocShape.Proofs.Enumeration
import DocShape.Proofs.NearestDouble
import Mathlib.Data.Rat.Cast.Order

/-!
The values of numbers, and comparison across representations.

Words are compared with words by value, and doubles with doubles. For a word and a double the word
is converted first, so the comparison is one of values only where some double has the value of the
word. A word that lies between two doubles is the same as the nearest one.

* `Number.value`: what a number denotes.
* `isNearest_toBinary64`, `units_toBinary64_iff`: conversion is to a nearest double, and exact where
  there is an exact one.
* `Number.RoundsTo`, `same_iff`: the numbers that are the same, those of one value and a word with
  the double that it is rounded to.
* `Schema.valid_literal_number_iff`: which numbers are accepted for a number.
-/

namespace DocShape

namespace Number

/-! ### Values -/

/-- The number that is denoted. -/
def value : Number → ℚ
  | .integer n => n.toInt
  | .large n => n.word.toNat
  | .float x => x.units / Format.double.one

/-- The value in units of `2 ^ -1074`, of which doubles have a whole number, and words too. -/
def units : Number → Int
  | .integer n => n.toInt * Format.double.one
  | .large n => n.word.toNat * Format.double.one
  | .float x => x.units

variable {n m : Number}

theorem one_pos : (0 : ℚ) < Format.double.one :=
  Nat.cast_pos.mpr (Nat.two_pow_pos _)

theorem value_eq_div (n : Number) : n.value = n.units / Format.double.one := by
  have hone := one_pos.ne'
  cases n with
  | float x => rfl
  | integer n =>
    rw [value, units, Int.cast_mul, Int.cast_natCast, mul_div_cancel_right₀ _ hone]
  | large n =>
    rw [value, units, Int.cast_mul, Int.cast_natCast, Int.cast_natCast,
      mul_div_cancel_right₀ _ hone]

theorem value_eq_iff : n.value = m.value ↔ n.units = m.units := by
  rw [value_eq_div, value_eq_div, div_left_inj' one_pos.ne', Int.cast_inj]

theorem abs_signed (negative : Bool) (k : Nat) : |(Binary64.signed negative k : ℚ)| = k := by
  cases negative <;> simp [Binary64.signed]

/-- A word is a sign and a magnitude, and is converted from these. -/
theorem exists_ofNat (h : n.isFloat = false) :
    ∃ negative k, ∃ hk : k < UInt64.size, n.toBinary64 = .ofNat negative k hk ∧
      n.value = Binary64.signed negative k ∧
      n.units = Binary64.signed negative k * Format.double.one := by
  cases n with
  | float x => cases h
  | integer n =>
    have hsigned : Binary64.signed (n.toInt < 0) n.toInt.natAbs = n.toInt := by
      unfold Binary64.signed
      by_cases hneg : n.toInt < 0
      · rw [if_pos (decide_eq_true hneg)]
        omega
      · rw [if_neg (by simpa using hneg)]
        omega
    have hword : n.toInt.natAbs < UInt64.size := by
      have hlt := n.toInt_lt
      have hge := n.le_toInt
      simp only [UInt64.size]
      omega
    refine ⟨n.toInt < 0, n.toInt.natAbs, hword, rfl, ?_, ?_⟩
    · rw [hsigned, value]
    · rw [hsigned, units]
  | large n => exact ⟨false, n.word.toNat, n.word.toNat_lt, rfl, rfl, rfl⟩

/-- Conversion is to a nearest double. -/
theorem isNearest_toBinary64 (n : Number) : n.toBinary64.IsNearest n.units := by
  cases h : n.isFloat with
  | true =>
    cases n with
    | float x => exact x.isNearest_self
    | _ => cases h
  | false =>
    obtain ⟨negative, k, hk, hdouble, -, hunits⟩ := exists_ofNat h
    rw [hdouble, hunits]
    exact Binary64.isNearest_ofNat negative hk

/-- Whether some double has the value of the number. -/
def IsDouble (n : Number) : Prop :=
  ∃ x : Binary64, (float x).value = n.value

/-- Conversion is exact where there is an exact double. -/
theorem units_toBinary64_iff : n.toBinary64.units = n.units ↔ n.IsDouble := by
  constructor
  · intro h
    exact ⟨n.toBinary64, value_eq_iff.mpr h⟩
  · rintro ⟨x, hx⟩
    exact n.isNearest_toBinary64.units_eq (value_eq_iff.mp hx)

theorem isDouble_of_isFloat (h : n.isFloat) : n.IsDouble := by
  cases n with
  | float x => exact ⟨x, rfl⟩
  | _ => cases h

/-- A word with no more bits than a significand has is a double. -/
theorem isDouble_of_bits (h : n.isFloat = false) {significand scale : Nat}
    (hlt : significand < 2 ^ Format.double.precision)
    (hvalue : |n.value| = (significand * 2 ^ scale : Nat)) : n.IsDouble := by
  obtain ⟨negative, k, hk, hdouble, hn, hunits⟩ := exists_ofNat h
  have hbits : k = significand * 2 ^ scale := by
    rw [hn, abs_signed] at hvalue
    exact_mod_cast hvalue
  rw [← units_toBinary64_iff, hdouble, hunits]
  exact Binary64.units_ofNat_of_bits negative hk hlt hbits

/-- Integers up to `2 ^ 53` are doubles. -/
theorem isDouble_of_abs_le (h : n.isFloat = false) (hle : |n.value| ≤ 2 ^ 53) : n.IsDouble := by
  obtain ⟨negative, k, -, -, hvalue, -⟩ := exists_ofNat h
  have habs : |n.value| = k := by
    rw [hvalue, abs_signed]
  have hle : k ≤ 2 ^ 53 := by
    rw [habs] at hle
    exact_mod_cast hle
  rcases Nat.lt_or_eq_of_le hle with hlt | rfl
  · exact @isDouble_of_bits n h k 0 hlt (by simpa using habs)
  · exact @isDouble_of_bits n h 1 53 (by decide) (by simpa using habs)

/-! ### Comparison across representations -/

/-- Whether one number is a word that no double has the value of, and the other one the double that
it is rounded to. -/
def RoundsTo (n m : Number) : Prop :=
  ¬ n.IsDouble ∧ m.isFloat ∧ m.value = (float n.toBinary64).value

theorem not_roundsTo_of_isFloat (h : n.isFloat) : ¬ n.RoundsTo m :=
  fun hrounds => hrounds.1 (isDouble_of_isFloat h)

theorem not_roundsTo_of_word (h : m.isFloat = false) : ¬ n.RoundsTo m := by
  rintro ⟨-, hfloat, -⟩
  rw [h] at hfloat
  cases hfloat

/-- Words up to `2 ^ 53` are not rounded. -/
theorem lt_abs_value_of_roundsTo (h : n.RoundsTo m) : 2 ^ 53 < |n.value| := by
  by_contra hle
  cases hn : n.isFloat with
  | true => exact not_roundsTo_of_isFloat hn h
  | false => exact h.1 (isDouble_of_abs_le hn (not_lt.mp hle))

/-- Where one of two numbers is a double, conversions are compared. -/
theorem same_iff_of_isFloat (h : n.isFloat ∨ m.isFloat) :
    n.same m ↔ n.toBinary64.units = m.toBinary64.units := by
  have hfloat : (n.isFloat || m.isFloat) = true := by simpa using h
  rw [same, if_pos hfloat, Binary64.equals, beq_iff_eq]

/-- Words are the same if they have the same value. -/
theorem same_iff_of_words (hn : n.isFloat = false) (hm : m.isFloat = false) :
    n.same m ↔ n.value = m.value := by
  rw [same_eq_equals (hn.trans hm.symm)]
  cases n with
  | float x => cases hn
  | integer n =>
    cases m with
    | float x => cases hm
    | integer m => simp [equals, value, Int64.toInt_inj]
    | large m =>
      have hlt := n.toInt_lt
      have hge := m.large
      refine iff_of_false Bool.false_ne_true fun h => ?_
      rw [value, value] at h
      have hint : n.toInt = (m.word.toNat : Int) := by exact_mod_cast h
      omega
  | large n =>
    cases m with
    | float x => cases hm
    | integer m =>
      have hlt := m.toInt_lt
      have hge := n.large
      refine iff_of_false Bool.false_ne_true fun h => ?_
      rw [value, value] at h
      have hint : (n.word.toNat : Int) = m.toInt := by exact_mod_cast h
      omega
    | large m =>
      obtain ⟨n, hn⟩ := n
      obtain ⟨m, hm⟩ := m
      simp [equals, value, UInt64.toNat_inj]

theorem same_comm : n.same m ↔ m.same n := by
  by_cases h : n.isFloat ∨ m.isFloat
  · rw [same_iff_of_isFloat h, same_iff_of_isFloat h.symm, eq_comm]
  · rw [not_or, Bool.not_eq_true, Bool.not_eq_true] at h
    rw [same_iff_of_words h.1 h.2, same_iff_of_words h.2 h.1, eq_comm]

/-- A number and a double are the same if they have the same value or the number is rounded to the
double. -/
theorem same_iff_of_right (hm : m.isFloat) : n.same m ↔ n.value = m.value ∨ n.RoundsTo m := by
  have hdouble := units_toBinary64_iff.mpr (isDouble_of_isFloat hm)
  rw [same_iff_of_isFloat (.inr hm), hdouble]
  by_cases hn : n.IsDouble
  · rw [units_toBinary64_iff.mpr hn, value_eq_iff]
    exact (or_iff_left fun h => h.1 hn).symm
  · have hne : n.value ≠ m.value := by
      intro h
      rw [value_eq_iff, ← hdouble] at h
      exact hn ⟨m.toBinary64, value_eq_iff.mpr h.symm⟩
    rw [or_iff_right hne, RoundsTo, value_eq_iff]
    simp only [hn, hm, not_false_eq_true, true_and]
    exact eq_comm

/-- What comparison across representations finds the same: numbers of one value, and a word with the
double that it is rounded to. -/
theorem same_iff : n.same m ↔ n.value = m.value ∨ n.RoundsTo m ∨ m.RoundsTo n := by
  cases hm : m.isFloat with
  | true =>
    rw [or_iff_left (not_roundsTo_of_isFloat hm)]
    exact same_iff_of_right hm
  | false =>
    rw [or_iff_right (not_roundsTo_of_word hm)]
    cases hn : n.isFloat with
    | true =>
      rw [same_comm, same_iff_of_right hn]
      exact or_congr_left eq_comm
    | false =>
      rw [same_iff_of_words hn hm]
      exact (or_iff_left (not_roundsTo_of_word hn)).symm

/-- The same numbers are converted to the same double. -/
theorem units_toBinary64_of_same (h : n.same m) : n.toBinary64.units = m.toBinary64.units := by
  by_cases hfloat : n.isFloat ∨ m.isFloat
  · exact (same_iff_of_isFloat hfloat).mp h
  · rw [not_or, Bool.not_eq_true, Bool.not_eq_true] at hfloat
    rw [same_eq_equals (hfloat.1.trans hfloat.2.symm)] at h
    cases n with
    | float x => cases hfloat.1
    | integer n =>
      cases m with
      | integer m => rw [eq_of_beq h]
      | _ => cases h
    | large n =>
      cases m with
      | large m => rw [eq_of_beq h]
      | _ => cases h

/-- What is the same as one number is the same, unless they are two words of different values and
the number a double that one of them is rounded to. -/
theorem same_trans_or {k : Number} (h : n.same m) (h' : m.same k) :
    n.same k ∨ (n.isFloat = false ∧ k.isFloat = false ∧ n.value ≠ k.value ∧
      (n.RoundsTo m ∨ k.RoundsTo m)) := by
  have hunits := (units_toBinary64_of_same h).trans (units_toBinary64_of_same h')
  by_cases hfloat : n.isFloat ∨ k.isFloat
  · exact .inl ((same_iff_of_isFloat hfloat).mpr hunits)
  · rw [not_or, Bool.not_eq_true, Bool.not_eq_true] at hfloat
    obtain ⟨hn, hk⟩ := hfloat
    rw [same_iff_of_words hn hk]
    by_cases hvalue : n.value = k.value
    · exact .inl hvalue
    · refine .inr ⟨hn, hk, hvalue, ?_⟩
      -- Were neither rounded, all three would have one value.
      rcases same_iff.mp h with heq | hrounds | hrounds
      · rcases same_iff.mp h' with heq' | hrounds' | hrounds'
        · exact absurd (heq.trans heq') hvalue
        · exact absurd hrounds' (not_roundsTo_of_word hk)
        · exact .inr hrounds'
      · exact .inl hrounds
      · exact absurd hrounds (not_roundsTo_of_word hn)

end Number

namespace Schema

/-! ### Numbers as samples -/

theorem valid_literal_number_iff_same (a b : Number) :
    (literal (.number a)).valid (.number b) ↔ a.same b := by
  rw [valid_literal_iff (x := .number a) trivial, Value.alikeBy_number_iff]
  constructor
  · rintro ⟨m, hm, hsame⟩
    cases hm
    exact hsame
  · intro hsame
    exact ⟨b, rfl, hsame⟩

/-- A number, as a sample or as the only value allowed, is compared by value, except that a word
that no double has the value of is accepted for the double that it is rounded to, and the other way
round. Such a word is beyond `2 ^ 53`. Acceptance is transitive, except from a word to a word of
another value by way of such a double. -/
theorem valid_literal_number_iff (a b : Number) :
    ((literal (.number a)).valid (.number b) ↔
      a.value = b.value ∨ a.RoundsTo b ∨ b.RoundsTo a) ∧
    ((any.modify (.allow [.number a])).valid (.number b) ↔
      a.value = b.value ∨ a.RoundsTo b ∨ b.RoundsTo a) ∧
    (a.RoundsTo b → 2 ^ 53 < |a.value|) ∧
    ∀ c : Number, (literal (.number a)).valid (.number b) →
      (literal (.number b)).valid (.number c) →
      (literal (.number a)).valid (.number c) ∨
        a.isFloat = false ∧ c.isFloat = false ∧ a.value ≠ c.value ∧
          (a.RoundsTo b ∨ c.RoundsTo b) := by
  have hallow : (any.modify (.allow [.number a])).valid (.number b) ↔ a.same b := by
    rw [valid_allow_iff]
    simp [Value.same]
  simp only [hallow, valid_literal_number_iff_same]
  exact ⟨Number.same_iff, Number.same_iff, Number.lt_abs_value_of_roundsTo,
    fun c => Number.same_trans_or⟩

/-- The word behind `2 ^ 53` is rounded to that double, which is between the two words. -/
theorem valid_literal_number_iff_rounded :
    2 ^ 53 < |(Number.integer 9007199254740993).value| ∧
      ((literal (.number (.integer 9007199254740993))).valid
          (.number (.integer 9007199254740992)) ∨
        (Number.integer 9007199254740993).isFloat = false ∧
          (Number.integer 9007199254740992).isFloat = false ∧
          (Number.integer 9007199254740993).value ≠ (Number.integer 9007199254740992).value ∧
          ((Number.integer 9007199254740993).RoundsTo (.float (.ofInt64 9007199254740992)) ∨
            (Number.integer 9007199254740992).RoundsTo (.float (.ofInt64 9007199254740992)))) := by
  have hrounds :
      (Number.integer 9007199254740993).RoundsTo (.float (.ofInt64 9007199254740992)) := by
    refine ⟨?_, rfl, Number.value_eq_iff.mpr (by decide +kernel)⟩
    rw [← Number.units_toBinary64_iff]
    decide +kernel
  have hall :=
    valid_literal_number_iff (.integer 9007199254740993) (.float (.ofInt64 9007199254740992))
  exact ⟨hall.2.2.1 hrounds,
    hall.2.2.2 (.integer 9007199254740992) (by decide +kernel) (by decide +kernel)⟩

/-- `2 ^ 53 + 1` as a sample, or as the only value allowed, accepts the double `2 ^ 53`. The double
as a sample accepts the word `2 ^ 53`, which the first sample refuses. -/
theorem valid_literal_of_other_value :
    (literal (.number (.integer 9007199254740993))).valid
        (.number (.float (.ofInt64 9007199254740992))) ∧
      (any.modify (.allow [.number (.integer 9007199254740993)])).valid
        (.number (.float (.ofInt64 9007199254740992))) ∧
      (Number.integer 9007199254740993).value ≠ (Number.float (.ofInt64 9007199254740992)).value ∧
      (literal (.number (.float (.ofInt64 9007199254740992)))).valid
        (.number (.integer 9007199254740992)) ∧
      ¬ (literal (.number (.integer 9007199254740993))).valid
        (.number (.integer 9007199254740992)) := by
  rw [Ne, Number.value_eq_iff]
  decide +kernel

end Schema
end DocShape
