import DocShape.Number.Rounding

/-!
Double precision numbers that are finite, kept exactly: a sign and a magnitude. Zero has a sign
too. Two of them are compared through `units`, the whole number of units of `2 ^ -1074` that a
number is worth, so the two zeros are equal there.

Main statement: `isSome_ofRatio?`, nothing of the size of a word overflows.
-/

namespace DocShape

-- Powers are those of core, whatever else is imported.
attribute [local instance (2000)] instPowNat

/-- The number `± magnitude`. -/
structure Binary64 where
  negative : Bool
  magnitude : Format.double.Magnitude

namespace Binary64

theorem ext {x y : Binary64} (hn : x.negative = y.negative)
    (hm : x.magnitude.significand = y.magnitude.significand)
    (hs : x.magnitude.scale = y.magnitude.scale) : x = y := by
  obtain ⟨_, ⟨_, _, _, _⟩⟩ := x
  obtain ⟨_, ⟨_, _, _, _⟩⟩ := y
  simp_all

instance : DecidableEq Binary64 := fun x y =>
  if h : x.negative = y.negative ∧ x.magnitude.significand = y.magnitude.significand ∧
      x.magnitude.scale = y.magnitude.scale then
    isTrue (ext h.1 h.2.1 h.2.2)
  else isFalse fun e => h (by simp [e])

/-- Zero of either sign. -/
def zero (negative : Bool) : Binary64 :=
  ⟨negative, 0, 0, ⟨by decide, fun h => absurd rfl h⟩, Nat.zero_le _⟩

instance : Inhabited Binary64 := ⟨zero false⟩

/-- The value in units of `2 ^ -1074`. -/
def units (x : Binary64) : Int :=
  if x.negative then -x.magnitude.units else x.magnitude.units

theorem units_zero (negative : Bool) : (zero negative).units = 0 := by
  cases negative <;> rfl

/-- Numeric equality; the two zeros are equal. -/
def equals (x y : Binary64) : Bool :=
  x.units == y.units

/-- The number nearest to `± num / den`, a half going to the even significand; none when that is
beyond the largest finite one. -/
def ofRatio? (negative : Bool) (num den : Nat) : Option Binary64 :=
  (Format.double.nearest? num den).map (⟨negative, ·⟩)

theorem isSome_ofRatio? (negative : Bool) {num den : Nat} (h : num < den * UInt64.size) :
    (ofRatio? negative num den).isSome := by
  have hk : 64 + Format.double.unitExponent + 1 <
      Format.double.precision + Format.double.maxScale := by simp [Format.double]
  have hs := Format.double.isSome_nearest? h hk (by simp [Format.double])
  simpa [ofRatio?] using hs

/-- The number nearest to `± n`. -/
def ofNat (negative : Bool) (n : Nat) (h : n < UInt64.size) : Binary64 :=
  (ofRatio? negative n 1).get (isSome_ofRatio? negative (by omega))

/-- The number nearest to a signed word. -/
def ofInt64 (n : Int64) : Binary64 :=
  ofNat (n.toInt < 0) n.toInt.natAbs (by
    have := n.toInt_lt
    have := n.le_toInt
    simp only [UInt64.size]
    omega)

/-- A signed word is converted from its sign and its magnitude. -/
theorem ofRatio?_toInt (n : Int64) :
    ofRatio? (n.toInt < 0) n.toInt.natAbs 1 = some (ofInt64 n) :=
  (Option.some_get _).symm

/-- The number nearest to an unsigned word. -/
def ofUInt64 (n : UInt64) : Binary64 :=
  ofNat false n.toNat n.toNat_lt

/-- The number without its fraction. -/
def whole (x : Binary64) : Binary64 :=
  ⟨x.negative, x.magnitude.whole⟩

/-- The whole number that remains when the fraction is dropped. -/
def truncate (x : Binary64) : Int :=
  x.units.tdiv Format.double.one

/-- The signed word that is nearest to the number without its fraction. -/
def toInt64 (x : Binary64) : Int64 :=
  .ofIntClamp x.truncate

/-- The number nearest to `± digits * 10 ^ exponent`; none when it overflows. The digits are
`length` many, leading zeros included; that decides far exponents without computing a power. -/
def ofDecimal? (negative : Bool) (digits length : Nat) (exponent : Int) : Option Binary64 :=
  if digits = 0 ∨ exponent + length < -400 then some (zero negative)
  else if 400 < exponent then none
  else ofRatio? negative (digits * 10 ^ exponent.toNat) (10 ^ (-exponent).toNat)

/-- The number after a detour through single precision; none when it overflows there. -/
def throughSingle? (x : Binary64) : Option Binary64 :=
  (Format.single.nearest? x.magnitude.units Format.double.one).bind fun y =>
    ofRatio? x.negative y.units Format.single.one

end Binary64
end DocShape
