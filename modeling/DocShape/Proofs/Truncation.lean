import DocShape.Access.Call
import DocShape.Proofs.Extraction
import DocShape.Proofs.NumberOrder
import Mathlib.Data.Rat.Floor

/-!
Conversion of doubles and large words to integers.

The fraction is dropped, and then the double has to lie within the words. The bounds are doubles
too, and the greatest word is rounded up to `2 ^ 63`, the first number beyond the words, so that it
is excluded. What passes is a word and is not clamped. A large word is rounded first, but not to
anything below `2 ^ 63`.

* `towardZero`, `Binary64.truncate_eq_towardZero`: a number without its fraction.
* `Coercion.floatToInteger_eq`: the word that a double is without its fraction, if it is one.
* `Value.BecomesInteger`: what conversion to integers makes of a node, in schemas and lookups too.
* `becomesInteger_towardZero`: doubles and large words become what they are without their fraction.
-/

namespace DocShape

/-! ### Without the fraction -/

/-- The integer that remains of a number without its fraction. -/
def towardZero (q : ℚ) : ℤ :=
  if 0 ≤ q then ⌊q⌋ else ⌈q⌉

theorem towardZero_intCast (n : ℤ) : towardZero n = n := by
  unfold towardZero
  split
  · exact Int.floor_intCast n
  · exact Int.ceil_intCast n

/-- Division of integers drops the fraction of the quotient. -/
theorem towardZero_div (n : ℤ) {d : ℕ} (hd : 0 < d) : towardZero (n / d) = n.tdiv d := by
  have hpos : (0 : ℚ) < d := Nat.cast_pos.mpr hd
  unfold towardZero
  by_cases hn : 0 ≤ n
  · rw [if_pos (div_nonneg (Int.cast_nonneg hn) hpos.le), Rat.floor_intCast_div_natCast,
      Int.tdiv_eq_ediv_of_nonneg hn]
  · rw [not_le] at hn
    rw [if_neg (not_le.mpr (div_neg_of_neg_of_pos (Int.cast_lt_zero.mpr hn) hpos)),
      Rat.ceil_intCast_div_natCast, ← Int.tdiv_eq_ediv_of_nonneg (by omega), Int.neg_tdiv, neg_neg]

namespace Binary64

theorem natCast_one_pos : (0 : Int) < Format.double.one :=
  Int.natCast_pos.mpr (Nat.two_pow_pos _)

theorem truncate_eq_towardZero (x : Binary64) : x.truncate = towardZero (Number.float x).value :=
  (towardZero_div x.units (Nat.two_pow_pos _)).symm

/-- The double without its fraction is the integer without fraction. -/
theorem units_whole (x : Binary64) : x.whole.units = x.truncate * Format.double.one := by
  unfold whole truncate units
  dsimp only
  rw [Format.Magnitude.units_whole, Int.natCast_mul, Int.ofNat_tdiv]
  cases x.negative with
  | false => rfl
  | true => rw [if_pos rfl, if_pos rfl, Int.neg_tdiv, Int.neg_mul]

theorem truncate_whole (x : Binary64) : x.whole.truncate = x.truncate := by
  rw [truncate, units_whole, Int.mul_tdiv_cancel _ natCast_one_pos.ne']

/-- The least word is a double. -/
theorem units_minValue : (ofInt64 .minValue).units = -2 ^ 63 * Format.double.one := by
  decide +kernel

/-- The greatest word is none, and is rounded up. -/
theorem units_maxValue : (ofInt64 .maxValue).units = 2 ^ 63 * Format.double.one := by
  decide +kernel

end Binary64

/-! ### Within the words -/

/-- The check and the cast deliver the word that the double is without its fraction, if it is
one. -/
theorem Coercion.floatToInteger_eq (n : Number) :
    floatToInteger (.number n) =
      (signedWord? n.toBinary64.truncate).map (.number ∘ .integer) := by
  rw [floatToInteger, Binary64.units_minValue, Binary64.units_maxValue, Binary64.units_whole]
  simp only [Int.mul_lt_mul_right Binary64.natCast_one_pos,
    Int.mul_le_mul_right Binary64.natCast_one_pos]
  split
  · rename_i hout
    rw [signedWord?, if_neg (by omega)]
    rfl
  · rename_i hin
    rw [not_or, not_lt, not_le] at hin
    have hword : n.toBinary64.whole.toInt64.toInt = n.toBinary64.truncate := by
      rw [Binary64.toInt64, Binary64.truncate_whole]
      exact Int64.toInt_ofIntClamp hin.1 (Int.le_of_lt_add_one hin.2)
    rw [signedWord?_eq_some_iff.mpr hword]
    rfl

namespace Number

/-- A large word is beyond the signed ones, and it stays there when it is rounded. -/
theorem le_truncate_large (n : LargeWord) : 2 ^ 63 ≤ (large n).toBinary64.truncate := by
  have hvalue : (large ⟨0x8000000000000000, by decide⟩).value ≤ (large n).value :=
    Nat.cast_le.mpr n.large
  have hleast : (large ⟨0x8000000000000000, by decide⟩).toBinary64.units =
      2 ^ 63 * Format.double.one := by decide +kernel
  have hle := units_toBinary64_le hvalue
  rw [hleast] at hle
  have hpos := Int.mul_nonneg (show (0 : Int) ≤ 2 ^ 63 by decide) Binary64.natCast_one_pos.le
  rw [Binary64.truncate, Int.tdiv_eq_ediv_of_nonneg (hpos.trans hle)]
  exact Int.le_ediv_of_mul_le Binary64.natCast_one_pos hle

/-- Rounding does not matter to what a number becomes without its fraction, if that is a word. -/
theorem signedWord?_truncate {n : Number} (h : (Value.number n).tag = .float) :
    signedWord? n.toBinary64.truncate = signedWord? (towardZero n.value) := by
  cases n with
  | integer n => cases h
  | float x => rw [← x.truncate_eq_towardZero, toBinary64]
  | large n =>
    have hvalue : towardZero (large n).value = n.word.toNat := towardZero_intCast n.word.toNat
    have hlarge := n.large
    have hround := le_truncate_large n
    rw [hvalue, signedWord?, signedWord?, if_neg (by omega), if_neg (by omega)]

end Number

/-- Doubles and large words become what they are without their fraction, if that is a word. -/
theorem coerce_integer_of_float {n : Number} (h : (Value.number n).tag = .float) :
    coerce (.number n) .integer =
      (signedWord? (towardZero n.value)).map (.replaced ∘ .number ∘ .integer) := by
  have hne : Tag.float ≠ .integer := by decide
  rw [coerce, h, if_neg hne, Coercion.conversion?, Option.bind_some, Coercion.floatToInteger_eq,
    Option.map_map, Number.signedWord?_truncate h]

/-! ### Wherever integers are wanted -/

/-- A schema for integers that converts is passed by what can be converted. -/
theorem Schema.parse_integer_coerces (v : Value) :
    (integer.modify .coerces).parse v =
      match coerce v .integer with
      | some o => .ok (o.on v)
      | none => .error ⟨[], .mismatch .integer v.tag⟩ := by
  -- There are no other rules to keep.
  have hcheck : (integer.modify .coerces).check [] v =
      Rules.admit { coerces := true } [] (some .integer) v >>= pure :=
    if_neg (by rw [Rules.acceptsNull, Bool.and_eq_true_iff]; exact nofun)
  rw [parse, hcheck, bind_pure, Rules.admit]
  by_cases htag : v.tag = .integer
  · rw [if_pos htag, coerce_eq_kept_iff.mpr htag]
    rfl
  · rw [if_neg htag]
    dsimp only
    rw [if_pos (.inl rfl)]
    cases coerce v .integer with
    | none => rfl
    | some o => rfl

/-- What becomes of a node where an integer is wanted. -/
structure Value.BecomesInteger (v : Value) (n? : Option Int64) : Prop where
  coerced : coerce v .integer = n?.map (.replaced ∘ .number ∘ .integer)
  /-- A schema that converts puts the integer in its place. -/
  parsed : ∀ n ∈ n?, (Schema.integer.modify .coerces).parse v = .ok (.number (.integer n))
  /-- It reports the tag of a node that does not become an integer. -/
  refused : n? = none →
    (Schema.integer.modify .coerces).parse v = .error ⟨[], .mismatch .integer v.tag⟩
  /-- The default stands in for it in lookups by every address. -/
  ensured : ∀ (a : Accessor) (address : Address) (p : Place), a.place? address = some p →
    p.node = some v → a.call? (.lookup address .integer .ensureCast) =
      some (.ok (some (.scalar (.number (.integer (n?.getD 0))))))
  /-- It is left out among the elements of a sequence. -/
  element : ∀ before after : List Value,
    (Elements.mk (before ++ v :: after)).ensureCast .integer =
      (Elements.mk before).ensureCast .integer ++ n?.toList ++
        (Elements.mk after).ensureCast .integer

theorem Value.becomesInteger_of_coerce {v : Value} {n? : Option Int64}
    (h : coerce v .integer = n?.map (.replaced ∘ .number ∘ .integer)) : v.BecomesInteger n? := by
  have hcast : Target.cast? .integer v = n? := by
    rw [Target.cast?_eq_bind, Target.tag, h]
    cases n? <;> rfl
  refine ⟨h, ?_, ?_, ?_, ?_⟩
  · rintro n rfl
    rw [Schema.parse_integer_coerces, h]
    rfl
  · rintro rfl
    rw [Schema.parse_integer_coerces, h]
    rfl
  · intro a address p hp hnode
    have hasserts : (Lookup.ensureCast : Lookup .integer) ≠ .assertGet := by
      intro heq
      cases heq
    rw [Accessor.call?_lookup hp hasserts, Lookup.atPlace, Lookup.answer, Place.ensureCast,
      Place.ensureCastOr, Place.optionalCast, hnode, Option.bind_some, hcast]
    rfl
  · intro before after
    have hoptional : (Place.ofNode v).optionalCast .integer = n? := hcast
    simp only [Elements.ensureCast, List.filterMap_eq_flatMap_toList, List.flatMap_append,
      List.flatMap_cons, hoptional, List.append_assoc]

/-! ### Doubles and large words -/

/-- A double or a large word becomes what it is without its fraction wherever an integer is wanted,
if that is a word. If it is none, nothing becomes of it: it is neither clamped to a word nor
wrapped. -/
theorem becomesInteger_towardZero {n : Number} (h : (Value.number n).tag = .float) :
    ∃ n? : Option Int64, (Value.number n).BecomesInteger n? ∧
      (∀ word, n? = some word ↔ word.toInt = towardZero n.value) ∧
      (n? = none ↔ ¬ (-2 ^ 63 ≤ towardZero n.value ∧ towardZero n.value < 2 ^ 63)) := by
  refine ⟨signedWord? (towardZero n.value), ?_, fun word => signedWord?_eq_some_iff, ?_⟩
  · exact Value.becomesInteger_of_coerce (coerce_integer_of_float h)
  · rw [signedWord?_eq_none_iff]
    norm_num

/-- Minus two and a half becomes minus two, and nothing becomes of the greatest large word, which is
rounded to `2 ^ 64`. -/
theorem becomesInteger_towardZero_fraction_and_word :
    (Value.number (.float ⟨true, 5 * 2 ^ 50, 1023, ⟨by decide, fun _ => by decide⟩,
        by decide⟩)).BecomesInteger (some (-2)) ∧
      (Value.number (.large ⟨0xFFFFFFFFFFFFFFFF, by decide⟩)).BecomesInteger none := by
  constructor
  · obtain ⟨n?, hbecomes, hword, -⟩ := becomesInteger_towardZero
      (n := .float ⟨true, 5 * 2 ^ 50, 1023, ⟨by decide, fun _ => by decide⟩, by decide⟩) rfl
    rw [← Binary64.truncate_eq_towardZero] at hword
    rwa [(hword (-2)).mpr (by decide +kernel)] at hbecomes
  · obtain ⟨n?, hbecomes, -, hnone⟩ := becomesInteger_towardZero
      (n := .large ⟨0xFFFFFFFFFFFFFFFF, by decide⟩) rfl
    have hvalue : towardZero (Number.large ⟨0xFFFFFFFFFFFFFFFF, by decide⟩).value =
        0xFFFFFFFFFFFFFFFF := towardZero_intCast 0xFFFFFFFFFFFFFFFF
    rw [hvalue] at hnone
    rwa [hnone.mpr (by decide)] at hbecomes

/-- The least large word is beyond the words. A lookup puts the default in its place, but a walk
along elements does not: it has one element less. -/
theorem ensureCast_elements_without_default :
    (Value.number (.large ⟨0x8000000000000000, by decide⟩)).tag = .float ∧
      coerce (.number (.large ⟨0x8000000000000000, by decide⟩)) .integer = none ∧
      (Place.ofNode (.number (.large ⟨0x8000000000000000, by decide⟩))).ensureCast .integer =
        (0 : Int64) ∧
      (Elements.mk [.number (.large ⟨0x8000000000000000, by decide⟩)]).ensureCast .integer =
        [] := by
  decide +kernel

end DocShape
