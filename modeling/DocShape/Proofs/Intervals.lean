import DocShape.Proofs.NumberOrder

/-!
Bounds cut out intervals.

What a bound is compared with, and its limit, are doubles that numbers and counts were converted to.
Conversion keeps the order, so what two bounds admit together is an interval, whatever their limits
are. With a number below `2 ^ 53` it keeps strict order too, and bounds at such limits hold exactly
of what was converted.

* `Side.Keeps`: the right side of a limit, whatever the limit is.
* `Endpoint.admits_bound_iff`: a bound at a small end admits what is on the right side of the end.
* `Bound.admits_of_le`, `Bound.admits_of_ge`: what lies farther inside is admitted too.
* `Schema.between`, `valid_leaf_between_iff`, `valid_array_between_iff`: schemas with bounds.
* `Schema.valid_between_iff`: integers, strings and arrays between two ends.
-/

namespace DocShape

/-! ### Sides of a limit -/

/-- Whether a quantity is on the right side of a limit. -/
def Side.Keeps {α : Type} [LE α] [LT α] (side : Side) (inclusive : Bool) (limit q : α) : Prop :=
  match side, inclusive with
  | .min, true => limit ≤ q
  | .min, false => limit < q
  | .max, true => q ≤ limit
  | .max, false => q < limit

namespace Side

variable {α β : Type} [LinearOrder α] [LinearOrder β] {inclusive : Bool} {limit q : α}

/-- Only how the quantity compares with the limit matters. -/
theorem keeps_iff_of_compare {limit' q' : β} (h : compare q limit = compare q' limit')
    (side : Side) : side.Keeps inclusive limit q ↔ side.Keeps inclusive limit' q' := by
  have hlt : q < limit ↔ q' < limit' := by
    rw [← compare_lt_iff_lt, h, compare_lt_iff_lt]
  have hgt : limit < q ↔ limit' < q' := by
    rw [← compare_gt_iff_gt, h, compare_gt_iff_gt]
  cases side with
  | min =>
    cases inclusive with
    | true => exact not_lt.symm.trans ((not_congr hlt).trans not_lt)
    | false => exact hgt
  | max =>
    cases inclusive with
    | true => exact not_lt.symm.trans ((not_congr hgt).trans not_lt)
    | false => exact hlt

theorem keeps_min_of_le {q' : α} (h : q ≤ q') (hq : Side.min.Keeps inclusive limit q) :
    Side.min.Keeps inclusive limit q' := by
  cases inclusive with
  | true => exact le_trans hq h
  | false => exact lt_of_lt_of_le hq h

theorem keeps_max_of_le {q' : α} (h : q ≤ q') (hq : Side.max.Keeps inclusive limit q') :
    Side.max.Keeps inclusive limit q := by
  cases inclusive with
  | true => exact le_trans h hq
  | false => exact lt_of_le_of_lt h hq

end Side

/-! ### Bounds -/

namespace Bound

/-- A finite limit is compared in units. -/
theorem admits_finite_iff (x y : Binary64) (inclusive : Bool) (side : Side) :
    (⟨.finite y, inclusive⟩ : Bound).admits side x ↔ side.Keeps inclusive y.units x.units := by
  unfold admits Limit.place
  dsimp only
  rcases lt_trichotomy x.units y.units with hlt | heq | hgt
  · rw [compare_lt_iff_lt.mpr hlt]
    cases side <;> cases inclusive <;> simp [Side.Keeps, hlt, hlt.le, hlt.not_ge, hlt.not_gt]
  · rw [compare_eq_iff_eq.mpr heq]
    cases side <;> cases inclusive <;> simp [Side.Keeps, heq]
  · rw [compare_gt_iff_gt.mpr hgt]
    cases side <;> cases inclusive <;> simp [Side.Keeps, hgt, hgt.le, hgt.not_ge, hgt.not_gt]

/-- What is greater than something admitted is admitted by a lower bound. -/
theorem admits_of_le {b : Bound} {x y : Binary64} (h : x.units ≤ y.units) (hx : b.admits .min x) :
    b.admits .min y := by
  obtain ⟨limit, inclusive⟩ := b
  cases limit with
  | finite z =>
    rw [admits_finite_iff] at hx ⊢
    exact Side.keeps_min_of_le h hx
  | infinite negative => exact hx
  | undefined => exact hx

/-- What is less than something admitted is admitted by an upper bound. -/
theorem admits_of_ge {b : Bound} {x y : Binary64} (h : x.units ≤ y.units) (hy : b.admits .max y) :
    b.admits .max x := by
  obtain ⟨limit, inclusive⟩ := b
  cases limit with
  | finite z =>
    rw [admits_finite_iff] at hy ⊢
    exact Side.keeps_max_of_le h hy
  | infinite negative => exact hy
  | undefined => exact hy

end Bound

/-- An end of an interval: a number, and whether it belongs to the interval. -/
structure Endpoint where
  limit : Number
  inclusive : Bool

namespace Endpoint

/-- The end as a bound. -/
def bound (e : Endpoint) : Bound := ⟨.ofNumber e.limit, e.inclusive⟩

/-- Whether the end is below `2 ^ 53` in magnitude. -/
def IsSmall (e : Endpoint) : Prop := |e.limit.value| < 2 ^ 53

theorem isSmall_integer {n : Int64} (h : |n.toInt| < 2 ^ 53) (inclusive : Bool) :
    IsSmall ⟨.integer n, inclusive⟩ := by
  have hcast : |(n.toInt : ℚ)| < 2 ^ 53 := by exact_mod_cast h
  exact hcast

/-- Whether a quantity is on the right side of the end. -/
def Keeps (e : Endpoint) (side : Side) (q : ℚ) : Prop :=
  side.Keeps e.inclusive e.limit.value q

/-- A bound at a small end admits exactly the numbers on the right side of it. -/
theorem admits_bound_iff {e : Endpoint} (h : e.IsSmall) (side : Side) (n : Number) :
    e.bound.admits side n.toBinary64 ↔ e.Keeps side n.value := by
  rw [bound, Limit.ofNumber, Bound.admits_finite_iff]
  exact Side.keeps_iff_of_compare (Number.compare_toBinary64 h) side

end Endpoint

/-- Whether a quantity lies between two ends; an end that is missing keeps nothing out. -/
def Between (lower upper : Option Endpoint) (q : ℚ) : Prop :=
  (∀ e ∈ lower, e.Keeps .min q) ∧ ∀ e ∈ upper, e.Keeps .max q

/-! ### Schemas -/

/-- A count below `2 ^ 53` is measured as a number of its value. -/
theorem exists_number_of_count {k : Nat} (h : k < 2 ^ 53) :
    ∃ n : Number, n.value = k ∧ Binary64.ofRatio? false k 1 = some n.toBinary64 := by
  have hword : (Int64.ofNat k).toInt = k := Int64.toInt_ofNat_of_lt (by omega)
  have hsign : decide ((k : Int) < 0) = false := decide_eq_false (by omega)
  refine ⟨.integer (.ofNat k), ?_, ?_⟩
  · rw [Number.value, hword]
    rfl
  · have hconverted := Binary64.ofRatio?_toInt (.ofNat k)
    rwa [hword, hsign, Int.natAbs_natCast] at hconverted

namespace Rules

theorem boundFailures_eq_nil_iff {side : Side} {bound : Option Bound} {v : Value} {x : Binary64}
    (hx : v.measure? = some x) :
    boundFailures side bound v = [] ↔ ∀ b ∈ bound, b.admits side x := by
  cases bound with
  | none => simp [boundFailures]
  | some b => simp [boundFailures, hx]

/-- Rules that are bounds alone are kept by what lies within them. -/
theorem failures_of_bounds_eq_nil_iff {lower upper : Option Bound} {v : Value} {x : Binary64}
    (hx : v.measure? = some x) :
    Rules.failures { min := lower, max := upper } v = [] ↔
      (∀ b ∈ lower, b.admits .min x) ∧ ∀ b ∈ upper, b.admits .max x := by
  rw [failures_eq_nil_iff, boundFailures_eq_nil_iff hx, boundFailures_eq_nil_iff hx]
  exact and_iff_right nofun

end Rules

namespace Schema

/-- The schema with a lower bound and an upper one, or with one of them. -/
def between (s : Schema) (lower upper : Option Bound) : Schema :=
  s.modifyAll ((lower.map (Modifier.bound .min)).toList ++ (upper.map (Modifier.bound .max)).toList)

theorem between_eq_mapRules (s : Schema) (lower upper : Option Bound) :
    s.between lower upper =
      s.mapRules fun r => { r with min := lower.or r.min, max := upper.or r.max } := by
  cases lower <;> cases upper <;> cases s <;> rfl

variable {lower upper : Option Bound} {x : Binary64}

/-- A leaf with bounds accepts a node with its tag that has a measure within them. -/
theorem valid_leaf_between_iff {kind : LeafKind} {v : Value} (htag : kind.tag? = some v.tag)
    (hpattern : kind.patternFailures v = []) (hx : v.measure? = some x) :
    ((ofKind kind).between lower upper).valid v ↔
      (∀ b ∈ lower, b.admits .min x) ∧ ∀ b ∈ upper, b.admits .max x := by
  have hnull : v ≠ .null := by
    rintro rfl
    cases hx
  rw [between_eq_mapRules, ofKind, mapRules, valid_leaf_iff htag, Rules.prepared_eq_self rfl]
  simp only [hnull, false_and, false_or, hpattern, true_and, and_true, Option.or_none]
  exact Rules.failures_of_bounds_eq_nil_iff hx

/-- An array with bounds accepts as many items as are within them, if it accepts each. -/
theorem valid_array_between_iff {element : Schema} {items : List Value}
    (hx : (Value.array items).measure? = some x) :
    ((arrayOf element).between lower upper).valid (.array items) ↔
      ((∀ b ∈ lower, b.admits .min x) ∧ ∀ b ∈ upper, b.admits .max x) ∧
        ∀ v ∈ items, element.valid v := by
  rw [between_eq_mapRules, arrayOf, mapRules, valid_array_iff]
  simp only [reduceCtorEq, false_and, false_or, Value.array.injEq, exists_eq_left', Option.or_none,
    Rules.failures_of_bounds_eq_nil_iff hx]

theorem valid_integer_between_iff (v : Int64) :
    (integer.between lower upper).valid (.number (.integer v)) ↔
      (∀ b ∈ lower, b.admits .min (.ofInt64 v)) ∧ ∀ b ∈ upper, b.admits .max (.ofInt64 v) :=
  valid_leaf_between_iff rfl rfl rfl

/-- Between two accepted integers every integer is accepted, whatever the bounds are. -/
theorem valid_integer_between_of_le {a b c : Int64} (hab : a ≤ b) (hbc : b ≤ c)
    (ha : (integer.between lower upper).valid (.number (.integer a)))
    (hc : (integer.between lower upper).valid (.number (.integer c))) :
    (integer.between lower upper).valid (.number (.integer b)) := by
  have hunits {n m : Int64} (h : n ≤ m) :
      (Binary64.ofInt64 n).units ≤ (Binary64.ofInt64 m).units := by
    refine Number.units_toBinary64_le (n := .integer n) (m := .integer m) ?_
    exact Int.cast_le.mpr (Int64.le_iff_toInt_le.mp h)
  rw [valid_integer_between_iff] at ha hc ⊢
  refine ⟨fun bound hbound => ?_, fun bound hbound => ?_⟩
  · exact Bound.admits_of_le (hunits hab) (ha.1 bound hbound)
  · exact Bound.admits_of_ge (hunits hbc) (hc.2 bound hbound)

/-- Small ends as bounds admit what lies between the ends. -/
theorem admits_bounds_iff {lower upper : Option Endpoint} (hlower : ∀ e ∈ lower, e.IsSmall)
    (hupper : ∀ e ∈ upper, e.IsSmall) (n : Number) :
    ((∀ b ∈ lower.map Endpoint.bound, b.admits .min n.toBinary64) ∧
      ∀ b ∈ upper.map Endpoint.bound, b.admits .max n.toBinary64) ↔
        Between lower upper n.value := by
  have hside {side : Side} {e? : Option Endpoint} (h : ∀ e ∈ e?, e.IsSmall) :
      (∀ b ∈ e?.map Endpoint.bound, b.admits side n.toBinary64) ↔
        ∀ e ∈ e?, e.Keeps side n.value := by
    cases e? with
    | none => simp
    | some e => simpa using Endpoint.admits_bound_iff (h e rfl) side n
  exact and_congr (hside hlower) (hside hupper)

/-- With limits below `2 ^ 53` in magnitude a schema accepts exactly the integers between the
limits, the strings with a number of characters between them, and the arrays with a number of
accepted items between them. With any limits, it accepts every integer between two accepted ones. -/
theorem valid_between_iff (lower upper : Option Endpoint) (hlower : ∀ e ∈ lower, e.IsSmall)
    (hupper : ∀ e ∈ upper, e.IsSmall) :
    (∀ v : Int64, (integer.between (lower.map Endpoint.bound) (upper.map Endpoint.bound)).valid
      (.number (.integer v)) ↔ Between lower upper v.toInt) ∧
    (∀ s : String, s.length < 2 ^ 53 →
      ((string.between (lower.map Endpoint.bound) (upper.map Endpoint.bound)).valid (.string s) ↔
        Between lower upper s.length)) ∧
    (∀ (element : Schema) (items : List Value), items.length < 2 ^ 53 →
      (((arrayOf element).between (lower.map Endpoint.bound) (upper.map Endpoint.bound)).valid
        (.array items) ↔ Between lower upper items.length ∧ ∀ v ∈ items, element.valid v)) ∧
    ∀ (lower upper : Option Bound) (a b c : Int64), a ≤ b → b ≤ c →
      (integer.between lower upper).valid (.number (.integer a)) →
      (integer.between lower upper).valid (.number (.integer c)) →
      (integer.between lower upper).valid (.number (.integer b)) := by
  refine ⟨fun v => ?_, fun s hs => ?_, fun element items hitems => ?_, ?_⟩
  · rw [valid_integer_between_iff]
    exact admits_bounds_iff hlower hupper (.integer v)
  · obtain ⟨n, hn, hmeasure⟩ := exists_number_of_count hs
    rw [← hn, ← admits_bounds_iff hlower hupper]
    exact valid_leaf_between_iff rfl rfl hmeasure
  · obtain ⟨n, hn, hmeasure⟩ := exists_number_of_count hitems
    rw [← hn, ← admits_bounds_iff hlower hupper]
    exact valid_array_between_iff hmeasure
  · intro lower upper a b c hab hbc
    exact valid_integer_between_of_le hab hbc

/-- From two characters to fewer than four: three Greek letters are within, and four items are not.
With an upper bound that is not finite the integer between two accepted ones is accepted. -/
theorem valid_between_iff_letters :
    (string.between (some ⟨.ofNumber (.integer 2), true⟩)
        (some ⟨.ofNumber (.integer 4), false⟩)).valid (.string "αβγ") ∧
      ¬ ((arrayOf any).between (some ⟨.ofNumber (.integer 2), true⟩)
        (some ⟨.ofNumber (.integer 4), false⟩)).valid (.array (List.replicate 4 .null)) ∧
      (integer.between (some ⟨.ofNumber (.integer 2), true⟩) (some ⟨.infinite false, false⟩)).valid
        (.number (.integer 9007199254740993)) := by
  have hlower : ∀ e ∈ some (Endpoint.mk (.integer 2) true), e.IsSmall := by
    rintro e ⟨rfl⟩
    exact Endpoint.isSmall_integer (by decide) true
  have hupper : ∀ e ∈ some (Endpoint.mk (.integer 4) false), e.IsSmall := by
    rintro e ⟨rfl⟩
    exact Endpoint.isSmall_integer (by decide) false
  have htwo : (2 : Int64).toInt = 2 := by decide
  have hfour : (4 : Int64).toInt = 4 := by decide
  obtain ⟨-, hstring, harray, hbetween⟩ := valid_between_iff _ _ hlower hupper
  refine ⟨(hstring "αβγ" (by decide)).mpr ⟨?_, ?_⟩, fun hvalid => ?_, ?_⟩
  · rintro e ⟨rfl⟩
    simpa [Endpoint.Keeps, Side.Keeps, Number.value, htwo] using
      show 2 ≤ "αβγ".length by decide
  · rintro e ⟨rfl⟩
    simpa [Endpoint.Keeps, Side.Keeps, Number.value, hfour] using
      show "αβγ".length < 4 by decide
  · have hkeeps := ((harray any _ (by decide)).mp hvalid).1.2 _ rfl
    simp [Endpoint.Keeps, Side.Keeps, Number.value, hfour] at hkeeps
  · exact hbetween _ _ 2 _ 9007199254740994 (by decide) (by decide) (by decide +kernel)
      (by decide +kernel)

/-- At `2 ^ 53` itself a bound no longer tells the next word from the limit. -/
example : ¬ (integer.between (some ⟨.ofNumber (.integer 9007199254740992), false⟩) none).valid
    (.number (.integer 9007199254740993)) := by
  decide +kernel

end Schema
end DocShape
