import DocShape.Proofs.NumberValue

/-!
Schemas by example as an equality of documents.

Matching a document against a sample is written one-sidedly: the keys of the sample are looked for,
and then the document is looked through for other keys; the items of the sample are gone through
after the lengths were compared. What it decides has no sides. A document matches exactly if it is
related to the sample by the least relation that goes through sequences item by item and through
mappings key by key, and that relates scalars if they are equal and numbers if they agree.

* `Number.Agrees`, `same_iff_agrees`: numbers agree if they are one number, or if one of them is a
  double and both convert to equal doubles.
* `AlikeBy.symm`: the relation is symmetric as far as the comparison of numbers is.
* `Schema.error?_literal_eq_none_iff`: the relation, and that the sample and the document may change
  places.
-/

namespace DocShape

namespace Number

/-- Whether numbers have one representation, or one of them is a double and their doubles are
equal. -/
def Agrees (n m : Number) : Prop :=
  n = m ∨ (n.isFloat ∨ m.isFloat) ∧ n.toBinary64.units = m.toBinary64.units

instance (n m : Number) : Decidable (n.Agrees m) :=
  inferInstanceAs (Decidable (_ ∨ _))

variable {n m : Number}

/-- Words are equal within their representation only if they are one word. -/
theorem equals_iff_eq_of_words (hn : n.isFloat = false) (hm : m.isFloat = false) :
    n.equals m ↔ n = m := by
  cases n with
  | float x => cases hn
  | integer n =>
    cases m with
    | float y => cases hm
    | integer m => simp [equals]
    | large m => simp [equals]
  | large n =>
    cases m with
    | float y => cases hm
    | integer m => simp [equals]
    | large m => simp [equals]

theorem same_iff_agrees : n.same m ↔ n.Agrees m := by
  by_cases hfloat : n.isFloat ∨ m.isFloat
  · rw [same_iff_of_isFloat hfloat, Agrees]
    constructor
    · intro hunits
      exact .inr ⟨hfloat, hunits⟩
    · rintro (rfl | ⟨-, hunits⟩)
      · rfl
      · exact hunits
  · rw [Agrees, or_iff_left fun h => hfloat h.1]
    rw [not_or, Bool.not_eq_true, Bool.not_eq_true] at hfloat
    rw [same_eq_equals (hfloat.1.trans hfloat.2.symm)]
    exact equals_iff_eq_of_words hfloat.1 hfloat.2

end Number

namespace Value

/-- Documents that are alike may change places if numbers may. -/
theorem AlikeBy.symm {eq : Number → Number → Bool} (hsymm : ∀ n m, eq n m → eq m n) {x v : Value}
    (h : x.AlikeBy eq v) : v.AlikeBy eq x := by
  induction x using Value.inductKinds generalizing v with
  | null =>
    obtain rfl := alikeBy_null_iff.mp h
    exact .null
  | bool b =>
    obtain rfl := alikeBy_bool_iff.mp h
    exact .bool b
  | number n =>
    obtain ⟨m, rfl, hnm⟩ := alikeBy_number_iff.mp h
    exact .number (hsymm n m hnm)
  | string s =>
    obtain rfl := alikeBy_string_iff.mp h
    exact .string s
  | array items ih =>
    obtain ⟨items', rfl, hitems⟩ := alikeBy_array_iff.mp h
    apply AlikeBy.array
    apply List.Forall₂.flip
    exact forall₂_imp_of_mem hitems fun y hy _ _ => ih y hy
  | object fields ih =>
    obtain ⟨fields', rfl, hfields⟩ := alikeBy_object_iff.mp h
    apply AlikeBy.object
    intro key
    have hkey := hfields key
    generalize hfound : fields.lookup key = found at hkey ⊢
    generalize fields'.lookup key = found' at hkey ⊢
    cases hkey with
    | none => exact .none
    | some hxy => exact .some (ih _ (Entries.mem_of_lookup_eq_some hfound) hxy)

/-- The comparison of numbers, said without the order in which they are compared. -/
theorem alikeBy_same_iff {x v : Value} :
    x.AlikeBy Number.same v ↔ x.AlikeBy (fun n m => n.Agrees m) v := by
  have hcompare : Number.same = fun n m => decide (n.Agrees m) := by
    funext n m
    rw [Bool.eq_iff_iff, decide_eq_true_iff]
    exact Number.same_iff_agrees
  rw [hcompare]

end Value

namespace Schema

theorem error?_eq_none_iff_valid {s : Schema} {v : Value} : s.error? v = none ↔ s.valid v :=
  Option.isNone_iff_eq_none.symm

/-- A sample reports nothing for a document exactly if they are alike by the agreement of numbers.
That is always so for the sample itself, and the document as a sample reports nothing for the sample
if the sample reports nothing for it. -/
theorem error?_literal_eq_none_iff {x v : Value} (hx : x.WellFormed) (hv : v.WellFormed) :
    ((literal x).error? v = none ↔ x.AlikeBy (fun n m => n.Agrees m) v) ∧
      (literal x).error? x = none ∧
      ((literal x).error? v = none ↔ (literal v).error? x = none) := by
  have hmatches : ∀ {y w : Value}, y.WellFormed →
      ((literal y).error? w = none ↔ y.AlikeBy Number.same w) := by
    intro y w hy
    rw [error?_eq_none_iff_valid, valid_literal_iff hy]
  have hsymm : ∀ n m : Number, n.same m → m.same n := by
    intro n m
    exact Number.same_comm.mp
  refine ⟨?_, ?_, ?_⟩
  · rw [hmatches hx, Value.alikeBy_same_iff]
  · rw [hmatches hx]
    exact Value.alikeBy_self Number.same_self x
  · rw [hmatches hx, hmatches hv]
    exact ⟨.symm hsymm, .symm hsymm⟩

/-- The sample `{"a": [1], "b": null}` reports nothing for `{"b": null, "a": [1.0]}`, so the latter
reports nothing for the former. -/
theorem error?_literal_eq_none_iff_reordered :
    (literal (.object [("a", .array [.number (.integer 1)]), ("b", .null)])).error?
        (.object [("b", .null), ("a", .array [.number (.float (.ofInt64 1))])]) = none ∧
      (literal (.object [("b", .null), ("a", .array [.number (.float (.ofInt64 1))])])).error?
        (.object [("a", .array [.number (.integer 1)]), ("b", .null)]) = none := by
  have hmatches : (literal (.object [("a", .array [.number (.integer 1)]), ("b", .null)])).error?
      (.object [("b", .null), ("a", .array [.number (.float (.ofInt64 1))])]) = none := by
    decide +kernel
  refine ⟨hmatches, ?_⟩
  apply (error?_literal_eq_none_iff ?_ ?_).2.2.mp hmatches
  · exact ⟨by decide, ⟨trivial, trivial⟩, trivial, trivial⟩
  · exact ⟨by decide, trivial, ⟨trivial, trivial⟩, trivial⟩

end Schema
end DocShape
