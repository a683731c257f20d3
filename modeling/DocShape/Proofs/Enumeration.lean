import DocShape.Proofs.Likeness
import DocShape.Schema.Modifier

/-!
A sample, and a list of allowed values that has the sample alone.

* `Number.HasOneForm`: the numbers on which equality and comparison across representations agree.
* `valid_literal_iff_valid_allow_iff`: the two accept the same documents exactly where the sample
  is a scalar or holds only such numbers. Numbers inside a container are compared across
  representations by the first and not by the second.
-/

namespace DocShape

namespace Number

/-- Whether the number is a double that no word is the same as. -/
def HasOneForm (n : Number) : Prop :=
  n.isFloat ∧ ∀ m : Number, m.isFloat = false → n.same m = false

theorem isFloat_eq_of_equals {n m : Number} (h : n.equals m) : n.isFloat = m.isFloat := by
  cases n <;> cases m <;> first | rfl | cases h

/-- Words are compared with words, and doubles with doubles, as they are. -/
theorem same_eq_equals {n m : Number} (h : n.isFloat = m.isFloat) : n.same m = n.equals m := by
  cases n <;> cases m <;> first | rfl | cases h

theorem same_of_equals {n m : Number} (h : n.equals m) : n.same m := by
  rwa [same_eq_equals (isFloat_eq_of_equals h)]

theorem same_self (n : Number) : n.same n :=
  same_of_equals n.equals_self

/-- Comparison across representations says no more than equality where there is one form only. -/
theorem hasOneForm_iff {n : Number} : n.HasOneForm ↔ ∀ m, n.same m → n.equals m := by
  constructor
  · rintro ⟨hn, hwords⟩ m h
    cases hm : m.isFloat with
    | false => exact absurd h (by simp [hwords m hm])
    | true => rwa [same_eq_equals (hn.trans hm.symm)] at h
  · intro h
    have hfloat : n.isFloat := by
      -- The double nearest to a word is the same as it, in another representation.
      have hnearest : n.same (.float n.toBinary64) := by
        simp [same, isFloat, toBinary64, Binary64.equals]
      exact isFloat_eq_of_equals (h _ hnearest)
    refine ⟨hfloat, fun m hm => ?_⟩
    by_contra hsame
    have hequal := isFloat_eq_of_equals (h m (by simpa using hsame))
    rw [hfloat, hm] at hequal
    cases hequal

end Number

namespace Schema

/-- Where nothing but the list restricts a document, it has to be the same as a value of the
list. -/
theorem valid_allow_iff {values : List Value} {v : Value} :
    (any.modify (.allow values)).valid v ↔ ∃ x ∈ values, x.same v := by
  have hleaf : any.modify (.allow values) = leaf .any { allowed := some values } := rfl
  rw [hleaf, valid_leaf_any_iff, Rules.failures_eq_nil_iff]
  simp [Rules.acceptsNull, Rules.boundFailures]

/-- A container allowed by itself is told by equality, which looks at representations. -/
theorem valid_allow_container_iff {x v : Value} (h : x.tag.isContainer) (hx : x.WellFormed)
    (hv : v.WellFormed) : (any.modify (.allow [x])).valid v ↔ x.AlikeBy Number.equals v := by
  rw [valid_allow_iff, ← Value.equals_iff_alikeBy hx hv]
  simp [Value.same_eq_equals (.inl h)]

/-- A sample and the list of the sample alone accept the same documents exactly if the sample is a
scalar or none of the numbers in it has another form. -/
theorem valid_literal_iff_valid_allow_iff {x : Value} (hx : x.WellFormed) :
    (∀ v : Value, v.WellFormed → ((literal x).valid v ↔ (any.modify (.allow [x])).valid v)) ↔
      (x.tag.isContainer → ∀ n, x.HasNumber n → n.HasOneForm) := by
  constructor
  · intro h hcontainer n hn
    rw [Number.hasOneForm_iff]
    intro m hsame
    obtain ⟨v, hv, hiff⟩ := hn.exists_exchanged hx m
    have halike := (hiff _ Number.same_self).mpr hsame
    have hallowed := (h v hv).mp ((valid_literal_iff hx).mpr halike)
    exact (hiff _ Number.equals_self).mp ((valid_allow_container_iff hcontainer hx hv).mp hallowed)
  · intro h v hv
    rw [valid_literal_iff hx]
    cases hcontainer : x.tag.isContainer with
    | false =>
      rw [← Value.same_iff_alikeBy hcontainer, valid_allow_iff]
      simp
    | true =>
      rw [valid_allow_container_iff hcontainer hx hv]
      constructor
      · exact Value.AlikeBy.imp fun n hn m =>
          Number.hasOneForm_iff.mp (h hcontainer n hn) m
      · exact Value.AlikeBy.imp fun n _ m => Number.same_of_equals

/-- The number one alone is accepted in its other form by both. -/
theorem valid_literal_iff_valid_allow_one :
    (literal (.number (.integer 1))).valid (.number (.float (.ofInt64 1))) ∧
      (any.modify (.allow [.number (.integer 1)])).valid (.number (.float (.ofInt64 1))) := by
  have hagree := (valid_literal_iff_valid_allow_iff (x := .number (.integer 1)) trivial).mpr nofun
  have hliteral : (literal (.number (.integer 1))).valid (.number (.float (.ofInt64 1))) := by
    decide +kernel
  exact ⟨hliteral, (hagree (.number (.float (.ofInt64 1))) trivial).mp hliteral⟩

/-- In an array the other form of one is accepted by the sample and refused by the list. -/
theorem valid_literal_one_not_valid_allow :
    (literal (.array [.number (.integer 1)])).valid (.array [.number (.float (.ofInt64 1))]) ∧
      ¬ (any.modify (.allow [.array [.number (.integer 1)]])).valid
        (.array [.number (.float (.ofInt64 1))]) := by
  decide +kernel

end Schema

end DocShape
