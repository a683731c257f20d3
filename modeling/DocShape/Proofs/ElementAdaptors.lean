import DocShape.Access.Elements
import DocShape.Proofs.Addresses
import DocShape.Proofs.Extraction
import Mathlib.Data.List.ReduceOption

/-!
What is taken out of the elements of a sequence.

The optional lookups answer for each element, and the other adaptors tell the same: one puts the
default where there is nothing, one leaves it out, and one fails there. The failing one counts the
elements as it goes, from the cursor on.

* `Elements.FirstRefused`: the first element that cannot be taken out as it is.
* `Elements.assertFrom_eq_ok_iff`, `Elements.assertFrom_eq_error_iff`: when a collection succeeds,
  and what it reports else.
* `adaptors_agree`: the adaptors over what a cursor has not passed yet.
-/

namespace DocShape

namespace Elements

variable {t : Target} {e : Elements} {v : Value} {rest : List Value}

/-! ### Element by element -/

theorem optionalGet_eq_map (t : Target) (e : Elements) :
    e.optionalGet t = e.remaining.map t.asIs? := rfl

theorem optionalCast_eq_map (t : Target) (e : Elements) :
    e.optionalCast t = e.remaining.map t.cast? := rfl

theorem ensure_eq_map (t : Target) (e : Elements) :
    e.ensure t = (e.optionalGet t).map (·.getD t.fallback) := by
  rw [optionalGet, List.map_map]
  rfl

theorem ensureCast_eq_reduceOption (t : Target) (e : Elements) :
    e.ensureCast t = (e.optionalCast t).reduceOption := by
  rw [List.reduceOption, optionalCast, List.filterMap_map]
  rfl

/-- What is taken out of an element as it is, is taken out of it after conversion too. -/
theorem optionalCast_of_optionalGet {i : Nat} {x : t.Carrier}
    (h : (e.optionalGet t)[i]? = some (some x)) : (e.optionalCast t)[i]? = some (some x) := by
  rw [optionalGet_eq_map, List.getElem?_map, Option.map_eq_some_iff] at h
  obtain ⟨v, hv, hx⟩ := h
  rw [optionalCast_eq_map, List.getElem?_map, hv, Option.map_some, Target.cast?_of_asIs? hx]

/-! ### Collecting -/

theorem assertFrom_cons_of_some {x : t.Carrier} (h : t.asIs? v = some x) (i : Nat) :
    assertFrom t i (v :: rest) = (assertFrom t (i + 1) rest).map (x :: ·) := by
  have hget : (⟨some v, Path.text [.required (.index i)]⟩ : Place).assertGet t = .ok x :=
    Place.assertGet_eq_ok_iff.mpr h
  rw [assertFrom, hget]
  cases assertFrom t (i + 1) rest <;> rfl

theorem assertFrom_cons_of_none (h : t.asIs? v = none) (i : Nat) :
    assertFrom t i (v :: rest) =
      .error (.assertion ("[" ++ toString i ++ "]") t.tag (some v.tag)) := by
  have hget : (⟨some v, Path.text [.required (.index i)]⟩ : Place).optionalGet t = none := h
  rw [assertFrom, Place.assertGet, hget, Path.text_required_index]
  rfl

/-- All elements are collected when each of them is taken out. -/
theorem assertFrom_eq_ok_iff {vs : List Value} {i : Nat} {xs : List t.Carrier} :
    assertFrom t i vs = .ok xs ↔ vs.map t.asIs? = xs.map some := by
  induction vs generalizing i xs with
  | nil => cases xs <;> simp [assertFrom]
  | cons v rest ih =>
    cases h : t.asIs? v with
    | none =>
      rw [assertFrom_cons_of_none h, List.map_cons, h]
      cases xs <;> simp
    | some x =>
      have hmap : (assertFrom t (i + 1) rest).map (x :: ·) = .ok xs ↔
          ∃ ys, assertFrom t (i + 1) rest = .ok ys ∧ x :: ys = xs := by
        cases assertFrom t (i + 1) rest <;> simp [Except.map]
      rw [assertFrom_cons_of_some h, hmap, List.map_cons, h]
      simp only [ih]
      constructor
      · rintro ⟨ys, hys, rfl⟩
        rw [hys, List.map_cons]
      · intro hxs
        obtain ⟨y, ys, rfl, hy, hys⟩ := List.map_eq_cons_iff.mp hxs.symm
        cases hy
        exact ⟨ys, hys.symm, rfl⟩

/-- Whether an element is the first one that cannot be taken out as it is. -/
structure FirstRefused (t : Target) (e : Elements) (i : Nat) (v : Value) : Prop where
  element : e.nth i = some v
  refused : (e.optionalGet t)[i]? = some none
  first : ∀ j < i, (e.optionalGet t)[j]? ≠ some none

theorem firstRefused_cons_of_none (h : t.asIs? v = none) {i : Nat} {w : Value} :
    FirstRefused t ⟨v :: rest⟩ i w ↔ i = 0 ∧ w = v := by
  have hhead : (optionalGet t ⟨v :: rest⟩)[0]? = some none := by
    rw [optionalGet_eq_map, List.map_cons, h, List.getElem?_cons_zero]
  constructor
  · rintro ⟨helement, -, hfirst⟩
    cases i with
    | zero => exact ⟨rfl, (Option.some.inj helement).symm⟩
    | succ i => exact absurd hhead (hfirst 0 i.succ_pos)
  · rintro ⟨rfl, rfl⟩
    exact ⟨rfl, hhead, fun j hj => absurd hj j.not_lt_zero⟩

theorem firstRefused_cons_of_some {x : t.Carrier} (h : t.asIs? v = some x) {i : Nat} {w : Value} :
    FirstRefused t ⟨v :: rest⟩ i w ↔ ∃ j, i = j + 1 ∧ FirstRefused t ⟨rest⟩ j w := by
  have hhead : (optionalGet t ⟨v :: rest⟩)[0]? = some (some x) := by
    rw [optionalGet_eq_map, List.map_cons, h, List.getElem?_cons_zero]
  have hnone : some (some x) ≠ some none := by
    rw [Ne, Option.some.injEq]
    exact Option.some_ne_none x
  constructor
  · rintro ⟨helement, hrefused, hfirst⟩
    cases i with
    | zero => exact absurd (hhead.symm.trans hrefused) hnone
    | succ j => exact ⟨j, rfl, helement, hrefused, fun k hk => hfirst (k + 1) (Nat.succ_lt_succ hk)⟩
  · rintro ⟨j, rfl, helement, hrefused, hfirst⟩
    refine ⟨helement, hrefused, ?_⟩
    intro k hk
    cases k with
    | zero => rwa [hhead]
    | succ k => exact hfirst k (Nat.lt_of_succ_lt_succ hk)

/-- Else the first element that is refused is reported, at its position behind the one that the
collection started from. -/
theorem assertFrom_eq_error_iff {vs : List Value} {k : Nat} {err : AccessError} :
    assertFrom t k vs = .error err ↔ ∃ i v, FirstRefused t ⟨vs⟩ i v ∧
      err = .assertion ("[" ++ toString (k + i) ++ "]") t.tag (some v.tag) := by
  -- Each element that is taken out moves the start on by one and the refused one nearer by one.
  induction vs generalizing k with
  | nil =>
    constructor
    · intro h
      cases h
    · rintro ⟨i, v, hrefused, -⟩
      cases hrefused.element
  | cons v rest ih =>
    cases h : t.asIs? v with
    | none =>
      rw [assertFrom_cons_of_none h, Except.error.injEq]
      simp only [firstRefused_cons_of_none h]
      constructor
      · rintro rfl
        exact ⟨0, v, ⟨rfl, rfl⟩, rfl⟩
      · rintro ⟨_, _, ⟨rfl, rfl⟩, rfl⟩
        rfl
    | some x =>
      rw [assertFrom_cons_of_some h]
      simp only [firstRefused_cons_of_some h]
      have herror : (assertFrom t (k + 1) rest).map (x :: ·) = .error err ↔
          assertFrom t (k + 1) rest = .error err := by
        cases assertFrom t (k + 1) rest <;> simp [Except.map]
      rw [herror, ih]
      constructor
      · rintro ⟨j, w, hrefused, rfl⟩
        exact ⟨j + 1, w, ⟨j, rfl, hrefused⟩, by rw [Nat.add_right_comm, Nat.add_assoc]⟩
      · rintro ⟨_, w, ⟨j, rfl, hrefused⟩, rfl⟩
        exact ⟨j, w, hrefused, by rw [Nat.add_right_comm, Nat.add_assoc]⟩

end Elements

/-! ### The adaptors -/

/-- However far a cursor has come, the optional lookups answer for each element in order. With the
default for nothing this is what `ensure` tells, and without the elements for which the cast lookup
answers nothing it is what `ensureCast` tells. Asserting collects what the optional lookup gives if
it gives something everywhere, and else reports the first element where it does not. Conversion
never takes away what can be taken out as it is. -/
theorem adaptors_agree (t : Target) (e : Elements) :
    (∀ i, (e.optionalGet t)[i]? = (e.nth i).map fun v => (Place.ofNode v).optionalGet t) ∧
    (∀ i, (e.optionalCast t)[i]? = (e.nth i).map fun v => (Place.ofNode v).optionalCast t) ∧
    e.ensure t = (e.optionalGet t).map (·.getD t.fallback) ∧
    e.ensureCast t = (e.optionalCast t).reduceOption ∧
    (∀ xs, e.assertGet t = .ok xs ↔ e.optionalGet t = xs.map some) ∧
    (∀ err, e.assertGet t = .error err ↔ ∃ i v, e.FirstRefused t i v ∧
      err = .assertion ("[" ++ toString i ++ "]") t.tag (some v.tag)) ∧
    ∀ (i : Nat) (x : t.Carrier), (e.optionalGet t)[i]? = some (some x) →
      (e.optionalCast t)[i]? = some (some x) := by
  refine ⟨?_, ?_, e.ensure_eq_map t, e.ensureCast_eq_reduceOption t, ?_, ?_, ?_⟩
  · intro i
    exact List.getElem?_map
  · intro i
    exact List.getElem?_map
  · intro xs
    exact Elements.assertFrom_eq_ok_iff
  · intro err
    rw [Elements.assertGet, Elements.assertFrom_eq_error_iff]
    simp only [Nat.zero_add]
  · intro i x h
    exact Elements.optionalCast_of_optionalGet h

/-- Of one, the text of two and true, the first is an integer with and without conversion, and the
text is the first that is none. -/
theorem adaptors_agree_one_and_text :
    (Elements.optionalCast .integer
        ⟨[.number (.integer 1), .string "2", .bool true]⟩)[0]? = some (some (1 : Int64)) ∧
      Elements.assertGet .integer ⟨[.number (.integer 1), .string "2", .bool true]⟩ =
        .error (.assertion "[1]" .integer (some .string)) := by
  have hagree := adaptors_agree .integer ⟨[.number (.integer 1), .string "2", .bool true]⟩
  constructor
  · exact hagree.2.2.2.2.2.2 0 (1 : Int64) rfl
  · refine (hagree.2.2.2.2.2.1 _).mpr ⟨1, .string "2", ⟨rfl, rfl, ?_⟩, rfl⟩
    intro j hj
    rw [Nat.lt_one_iff.mp hj]
    decide

end DocShape
