import DocShape.Proofs.Rearrangement
import DocShape.Tag

/-!
Equality of documents: what `Value.equals` says of each kind of node.

* `itemsEqual_iff`: sequences are equal item by item.
* `fieldsEqual_iff`, `exists_lookup_of_equals`, `mem_keys_iff_of_equals`: equal mappings have the
  same keys, and equal values at each of them.
* `equals_self`: a document without repeated keys is equal to itself.
-/

namespace DocShape

theorem Number.equals_self (n : Number) : n.equals n := by
  cases n <;> simp [equals, Binary64.equals]

namespace Value

theorem tag_of_equals {v w : Value} (h : v.equals w) : v.tag = w.tag := by
  cases v with
  | number n =>
    cases w with
    | number m => cases n <;> cases m <;> first | rfl | cases h
    | _ => cases h
  | _ => cases w <;> first | rfl | cases h

/-- Sequences are equal item by item. -/
theorem itemsEqual_iff {a b : List Value} :
    itemsEqual a b ↔ List.Forall₂ (fun x y => x.equals y = true) a b := by
  induction a generalizing b with
  | nil => cases b <;> simp [itemsEqual]
  | cons v rest ih => cases b <;> simp [itemsEqual, ih]

theorem fieldsEqual_iff {a b : List (String × Value)} :
    fieldsEqual a b ↔ ∀ e ∈ a, ∃ w, b.lookup e.1 = some w ∧ e.2.equals w := by
  induction a with
  | nil => simp [fieldsEqual]
  | cons e rest ih =>
    rw [fieldsEqual, Bool.and_eq_true, ih, List.forall_mem_cons]
    cases b.lookup e.1 <;> simp

section Objects

variable {a b : List (String × Value)}

/-- What is found in an object is found in an equal one. -/
theorem exists_lookup_of_equals (h : (object a).equals (.object b)) {key : String} {x : Value}
    (hx : a.lookup key = some x) : ∃ y, b.lookup key = some y ∧ x.equals y := by
  obtain ⟨-, hfields⟩ := (Bool.and_eq_true _ _).mp h
  exact fieldsEqual_iff.mp hfields (key, x) (Entries.mem_of_lookup_eq_some hx)

variable (ha : (Entries.keys a).Nodup)

include ha

/-- As many keys, none of them repeated, are the same keys. -/
theorem mem_keys_iff_of_equals (h : (object a).equals (.object b)) {key : String} :
    key ∈ Entries.keys a ↔ key ∈ Entries.keys b := by
  obtain ⟨hlength, -⟩ := (Bool.and_eq_true _ _).mp h
  have hsubset : Entries.keys a ⊆ Entries.keys b := by
    intro k hk
    obtain ⟨x, hx⟩ := Entries.mem_keys_iff.mp hk
    obtain ⟨y, hy, -⟩ := exists_lookup_of_equals h (Entries.lookup_of_mem ha hx)
    exact Entries.mem_keys_of_lookup_eq_some hy
  exact Entries.mem_keys_iff_of_subset ha (beq_iff_eq.mp hlength) hsubset

theorem exists_lookup_of_equals_right (h : (object a).equals (.object b)) {key : String} {y : Value}
    (hy : b.lookup key = some y) : ∃ x, a.lookup key = some x ∧ x.equals y := by
  have hkey := (mem_keys_iff_of_equals ha h).mpr (Entries.mem_keys_of_lookup_eq_some hy)
  obtain ⟨x, hx⟩ := Entries.mem_keys_iff.mp hkey
  have hfound := Entries.lookup_of_mem ha hx
  obtain ⟨y', hy', hequal⟩ := exists_lookup_of_equals h hfound
  rw [hy] at hy'
  cases hy'
  exact ⟨x, hfound, hequal⟩

end Objects

theorem equals_self {v : Value} (h : v.WellFormed) : v.equals v := by
  induction v using Value.inductKinds with
  | null => simp [equals]
  | bool b => simp [equals]
  | number n => simp [equals, n.equals_self]
  | string s => simp [equals]
  | array items ih =>
    rw [equals, itemsEqual_iff, List.forall₂_same]
    exact fun x hx => ih x hx (itemsWellFormed_iff.mp h x hx)
  | object fields ih =>
    obtain ⟨hn, hfields⟩ := h
    rw [equals, beq_self_eq_true, Bool.true_and, fieldsEqual_iff]
    intro e he
    exact ⟨e.2, Entries.lookup_of_mem hn he, ih e he (fieldsWellFormed_iff.mp hfields e he)⟩

end Value

end DocShape
