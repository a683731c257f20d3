import DocShape.Proofs.ExhaustiveWalk
import DocShape.Proofs.Reordering

/-!
What it means that a document looks like another one, said without an order of comparison.

`Value.AlikeBy` relates documents that differ in the order of keys and in numbers only, where a
comparison of numbers says which of them may stand for each other. Both ways to compare documents
are of this form, with two comparisons of numbers.

* `equals_iff_alikeBy`: equality is likeness by equal representations.
* `mismatches_eq_nil_iff_alikeBy`: a document matches a sample if it is alike across
  representations, at every depth.
* `HasNumber.exists_exchanged`: a number inside a document decides on its own whether the document
  with another number in its place is alike.
-/

namespace DocShape

namespace Value

/-- Documents that hold the same but for the order of keys and for numbers that may stand for each
other. -/
inductive AlikeBy (eq : Number → Number → Bool) : Value → Value → Prop where
  | null : AlikeBy eq .null .null
  | bool (b : Bool) : AlikeBy eq (.bool b) (.bool b)
  | number {n m : Number} : eq n m → AlikeBy eq (.number n) (.number m)
  | string (s : String) : AlikeBy eq (.string s) (.string s)
  | array {items items' : List Value} :
      List.Forall₂ (AlikeBy eq) items items' → AlikeBy eq (.array items) (.array items')
  | object {fields fields' : List (String × Value)} :
      (∀ key, Option.Rel (AlikeBy eq) (fields.lookup key) (fields'.lookup key)) →
        AlikeBy eq (.object fields) (.object fields')

/-- The numbers in a document. -/
inductive HasNumber (n : Number) : Value → Prop where
  | here : HasNumber n (.number n)
  | item {items : List Value} {v : Value} : v ∈ items → HasNumber n v → HasNumber n (.array items)
  | field {fields : List (String × Value)} {key : String} {v : Value} :
      (key, v) ∈ fields → HasNumber n v → HasNumber n (.object fields)

/-! ### Likeness at each kind of document -/

section Kinds

variable {eq : Number → Number → Bool} {v : Value}

theorem alikeBy_null_iff : null.AlikeBy eq v ↔ v = .null := by
  constructor
  · rintro ⟨⟩
    rfl
  · rintro rfl
    exact .null

theorem alikeBy_bool_iff {b : Bool} : (bool b).AlikeBy eq v ↔ v = .bool b := by
  constructor
  · rintro ⟨⟩
    rfl
  · rintro rfl
    exact .bool b

theorem alikeBy_number_iff {n : Number} :
    (number n).AlikeBy eq v ↔ ∃ m, v = .number m ∧ eq n m := by
  constructor
  · rintro ⟨⟩
    exact ⟨_, rfl, by assumption⟩
  · rintro ⟨m, rfl, h⟩
    exact .number h

theorem alikeBy_string_iff {s : String} : (string s).AlikeBy eq v ↔ v = .string s := by
  constructor
  · rintro ⟨⟩
    rfl
  · rintro rfl
    exact .string s

theorem alikeBy_array_iff {items : List Value} :
    (array items).AlikeBy eq v ↔
      ∃ items', v = .array items' ∧ List.Forall₂ (AlikeBy eq) items items' := by
  constructor
  · rintro ⟨⟩
    exact ⟨_, rfl, by assumption⟩
  · rintro ⟨items', rfl, h⟩
    exact .array h

theorem alikeBy_object_iff {fields : List (String × Value)} :
    (object fields).AlikeBy eq v ↔ ∃ fields', v = .object fields' ∧
      ∀ key, Option.Rel (AlikeBy eq) (fields.lookup key) (fields'.lookup key) := by
  constructor
  · rintro ⟨⟩
    exact ⟨_, rfl, by assumption⟩
  · rintro ⟨fields', rfl, h⟩
    exact .object h

end Kinds

/-! ### Objects by key -/

/-- What is found at each key is related if every entry leads to a related value and there are no
other keys. -/
theorem rel_lookup_iff {R : Value → Value → Prop} {fields fields' : List (String × Value)}
    (hn : (Entries.keys fields).Nodup) :
    (∀ key, Option.Rel R (fields.lookup key) (fields'.lookup key)) ↔
      (∀ e ∈ fields, ∃ w, fields'.lookup e.1 = some w ∧ R e.2 w) ∧
        ∀ key ∈ Entries.keys fields', key ∈ Entries.keys fields := by
  constructor
  · intro h
    constructor
    · intro e he
      have hkey := h e.1
      rw [Entries.lookup_of_mem hn he] at hkey
      cases hfound : fields'.lookup e.1 with
      | none =>
        rw [hfound] at hkey
        cases hkey
      | some w =>
        rw [hfound] at hkey
        cases hkey with
        | some hw => exact ⟨w, rfl, hw⟩
    · intro key hkey
      by_contra hnot
      have hrel := isSome_eq_of_rel (h key)
      rw [Entries.lookup_eq_none_iff_notMem.mpr hnot] at hrel
      have hnone : fields'.lookup key = none := by simpa using hrel
      exact Entries.lookup_eq_none_iff_notMem.mp hnone hkey
  · rintro ⟨hentries, hkeys⟩ key
    cases hfound : fields.lookup key with
    | some x =>
      obtain ⟨w, hw, hrel⟩ := hentries _ (Entries.mem_of_lookup_eq_some hfound)
      rw [hw]
      exact .some hrel
    | none =>
      have hnot := mt (hkeys key) (Entries.lookup_eq_none_iff_notMem.mp hfound)
      rw [Entries.lookup_eq_none_iff_notMem.mpr hnot]
      exact .none

theorem alikeBy_self {eq : Number → Number → Bool} (hself : ∀ n, eq n n) (x : Value) :
    x.AlikeBy eq x := by
  induction x using Value.inductKinds with
  | null => exact .null
  | bool b => exact .bool b
  | number n => exact .number (hself n)
  | string s => exact .string s
  | array items ih => exact .array (List.forall₂_same.mpr ih)
  | object fields ih =>
    refine .object fun key => ?_
    cases hfound : fields.lookup key with
    | none => exact .none
    | some y => exact .some (ih _ (Entries.mem_of_lookup_eq_some hfound))

/-- Documents that are alike by one comparison are alike by another one that agrees where it
matters. -/
theorem AlikeBy.imp {eq eq' : Number → Number → Bool} {x v : Value}
    (h : ∀ n, x.HasNumber n → ∀ m, eq n m → eq' n m) (hxv : x.AlikeBy eq v) : x.AlikeBy eq' v := by
  induction x using Value.inductKinds generalizing v with
  | null => exact alikeBy_null_iff.mpr (alikeBy_null_iff.mp hxv)
  | bool b => exact alikeBy_bool_iff.mpr (alikeBy_bool_iff.mp hxv)
  | number n =>
    obtain ⟨m, rfl, hnm⟩ := alikeBy_number_iff.mp hxv
    exact .number (h n .here m hnm)
  | string s => exact alikeBy_string_iff.mpr (alikeBy_string_iff.mp hxv)
  | array items ih =>
    obtain ⟨items', rfl, hitems⟩ := alikeBy_array_iff.mp hxv
    refine .array (forall₂_imp_of_mem hitems fun x hx y _ hxy => ?_)
    exact ih x hx (fun n hn => h n (.item hx hn)) hxy
  | object fields ih =>
    obtain ⟨fields', rfl, hfields⟩ := alikeBy_object_iff.mp hxv
    refine .object fun key => ?_
    have hkey := hfields key
    generalize hfound : fields.lookup key = found at hkey ⊢
    generalize fields'.lookup key = found' at hkey ⊢
    cases hkey with
    | none => exact .none
    | some hxy =>
      have hmem := Entries.mem_of_lookup_eq_some hfound
      exact .some (ih _ hmem (fun n hn => h n (.field hmem hn)) hxy)

/-- A number in a document can be exchanged for another one, and whether the result is alike is up
to these two alone. -/
theorem HasNumber.exists_exchanged {x : Value} {n : Number} (hn : x.HasNumber n)
    (hx : x.WellFormed) (m : Number) :
    ∃ v : Value, v.WellFormed ∧
      ∀ eq : Number → Number → Bool, (∀ k, eq k k) → (x.AlikeBy eq v ↔ eq n m) := by
  induction hn with
  | here => exact ⟨.number m, trivial, fun eq _ => by simp [alikeBy_number_iff]⟩
  | @item items y hy hn ih =>
    obtain ⟨v, hv, hiff⟩ := ih (itemsWellFormed_iff.mp hx y hy)
    obtain ⟨before, after, rfl⟩ := List.append_of_mem hy
    refine ⟨.array (before ++ v :: after), ?_, fun eq hself => ?_⟩
    · refine itemsWellFormed_iff.mpr fun z hz => ?_
      rcases List.mem_append.mp hz with hbefore | hrest
      · exact itemsWellFormed_iff.mp hx z (List.mem_append_left _ hbefore)
      · rcases List.mem_cons.mp hrest with rfl | hafter
        · exact hv
        · have hmem := List.mem_append_right before (List.mem_cons_of_mem y hafter)
          exact itemsWellFormed_iff.mp hx z hmem
    · rw [← hiff eq hself, alikeBy_array_iff]
      simp only [array.injEq, exists_eq_left']
      constructor
      · intro h
        simpa using (List.forall₂_iff_get.mp h).2 before.length (by simp) (by simp)
      · intro h
        have hbefore := List.forall₂_same.mpr fun z (_ : z ∈ before) => alikeBy_self hself z
        have hafter := List.forall₂_same.mpr fun z (_ : z ∈ after) => alikeBy_self hself z
        exact List.rel_append hbefore (.cons h hafter)
  | @field fields key y hy hn ih =>
    obtain ⟨v, hv, hiff⟩ := ih (fieldsWellFormed_iff.mp hx.2 _ hy)
    have hfound := Entries.lookup_of_mem hx.1 hy
    refine ⟨.object (Entries.insert key v fields), ⟨Entries.nodup_keys_insert hx.1 key v, ?_⟩,
      fun eq hself => ?_⟩
    · refine fieldsWellFormed_iff.mpr fun e he => ?_
      rcases Entries.mem_of_mem_insert he with rfl | he
      · exact hv
      · exact fieldsWellFormed_iff.mp hx.2 e he
    · rw [← hiff eq hself, alikeBy_object_iff]
      simp only [object.injEq, exists_eq_left', Entries.lookup_insert]
      constructor
      · intro h
        have hkey := h key
        rw [hfound, if_pos rfl] at hkey
        cases hkey with
        | some h => exact h
      · intro h k
        split
        · rename_i hk
          rw [hk, hfound]
          exact .some h
        · cases fields.lookup k with
          | none => exact .none
          | some z => exact .some (alikeBy_self hself z)

/-- Equality is likeness with numbers equal in their representations. -/
theorem equals_iff_alikeBy {x v : Value} (hx : x.WellFormed) (hv : v.WellFormed) :
    x.equals v ↔ x.AlikeBy Number.equals v := by
  induction x using Value.inductKinds generalizing v with
  | null => cases v <;> simp [equals, alikeBy_null_iff]
  | bool b => cases v <;> simp [equals, alikeBy_bool_iff, eq_comm (a := b)]
  | number n => cases v <;> simp [equals, alikeBy_number_iff]
  | string s => cases v <;> simp [equals, alikeBy_string_iff, eq_comm (a := s)]
  | array items ih =>
    rw [alikeBy_array_iff]
    cases v with
    | array items' =>
      rw [equals, itemsEqual_iff, forall₂_congr_of_mem fun x hx' y hy =>
        ih x hx' (itemsWellFormed_iff.mp hx x hx') (itemsWellFormed_iff.mp hv y hy)]
      simp
    | _ => simp [equals]
  | object fields ih =>
    rw [alikeBy_object_iff]
    cases v with
    | object fields' =>
      have hentries : (∀ e ∈ fields, ∃ w, fields'.lookup e.1 = some w ∧ e.2.equals w) ↔
          ∀ e ∈ fields, ∃ w, fields'.lookup e.1 = some w ∧ e.2.AlikeBy Number.equals w := by
        refine forall₂_congr fun e he => exists_congr fun w => and_congr_right fun hw => ?_
        exact ih e he (fieldsWellFormed_iff.mp hx.2 e he)
          (fieldsWellFormed_iff.mp hv.2 _ (Entries.mem_of_lookup_eq_some hw))
      rw [equals, Bool.and_eq_true, beq_iff_eq, fieldsEqual_iff, hentries, and_comm]
      simp only [object.injEq, exists_eq_left', rel_lookup_iff hx.1]
      refine and_congr_right fun hfound => ?_
      have hsubset : Entries.keys fields ⊆ Entries.keys fields' := by
        intro key hkey
        obtain ⟨x, hmem⟩ := Entries.mem_keys_iff.mp hkey
        obtain ⟨w, hw, -⟩ := hfound _ hmem
        exact Entries.mem_keys_of_lookup_eq_some hw
      constructor
      · intro hlength key hkey
        exact (Entries.mem_keys_iff_of_subset hx.1 hlength hsubset).mpr hkey
      · intro hkeys
        exact Entries.length_eq_of_mem_keys_iff hx.1 hv.1 fun key =>
          ⟨fun h => hsubset h, hkeys key⟩
    | _ => simp [equals]

/-! ### Samples -/

/-- A scalar is compared with numbers across representations. -/
theorem same_iff_alikeBy {x v : Value} (h : x.tag.isContainer = false) :
    x.same v ↔ x.AlikeBy Number.same v := by
  cases x with
  | null => cases v <;> simp [same, equals, alikeBy_null_iff]
  | bool b => cases v <;> simp [same, equals, alikeBy_bool_iff, eq_comm (a := b)]
  | number n => cases v <;> simp [same, equals, alikeBy_number_iff]
  | string s => cases v <;> simp [same, equals, alikeBy_string_iff, eq_comm (a := s)]
  | array items => cases h
  | object fields => cases h

theorem mismatches_eq_nil_iff_same {x v : Value} (h : x.tag.isContainer = false) :
    x.mismatches v = [] ↔ x.same v := by
  rw [mismatches_of_scalar h]
  split
  · rename_i hv
    rw [same_eq_equals (.inr hv)]
    refine iff_of_false (by simp) fun hequal => ?_
    rw [tag_of_equals hequal, hv] at h
    cases h
  · split <;> simp [*]

/-- A document matches a sample if the two are alike across representations, at every depth. -/
theorem mismatches_eq_nil_iff_alikeBy {x v : Value} (hx : x.WellFormed) :
    x.mismatches v = [] ↔ x.AlikeBy Number.same v := by
  induction x using Value.induct generalizing v with
  | scalar x harray hobject =>
    have hscalar := isContainer_tag_eq_false harray hobject
    rw [mismatches_eq_nil_iff_same hscalar, same_iff_alikeBy hscalar]
  | array want ih =>
    rw [alikeBy_array_iff]
    cases v with
    | array items =>
      rw [mismatches]
      simp only [array.injEq, exists_eq_left']
      split
      · rename_i hlength
        rw [Schema.itemMismatches_eq_nil_iff hlength]
        exact forall₂_congr_of_mem fun x hmem y _ => ih x hmem (itemsWellFormed_iff.mp hx x hmem)
      · rename_i hlength
        exact iff_of_false (by simp) fun h => hlength h.length_eq
    | _ => simp [mismatches, tag, Tag.isContainer]
  | object want ih =>
    rw [alikeBy_object_iff]
    cases v with
    | object fields =>
      rw [mismatches, List.append_eq_nil_iff, Schema.fieldMismatches_eq_nil_iff,
        Schema.undeclaredFailures_eq_nil_iff]
      simp only [object.injEq, exists_eq_left', rel_lookup_iff hx.1]
      refine and_congr_left fun _ => forall₂_congr fun e he => exists_congr fun w => ?_
      rw [ih e he (fieldsWellFormed_iff.mp hx.2 e he)]
    | _ => simp [mismatches, tag, Tag.isContainer]

end Value

/-- A schema by example accepts what is alike across representations. -/
theorem Schema.valid_literal_iff {x v : Value} (hx : x.WellFormed) :
    (literal x).valid v ↔ x.AlikeBy Number.same v := by
  rw [valid_iff_failures_eq_nil, failures_literal, Value.mismatches_eq_nil_iff_alikeBy hx]

end DocShape
