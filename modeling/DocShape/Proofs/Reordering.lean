import DocShape.Proofs.SchemaTree
import DocShape.Proofs.ValueEquality

/-!
Documents and schemas with their entries in another order, at any depth.

A document is a reordered one (`Value.Reordered`) if its mappings are rearranged, at any depth; the
items of sequences keep their places. A schema is a reordered one (`Schema.Reordered`) if the
declared fields of its objects are rearranged at any depth, the mappings in its samples, allowed
values and defaults are reordered, and the allowed values themselves stand in any order.

* `Value.Reordered.refl`, `Schema.Reordered.refl`: nothing need be moved.
* `Value.Reordered.wellFormed`: a reordered document is well-formed.
* `Value.equals_iff`, `Value.same_iff`: equality does not tell reordered documents apart.
-/

namespace DocShape

/-- Documents that differ in the order of keys, at any depth. -/
inductive Value.Reordered : Value → Value → Prop where
  | scalar {v : Value} : v.tag.isContainer = false → Reordered v v
  | array {items items' : List Value} :
      List.Forall₂ Reordered items items' → Reordered (.array items) (.array items')
  | object {fields mid fields' : List (String × Value)} :
      List.Forall₂ (Entries.AtKey Reordered) fields mid → mid.Perm fields' →
        Reordered (.object fields) (.object fields')

/-- Kinds of leaves that differ in the order of the keys of their sample. -/
def LeafKind.Reordered : LeafKind → LeafKind → Prop
  | .literal sample, .literal sample' => sample.Reordered sample'
  | kind, kind' => kind = kind'

/-- Rules that differ in the order of the allowed values, and of the keys in these and in the
default. -/
structure Rules.Reordered (r r' : Rules) : Prop where
  min : r.min = r'.min
  max : r.max = r'.max
  allowed : Option.Rel (Rearranged Value.Reordered) r.allowed r'.allowed
  coerces : r.coerces = r'.coerces
  isOptional : r.isOptional = r'.isOptional
  nullable : r.nullable = r'.nullable
  default : Option.Rel Value.Reordered r.default r'.default

/-- Schemas that differ in the order of declared fields, and in that of the keys of samples and of
values in rules, at any depth. -/
inductive Schema.Reordered : Schema → Schema → Prop where
  | leaf {kind kind' : LeafKind} {r r' : Rules} :
      kind.Reordered kind' → r.Reordered r' → Reordered (.leaf kind r) (.leaf kind' r')
  | array {element element' : Schema} {r r' : Rules} :
      Reordered element element' → r.Reordered r' →
        Reordered (.array element r) (.array element' r')
  | object {shape mid shape' : List (String × Schema)} {isOpen : Bool} {r r' : Rules} :
      List.Forall₂ (Entries.AtKey Reordered) shape mid → mid.Perm shape' → r.Reordered r' →
        Reordered (.object shape isOpen r) (.object shape' isOpen r')

/-! ### Reordered documents -/

namespace Value

theorem Reordered.tag_eq {v w : Value} (h : v.Reordered w) : v.tag = w.tag := by
  cases h <;> rfl

theorem Reordered.isNull_eq {v w : Value} (h : v.Reordered w) : v.isNull = w.isNull := by
  cases h <;> rfl

theorem reordered_object_iff {fields fields' : List (String × Value)} :
    (object fields).Reordered (.object fields') ↔
      Rearranged (Entries.AtKey Reordered) fields fields' := by
  constructor
  · intro h
    cases h with
    | scalar hscalar => cases hscalar
    | object hrel hperm => exact ⟨_, hrel, hperm⟩
  · rintro ⟨mid, hrel, hperm⟩
    exact .object hrel hperm

/-- A document of a kind that is no container is not reordered. -/
theorem Reordered.eq_of_scalar {v w : Value} (h : v.Reordered w) (hv : v.tag.isContainer = false) :
    w = v := by
  cases h with
  | scalar _ => rfl
  | array _ => cases hv
  | object _ _ => cases hv

theorem Reordered.exists_items {items : List Value} {w : Value}
    (h : (Value.array items).Reordered w) :
    ∃ items', w = .array items' ∧ List.Forall₂ Reordered items items' := by
  cases h with
  | scalar hscalar => cases hscalar
  | array hitems => exact ⟨_, rfl, hitems⟩

theorem Reordered.exists_fields {fields : List (String × Value)} {w : Value}
    (h : (Value.object fields).Reordered w) :
    ∃ fields', w = .object fields' ∧ Rearranged (Entries.AtKey Reordered) fields fields' := by
  cases h with
  | scalar hscalar => cases hscalar
  | object hrel hperm => exact ⟨_, rfl, _, hrel, hperm⟩

theorem isContainer_tag_eq_false {v : Value} (harray : ∀ items, v ≠ .array items)
    (hobject : ∀ fields, v ≠ .object fields) : v.tag.isContainer = false := by
  cases v with
  | array items => exact absurd rfl (harray items)
  | object fields => exact absurd rfl (hobject fields)
  | number n => cases n <;> rfl
  | _ => rfl

@[refl] theorem Reordered.refl (v : Value) : v.Reordered v := by
  induction v using Value.induct with
  | scalar v harray hobject => exact .scalar (isContainer_tag_eq_false harray hobject)
  | array items ih => exact .array (List.forall₂_same.mpr ih)
  | object fields ih =>
    exact reordered_object_iff.mpr (.refl_of_forall fun e he => .intro (ih e he))

/-- What is found in documents without repeated keys is reordered as they are. -/
theorem Reordered.lookup_rel {fields fields' : List (String × Value)}
    (h : (Value.object fields).Reordered (.object fields'))
    (hw : (Value.object fields).WellFormed)
    (key : String) : Option.Rel Reordered (fields.lookup key) (fields'.lookup key) :=
  Entries.lookup_rel hw.1 (reordered_object_iff.mp h) key

theorem Reordered.wellFormed {v w : Value} (h : v.Reordered w) (hv : v.WellFormed) :
    w.WellFormed := by
  induction v using Value.induct generalizing w with
  | scalar v harray hobject =>
    cases h with
    | scalar _ => exact hv
    | array _ => exact absurd rfl (harray _)
    | object _ _ => exact absurd rfl (hobject _)
  | array items ih =>
    obtain ⟨items', rfl, hitems⟩ := h.exists_items
    refine itemsWellFormed_iff.mpr fun y hy => ?_
    obtain ⟨x, hx, hxy⟩ := (exists_related_of_forall₂ hitems).2 y hy
    exact ih x hx hxy (itemsWellFormed_iff.mp hv x hx)
  | object fields ih =>
    obtain ⟨fields', rfl, hfields⟩ := h.exists_fields
    refine ⟨(Entries.keys_perm hfields).nodup_iff.mp hv.1, fieldsWellFormed_iff.mpr ?_⟩
    rintro e' he'
    obtain ⟨e, he, hee'⟩ := hfields.exists_left he'
    cases hee' with
    | intro hrel => exact ih _ he hrel (fieldsWellFormed_iff.mp hv.2 _ he)

theorem wellFormed_of_scalar {v : Value} (h : v.tag.isContainer = false) : v.WellFormed := by
  cases v with
  | array items => cases h
  | object fields => cases h
  | _ => trivial

/-! ### Equality -/

/-- Equality does not tell reordered documents apart, on either side. -/
theorem equals_iff {a a' v v' : Value} (ha : a.Reordered a') (hv : v.Reordered v')
    (hw : v.WellFormed) : a.equals v ↔ a'.equals v' := by
  induction a using Value.induct generalizing a' v v' with
  | scalar a harray hobject =>
    have hscalar := isContainer_tag_eq_false harray hobject
    rw [ha.eq_of_scalar hscalar]
    by_cases htag : a.tag = v.tag
    · rw [hv.eq_of_scalar (htag ▸ hscalar)]
    · have htag' : a.tag ≠ v'.tag := by
        rwa [← hv.tag_eq]
      exact iff_of_false (fun h => htag (tag_of_equals h)) fun h => htag' (tag_of_equals h)
  | array items ih =>
    obtain ⟨items', rfl, hitems⟩ := ha.exists_items
    cases hv with
    | array hvs =>
      rw [equals, equals, itemsEqual_iff, itemsEqual_iff]
      refine forall₂_iff_forall₂ hitems hvs fun x hx y hy x' y' hxx' hyy' => ?_
      exact ih x hx hxx' hyy' (itemsWellFormed_iff.mp hw y hy)
    | object _ _ => simp [equals]
    | scalar hscalar => cases v <;> first | rfl | cases hscalar
  | object fields ih =>
    obtain ⟨fields', rfl, hfields⟩ := ha.exists_fields
    cases hv with
    | array hvs => simp [equals]
    | object hrel hperm =>
      have hvs := Reordered.object hrel hperm
      have hlength := (reordered_object_iff.mp hvs).length_eq
      rw [equals, equals, Bool.and_eq_true, Bool.and_eq_true, fieldsEqual_iff, fieldsEqual_iff,
        hfields.length_eq, hlength]
      refine and_congr_right fun _ => hfields.forall_iff fun e he e' _ hee' => ?_
      cases hee' with
      | intro hee' =>
        refine exists_some_iff_of_rel (hvs.lookup_rel hw _) fun x hx y hxy => ?_
        have hmem := Entries.mem_of_lookup_eq_some hx
        exact ih _ he hee' hxy (fieldsWellFormed_iff.mp hw.2 _ hmem)
    | scalar hscalar => cases v <;> first | rfl | cases hscalar

theorem same_eq_equals {a v : Value} (h : a.tag.isContainer ∨ v.tag.isContainer) :
    a.same v = a.equals v := by
  cases a with
  | number n =>
    cases v with
    | number m => cases n <;> cases m <;> simp [tag, Tag.isContainer] at h
    | _ => rfl
  | _ => rfl

theorem same_iff {a a' v v' : Value} (ha : a.Reordered a') (hv : v.Reordered v')
    (hw : v.WellFormed) : a.same v ↔ a'.same v' := by
  by_cases hcontainer : a.tag.isContainer ∨ v.tag.isContainer
  · rw [same_eq_equals hcontainer]
    rw [ha.tag_eq, hv.tag_eq] at hcontainer
    rw [same_eq_equals hcontainer]
    exact equals_iff ha hv hw
  · rw [not_or, Bool.not_eq_true, Bool.not_eq_true] at hcontainer
    rw [ha.eq_of_scalar hcontainer.1, hv.eq_of_scalar hcontainer.2]

theorem Reordered.measure?_eq {v w : Value} (h : v.Reordered w) : v.measure? = w.measure? := by
  cases h with
  | scalar _ => rfl
  | array hitems => simp only [measure?, hitems.length_eq]
  | object _ _ => rfl

end Value

/-! ### Reordered schemas -/

theorem LeafKind.Reordered.refl (kind : LeafKind) : kind.Reordered kind := by
  cases kind with
  | literal sample => exact Value.Reordered.refl sample
  | _ => rfl

/-- Kinds that are no samples are not reordered. -/
theorem LeafKind.Reordered.eq_of_not_literal {kind kind' : LeafKind} (h : kind.Reordered kind')
    (hk : ∀ sample, kind ≠ .literal sample) : kind' = kind := by
  cases kind with
  | literal sample => exact absurd rfl (hk sample)
  | _ => exact h.symm

theorem LeafKind.Reordered.tag?_eq {kind kind' : LeafKind} (h : kind.Reordered kind') :
    kind.tag? = kind'.tag? := by
  cases kind with
  | literal sample => cases kind' <;> first | rfl | cases h
  | _ => exact congrArg LeafKind.tag? h

theorem LeafKind.Reordered.exists_sample {sample : Value} {kind' : LeafKind}
    (h : (LeafKind.literal sample).Reordered kind') :
    ∃ sample', kind' = .literal sample' ∧ sample.Reordered sample' := by
  cases kind' with
  | literal sample' => exact ⟨sample', rfl, h⟩
  | _ => cases h

namespace Rules

theorem Reordered.refl (r : Rules) : r.Reordered r where
  min := rfl
  max := rfl
  allowed := by
    cases r.allowed with
    | none => exact .none
    | some allowed => exact .some (.refl_of_forall fun v _ => Value.Reordered.refl v)
  coerces := rfl
  isOptional := rfl
  nullable := rfl
  default := by
    cases r.default with
    | none => exact .none
    | some v => exact .some (Value.Reordered.refl v)

theorem Reordered.acceptsNull_eq {r r' : Rules} (h : r.Reordered r') :
    r.acceptsNull = r'.acceptsNull := by
  rw [acceptsNull, acceptsNull, h.nullable, h.isOptional, isSome_eq_of_rel h.default]

end Rules

namespace Schema

theorem reordered_object_iff {shape shape' : List (String × Schema)} {isOpen : Bool}
    {r r' : Rules} :
    (object shape isOpen r).Reordered (.object shape' isOpen r') ↔
      Rearranged (Entries.AtKey Reordered) shape shape' ∧ r.Reordered r' := by
  constructor
  · intro h
    cases h with
    | object hrel hperm hr => exact ⟨⟨_, hrel, hperm⟩, hr⟩
  · rintro ⟨⟨mid, hrel, hperm⟩, hr⟩
    exact .object hrel hperm hr

@[refl] theorem Reordered.refl (s : Schema) : s.Reordered s := by
  induction s using Schema.induct with
  | leaf kind r => exact .leaf (.refl kind) (.refl r)
  | array element r ih => exact .array ih (.refl r)
  | object shape isOpen r ih =>
    exact reordered_object_iff.mpr ⟨.refl_of_forall fun e he => .intro (ih e he), .refl r⟩

theorem reordered_literal {sample sample' : Value} (h : sample.Reordered sample') :
    (literal sample).Reordered (literal sample') :=
  have hkind : (LeafKind.literal sample).Reordered (.literal sample') := h
  .leaf hkind (.refl {})

theorem Reordered.rules {s s' : Schema} (h : s.Reordered s') : s.rules.Reordered s'.rules := by
  cases h <;> assumption

theorem Reordered.isOptional_eq {s s' : Schema} (h : s.Reordered s') :
    s.isOptional = s'.isOptional :=
  h.rules.isOptional

end Schema
end DocShape
