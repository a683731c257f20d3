import DocShape.Command.Run
import DocShape.Proofs.Acceptance
import DocShape.Proofs.FailureLocation
import Mathlib.Data.Fintype.EquivFin

/-!
How far the flag for additional keys reaches.

A check with the flag opens the inferred schema at its root. An unknown key of a document that is a
mapping is let pass then, but the mappings further down stay closed, and where the samples are no
mappings nothing is opened at all.

* `Schema.IsStructural`: what every node of an inferred schema is like (`eachNode_lower`).
* `valid_exemplar`: a structural schema accepts a document that can be written down from it.
* `refusesSome_of_mapping`: where mappings are expected somewhere, some document is refused for an
  unknown key. It is the exemplar with one more key in one of its mappings.
* `exists_below_of_unexpected`, `refusesSome_setOpen`: with the root opened, a refused key is one of
  a mapping below the root, and where a mapping is expected there a key is refused.
* `valid_setOpen_congr`: schemas that accept the same documents do so with the flag too.
* `unexpected_never_reported_iff`: with the flag no document is refused for an unknown key exactly
  when no mapping is expected below the root.
-/

namespace DocShape

/-! ### Structural schemas -/

/-- Rules that say no more than whether a node may be null or absent. -/
def Rules.IsStructural (r : Rules) : Prop :=
  r = { nullable := r.nullable, isOptional := r.isOptional }

def LeafKind.IsStructural : LeafKind → Prop
  | .string (some _) | .literal _ => False
  | _ => True

/-- A node that says which kind is expected and asks nothing of values. A mapping declares each key
once and refuses all others. -/
def Schema.IsStructural : Schema → Prop
  | .leaf kind r => kind.IsStructural ∧ r.IsStructural
  | .array _ r => r.IsStructural
  | .object shape isOpen r => (Entries.keys shape).Nodup ∧ isOpen = false ∧ r.IsStructural

theorem Rules.failures_of_isStructural {r : Rules} (h : r.IsStructural) (v : Value) :
    r.failures v = [] := by
  rw [h]
  rfl

theorem Schema.eachNode_mapRules {f : Rules → Rules}
    (hf : ∀ r : Rules, r.IsStructural → (f r).IsStructural) {s : Schema}
    (h : s.EachNode IsStructural) : (s.mapRules f).EachNode IsStructural := by
  cases s with
  | leaf kind r => exact ⟨h.1, hf r h.2⟩
  | array element r => exact ⟨hf r h.1, h.2⟩
  | object shape isOpen r => exact ⟨⟨h.1.1, h.1.2.1, hf r h.1.2.2⟩, h.2⟩

namespace Shape

open Schema

mutual
/-- Inference makes structural schemas. -/
theorem eachNode_lower : ∀ s : Shape, s.lower.EachNode IsStructural
  | .mk k i r => by
    have hscalar : ∀ kind : LeafKind, kind.IsStructural → (ofKind kind).EachNode IsStructural :=
      fun _ hkind => ⟨hkind, rfl⟩
    have hcontainer : ((lowerItems i).getD ((lowerRecord r).getD .any)).EachNode IsStructural := by
      cases hi : lowerItems i with
      | some t => exact eachNode_lowerItems i t hi
      | none =>
        cases hr : lowerRecord r with
        | some t => exact eachNode_lowerRecord r t hr
        | none => exact hscalar _ trivial
    have hnonNull : (nonNullSchema (.mk k i r)).EachNode IsStructural := by
      rw [nonNullSchema]
      split
      · exact hscalar _ trivial
      split
      · exact hscalar _ trivial
      split
      · exact hscalar _ trivial
      split
      · exact hscalar _ trivial
      split
      · exact hscalar _ trivial
      · exact hcontainer
    rw [lower_eq]
    split
    · refine eachNode_mapRules (fun r hr => ?_) hnonNull
      rw [hr]
      rfl
    · exact hnonNull

theorem eachNode_lowerItems : ∀ (i : Option Shape) (t : Schema), lowerItems i = some t →
    t.EachNode IsStructural
  | none, _, h => by cases h
  | some s, _, h => by
    cases h
    exact ⟨rfl, eachNode_lower s⟩

theorem eachNode_lowerRecord : ∀ (r : Option (RecordShape Shape)) (t : Schema),
    lowerRecord r = some t → t.EachNode IsStructural
  | none, _, h => by cases h
  | some ⟨seen, fields⟩, _, h => by
    cases h
    refine ⟨⟨Entries.nodup_keys_ofList _, rfl, rfl⟩, eachField_iff.mpr fun e he => ?_⟩
    exact eachNode_lowerFields seen fields e (Entries.mem_of_mem_ofList he)

theorem eachNode_lowerFields : ∀ (seen : Nat) (fields : List (String × FieldShape Shape)),
    ∀ e ∈ lowerFields seen fields, e.2.EachNode IsStructural
  | _, [] => by simp [lowerFields]
  | seen, (k, ⟨presentIn, s⟩) :: rest => by
    rw [lowerFields, List.forall_mem_cons]
    refine ⟨?_, eachNode_lowerFields seen rest⟩
    dsimp only
    split
    · refine eachNode_mapRules (fun r hr => ?_) (eachNode_lower s)
      rw [hr]
      rfl
    · exact eachNode_lower s
end

end Shape

/-! ### A valid document -/

namespace Schema

mutual
/-- A document of the kind that a schema expects, with all fields. -/
def exemplar : Schema → Value
  | .leaf kind _ => (kind.tag?.map Tag.defaultValue).getD .null
  | .array _ _ => .array []
  | .object shape _ _ => .object (exemplarFields shape)
termination_by structural s => s

def exemplarFields : List (String × Schema) → List (String × Value)
  | [] => []
  | (k, s) :: rest => (k, s.exemplar) :: exemplarFields rest
termination_by structural shape => shape
end

theorem exemplarFields_eq_map (shape : List (String × Schema)) :
    exemplarFields shape = shape.map fun e => (e.1, e.2.exemplar) := by
  induction shape with
  | nil => rfl
  | cons e rest ih => rw [exemplarFields, ih, List.map_cons]

theorem keys_exemplarFields (shape : List (String × Schema)) :
    Entries.keys (exemplarFields shape) = Entries.keys shape := by
  rw [exemplarFields_eq_map]
  simp [Entries.keys]

theorem lookup_exemplarFields {shape : List (String × Schema)} (hn : (Entries.keys shape).Nodup)
    {e : String × Schema} (he : e ∈ shape) :
    (exemplarFields shape).lookup e.1 = some e.2.exemplar := by
  refine Entries.lookup_of_mem ?_ ?_
  · rw [keys_exemplarFields]
    exact hn
  · rw [exemplarFields_eq_map]
    exact List.mem_map_of_mem he

theorem wellFormed_exemplar {s : Schema} (h : s.EachNode IsStructural) : s.exemplar.WellFormed := by
  induction s using Schema.induct with
  | leaf kind r => cases kind <;> trivial
  | array element r ih => trivial
  | object shape isOpen r ih =>
    refine ⟨?_, ?_⟩
    · rw [keys_exemplarFields]
      exact h.1.1
    · rw [Value.fieldsWellFormed_iff, exemplarFields_eq_map, List.forall_mem_map]
      intro e he
      exact ih e he (eachField_iff.mp h.2 e he)

theorem patternFailures_of_isStructural {kind : LeafKind} (h : kind.IsStructural) (v : Value) :
    kind.patternFailures v = [] := by
  cases kind with
  | string pattern =>
    cases pattern with
    | none => rfl
    | some p => exact h.elim
  | _ => rfl

theorem valid_exemplar {s : Schema} (h : s.EachNode IsStructural) : s.valid s.exemplar := by
  induction s using Schema.induct with
  | leaf kind r =>
    obtain ⟨hkind, hr⟩ := h
    have hrules := Rules.failures_of_isStructural hr
    have hpattern := patternFailures_of_isStructural hkind
    cases ht : kind.tag? with
    | none =>
      cases kind with
      | any =>
        rw [valid_iff_failures_eq_nil]
        simp [failures, Rules.failuresOnceAdmitted, LeafKind.tag?, hrules, hpattern]
      | literal sample => exact hkind.elim
      | _ => cases ht
    | some t =>
      have hself : r.prepared t t.defaultValue = t.defaultValue :=
        Rules.prepared_eq_self (Tag.tag_defaultValue t)
      have hexemplar : (leaf kind r).exemplar = t.defaultValue := by
        rw [exemplar, ht]
        rfl
      rw [hexemplar, valid_leaf_iff ht, hself]
      exact .inr ⟨Tag.tag_defaultValue t, hrules _, hpattern _⟩
  | array element r ih =>
    refine valid_array_iff.mpr (.inr ⟨[], rfl, ?_, List.forall_mem_nil _⟩)
    exact Rules.failures_of_isStructural h.1 _
  | object shape isOpen r ih =>
    obtain ⟨⟨hn, -, hr⟩, hshape⟩ := h
    refine valid_object_iff.mpr (.inr ⟨_, rfl, Rules.failures_of_isStructural hr _, ?_, .inr ?_⟩)
    · intro e he
      rw [lookup_exemplarFields hn he]
      exact ih e he (eachField_iff.mp hshape e he)
    · intro k hk
      rw [keys_exemplarFields] at hk
      exact hk

/-! ### Refused keys -/

/-- Whether some document is refused for a key that is not declared. -/
def RefusesSome (s : Schema) : Prop :=
  ∃ v f, v.WellFormed ∧ s.error? v = some f ∧ f.rule = .additionalProperties

/-- Whether a node is not for mappings. -/
def ExpectsNoMapping (s : Schema) : Prop :=
  s.tag? ≠ some .mapping

/-- The failures of an array without rules are those of its elements. -/
theorem failures_array_of_isStructural {element : Schema} {r : Rules} (hr : r.IsStructural)
    (items : List Value) :
    (array element r).failures (.array items) =
      items.zipIdx.flatMap fun e => (element.failures e.1).map (.atIndex e.2) := by
  have hrules := Rules.failures_of_isStructural hr (.array items)
  have hself : r.prepared .sequence (.array items) = .array items := Rules.prepared_eq_self rfl
  rw [failures, if_neg (by simp [Value.isNull])]
  simp [Rules.failuresOnceAdmitted, hself, Value.tag, hrules]

theorem refusesSome_array {element : Schema} {r : Rules} (hr : r.IsStructural)
    (h : element.RefusesSome) : (array element r).RefusesSome := by
  obtain ⟨v, f, hv, hf, hrule⟩ := h
  refine ⟨.array [v], f.atIndex 0, ⟨hv, trivial⟩, ?_, hrule⟩
  rw [error?_eq_head?] at hf ⊢
  rw [failures_array_of_isStructural hr]
  simp [hf]

section Objects

variable {shape : List (String × Schema)} {isOpen : Bool} {r : Rules}

theorem failures_object_of_isStructural (hr : r.IsStructural) (fields : List (String × Value)) :
    (object shape isOpen r).failures (.object fields) = fieldFailures shape fields ++
      if isOpen then [] else undeclaredFailures (Entries.keys shape) (Entries.keys fields) := by
  have hrules := Rules.failures_of_isStructural hr (.object fields)
  have hself : r.prepared .mapping (.object fields) = .object fields := Rules.prepared_eq_self rfl
  rw [failures, if_neg (by simp [Value.isNull])]
  simp [Rules.failuresOnceAdmitted, hself, Value.tag, hrules]

theorem undeclaredFailures_append_fresh {declared : List String} {key : String}
    (h : key ∉ declared) :
    undeclaredFailures declared (declared ++ [key]) = [.atKey key (.here (.unexpected key))] := by
  have hdeclared : declared.filter (fun k => !declared.contains k) = [] := by simp
  rw [undeclaredFailures, List.filter_append, hdeclared]
  simp [h]

/-- Where the other fields are valid, the failures are those of the one that is not. -/
theorem fieldFailures_of_others (hn : (Entries.keys shape).Nodup) {key : String} {t : Schema}
    (hmem : (key, t) ∈ shape) {fields : List (String × Value)} {x : Value}
    (hx : fields.lookup key = some x)
    (hothers : ∀ e ∈ shape, e.1 ≠ key → e.2.AdmitsField (fields.lookup e.1)) :
    fieldFailures shape fields = (t.failures x).map (.atKey key) := by
  induction shape with
  | nil => cases hmem
  | cons e rest ih =>
    obtain ⟨k, s⟩ := e
    rw [Entries.keys_cons, List.nodup_cons] at hn
    rw [List.forall_mem_cons] at hothers
    rcases List.mem_cons.mp hmem with heq | hmem
    · cases heq
      have hrest : fieldFailures rest fields = [] := by
        rw [fieldFailures_eq_nil_iff]
        intro e he
        refine hothers.2 e he ?_
        rintro rfl
        exact hn.1 (Entries.mem_keys_iff.mpr ⟨_, he⟩)
      rw [fieldFailures, hx, hrest, List.append_nil]
    · have hne : k ≠ key := by
        rintro rfl
        exact hn.1 (Entries.mem_keys_iff.mpr ⟨_, hmem⟩)
      have hfirst : fieldFailures [(k, s)] fields = [] := by
        rw [fieldFailures_eq_nil_iff]
        intro e he
        rw [List.mem_singleton.mp he]
        exact hothers.1 hne
      rw [fieldFailures, fieldFailures, List.append_nil] at hfirst
      rw [fieldFailures, hfirst, List.nil_append]
      exact ih hn.2 hmem hothers.2

variable (hn : (Entries.keys shape).Nodup) (hshape : ∀ e ∈ shape, e.2.EachNode IsStructural)

include hn hshape

theorem wellFormed_insert_exemplarFields (key : String) {x : Value} (hx : x.WellFormed) :
    (Value.object (Entries.insert key x (exemplarFields shape))).WellFormed := by
  constructor
  · refine Entries.nodup_keys_insert ?_ key x
    rw [keys_exemplarFields]
    exact hn
  · rw [Value.fieldsWellFormed_iff]
    intro e he
    rcases Entries.mem_of_mem_insert he with rfl | he
    · exact hx
    · rw [exemplarFields_eq_map] at he
      obtain ⟨e', he', rfl⟩ := List.mem_map.mp he
      exact wellFormed_exemplar (hshape e' he')

/-- The other fields of an exemplar stay valid when one is replaced or added. -/
theorem admitsField_insert_exemplarFields (key : String) (x : Value) :
    ∀ e ∈ shape, e.1 ≠ key →
      e.2.AdmitsField ((Entries.insert key x (exemplarFields shape)).lookup e.1) := by
  intro e he hne
  rw [Entries.lookup_insert, if_neg hne, lookup_exemplarFields hn he]
  exact valid_exemplar (hshape e he)

/-- A closed object refuses its exemplar with a fresh key. -/
theorem refusesSome_closed (hr : r.IsStructural) : (object shape false r).RefusesSome := by
  obtain ⟨key, hkey⟩ := Infinite.exists_notMem_finset (Entries.keys shape).toFinset
  have hfresh : key ∉ Entries.keys shape := fun h => hkey (List.mem_toFinset.mpr h)
  have hvalid : fieldFailures shape (Entries.insert key .null (exemplarFields shape)) = [] := by
    rw [fieldFailures_eq_nil_iff]
    intro e he
    refine admitsField_insert_exemplarFields hn hshape key .null e he ?_
    rintro rfl
    exact hfresh (Entries.mem_keys_of_mem he)
  have hkeys : Entries.keys (Entries.insert key .null (exemplarFields shape)) =
      Entries.keys shape ++ [key] := by
    rw [Entries.keys_insert, keys_exemplarFields, if_neg hfresh]
  refine ⟨_, .atKey key (.here (.unexpected key)),
    wellFormed_insert_exemplarFields hn hshape key (x := .null) trivial, ?_, rfl⟩
  rw [error?_eq_head?, failures_object_of_isStructural hr, hvalid, hkeys,
    undeclaredFailures_append_fresh hfresh]
  rfl

/-- An object refuses its exemplar with a value that a field refuses, open or not. -/
theorem refusesSome_object (hr : r.IsStructural) {key : String} {t : Schema}
    (hmem : (key, t) ∈ shape) (h : t.RefusesSome) : (object shape isOpen r).RefusesSome := by
  obtain ⟨v, f, hv, hf, hrule⟩ := h
  refine ⟨_, f.atKey key, wellFormed_insert_exemplarFields hn hshape key hv, ?_, hrule⟩
  have hothers := admitsField_insert_exemplarFields hn hshape key v
  have hx : (Entries.insert key v (exemplarFields shape)).lookup key = some v := by
    rw [Entries.lookup_insert, if_pos rfl]
  rw [error?_eq_head?] at hf ⊢
  rw [failures_object_of_isStructural hr, fieldFailures_of_others hn hmem hx hothers]
  simp [hf]

end Objects

/-- A structural schema that expects a mapping somewhere refuses some document for an unknown
key. -/
theorem refusesSome_of_mapping {s : Schema} (h : s.EachNode IsStructural)
    (hm : ¬ s.EachNode ExpectsNoMapping) : s.RefusesSome := by
  induction s using Schema.induct with
  | leaf kind r =>
    refine absurd ?_ hm
    cases kind <;> exact nofun
  | array element r ih =>
    refine refusesSome_array h.1 (ih h.2 fun helement => hm ⟨nofun, helement⟩)
  | object shape isOpen r ih =>
    obtain ⟨⟨hn, rfl, hr⟩, hshape⟩ := h
    exact refusesSome_closed hn (eachField_iff.mp hshape) hr

/-! ### The flag -/

/-- What holds of each node of a structural schema holds of each node below. -/
theorem eachNode_below {p : Schema → Prop} {s t : Schema} {step : Step} (h : Below s step t)
    (hs : s.EachNode IsStructural) (hp : s.EachNode p) : t.EachNode p := by
  cases h with
  | field hmem => exact eachField_iff.mp hp.2 _ hmem
  | element => exact hp.2
  | sampleField _ => exact hs.1.elim
  | sampleItem _ => exact hs.1.elim

theorem At.eachNode {p : Schema → Prop} {s t : Schema} {v w : Value} {way : Path}
    (h : At s v way t w) (hs : s.EachNode IsStructural) (hp : s.EachNode p) : t.EachNode p := by
  induction h with
  | root => exact hp
  | step hbelow _ _ ih => exact ih (eachNode_below hbelow hs hs) (eachNode_below hbelow hs hp)

theorem below_setOpen_iff {s t : Schema} {step : Step} {b : Bool} :
    Below (s.setOpen b) step t ↔ Below s step t := by
  cases s with
  | object shape isOpen r =>
    constructor
    · rintro ⟨hmem⟩
      exact .field hmem
    · rintro ⟨hmem⟩
      exact .field hmem
  | _ => exact Iff.rfl

/-- Of structural nodes only those for mappings refuse keys. -/
theorem not_expectsNoMapping_of_refusesUnknown {s : Schema} (hs : s.IsStructural)
    (h : s.RefusesUnknown) : ¬ s.ExpectsNoMapping := by
  intro hno
  cases s with
  | object shape isOpen r => exact hno rfl
  | array element r => exact h.elim
  | leaf kind r =>
    cases kind with
    | literal sample => exact hs.1.elim
    | _ => exact h.elim

theorem not_refusesUnknown_setOpen {s : Schema} (hs : s.IsStructural) :
    ¬ (s.setOpen true).RefusesUnknown := by
  intro h
  cases s with
  | object shape isOpen r => cases h
  | array element r => exact h.elim
  | leaf kind r =>
    cases kind with
    | literal sample => exact hs.1.elim
    | _ => exact h.elim

/-- With its root opened, a structural schema refuses unknown keys of mappings below the root
only. -/
theorem exists_below_of_unexpected {s : Schema} (hs : s.EachNode IsStructural) {v : Value}
    {f : Failure} (h : (s.setOpen true).error? v = some f)
    (hrule : f.rule = .additionalProperties) :
    ∃ step t, s.Below step t ∧ ¬ t.EachNode ExpectsNoMapping := by
  obtain ⟨p, t, w, rest, hat, hhere, -⟩ := exists_at_of_error? h
  have hrefuses : t.RefusesUnknown := by
    obtain ⟨trail, cause⟩ := f
    cases hhere with
    | own hcause _ => exact absurd hrule (Cause.rule_of_ofNode hcause).2
    | missing _ _ _ => cases hrule
    | unexpected hr _ _ _ => exact hr
  cases hat with
  | root => exact absurd hrefuses (not_refusesUnknown_setOpen hs.root)
  | @step _ t' _ _ _ _ step _ hbelow _ hat =>
    have hbelow := below_setOpen_iff.mp hbelow
    have ht' := eachNode_below hbelow hs hs
    refine ⟨step, t', hbelow, ?_⟩
    intro hno
    have hstructural := (hat.eachNode ht' ht').root
    exact not_expectsNoMapping_of_refusesUnknown hstructural hrefuses (hat.eachNode ht' hno).root

/-- With its root opened, a structural schema still refuses some document where a mapping is
expected below the root. -/
theorem refusesSome_setOpen {s t : Schema} (hs : s.EachNode IsStructural) {step : Step}
    (h : s.Below step t) (ht : ¬ t.EachNode ExpectsNoMapping) : (s.setOpen true).RefusesSome := by
  have hbelow := refusesSome_of_mapping (eachNode_below h hs hs) ht
  cases h with
  | field hmem =>
    obtain ⟨⟨hn, -, hr⟩, hshape⟩ := hs
    exact refusesSome_object hn (eachField_iff.mp hshape) hr hmem hbelow
  | element => exact refusesSome_array hs.1 hbelow
  | sampleField _ => exact hs.1.elim
  | sampleItem _ => exact hs.1.elim

/-! ### The flag on schemas that accept the same documents -/

/-- An open object accepts what the closed one accepts of the declared keys. -/
theorem valid_open_object_iff {shape : List (String × Schema)} {r : Rules} (hr : r.IsStructural)
    {fields : List (String × Value)} :
    (object shape true r).valid (.object fields) ↔ (object shape false r).valid
      (.object (fields.filter fun e => (Entries.keys shape).contains e.1)) := by
  have hrules := fun v => Rules.failures_of_isStructural hr v
  have hlookup : ∀ e ∈ shape,
      (fields.filter fun e => (Entries.keys shape).contains e.1).lookup e.1 =
        fields.lookup e.1 := by
    intro e he
    have hkey := Entries.mem_keys_of_mem he
    rw [Entries.lookup_filter, if_pos (List.contains_iff_mem.mpr hkey)]
  have hkeys : ∀ k ∈ Entries.keys (fields.filter fun e => (Entries.keys shape).contains e.1),
      k ∈ Entries.keys shape := by
    intro k hk
    obtain ⟨w, hw⟩ := Entries.mem_keys_iff.mp hk
    exact List.contains_iff_mem.mp (List.mem_filter.mp hw).2
  rw [valid_object_iff, valid_object_iff]
  constructor
  · rintro (⟨hnull, -⟩ | ⟨fields', hfields, -, hfit, -⟩)
    · cases hnull
    · cases hfields
      refine .inr ⟨_, rfl, hrules _, fun e he => ?_, .inr hkeys⟩
      rw [hlookup e he]
      exact hfit e he
  · rintro (⟨hnull, -⟩ | ⟨fields', hfields, -, hfit, -⟩)
    · cases hnull
    · cases hfields
      refine .inr ⟨_, rfl, hrules _, fun e he => ?_, .inl rfl⟩
      rw [← hlookup e he]
      exact hfit e he

theorem valid_object_of_not_object {shape : List (String × Schema)} {isOpen : Bool} {r : Rules}
    {v : Value} (hv : ∀ fields, v ≠ .object fields) :
    (object shape isOpen r).valid v ↔ v = .null ∧ r.acceptsNull := by
  rw [valid_object_iff]
  refine or_iff_left ?_
  rintro ⟨fields, rfl, -⟩
  exact hv fields rfl

/-- Of structural schemas that are not for mappings, the one for anything accepts mappings. -/
theorem eq_any_of_valid_object {s : Schema} (hs : s.IsStructural) (hno : s.ExpectsNoMapping)
    {fields : List (String × Value)} (h : s.valid (.object fields)) : ∃ r, s = leaf .any r := by
  cases s with
  | object shape isOpen r => exact absurd rfl hno
  | array element r =>
    rcases valid_array_iff.mp h with ⟨hnull, -⟩ | ⟨items, hitems, -⟩
    · cases hnull
    · cases hitems
  | leaf kind r =>
    cases ht : kind.tag? with
    | none =>
      cases kind with
      | any => exact ⟨r, rfl⟩
      | literal sample => exact hs.1.elim
      | _ => cases ht
    | some t =>
      have hcoerces : r.coerces = false := by
        rw [hs.2]
      rw [valid_leaf_iff ht, prepared_of_not_coerces hcoerces] at h
      rcases h with ⟨hnull, -⟩ | ⟨rfl | ⟨-, htag⟩, -⟩
      · cases hnull
      · cases kind <;> cases ht
      · cases htag

theorem expectsNoMapping_leaf (kind : LeafKind) (r : Rules) : (leaf kind r).ExpectsNoMapping := by
  cases kind <;> exact nofun

/-- Structural schemas that accept the same documents are for mappings at the root both. -/
theorem not_expectsNoMapping_of_valid_eq {shape : List (String × Schema)} {isOpen : Bool}
    {r : Rules} {t : Schema} (hs : (object shape isOpen r).EachNode IsStructural)
    (ht : t.IsStructural)
    (h : ∀ v, (object shape isOpen r).valid v = t.valid v) : ¬ t.ExpectsNoMapping := by
  intro hno
  have hvalid : t.valid (object shape isOpen r).exemplar := by
    rw [← h]
    exact valid_exemplar hs
  obtain ⟨r', rfl⟩ := eq_any_of_valid_object ht hno hvalid
  have hbool : (leaf .any r').valid (.bool true) :=
    valid_leaf_any_iff.mpr (.inr (Rules.failures_of_isStructural ht.2 _))
  have hne : ∀ fields, Value.bool true ≠ .object fields := by
    intro fields hfields
    cases hfields
  rw [← h, valid_object_of_not_object hne] at hbool
  cases hbool.1

/-- Each declares the keys of the other. -/
theorem mem_keys_of_valid_eq {shape shape' : List (String × Schema)} {r r' : Rules}
    (hs : (object shape false r).EachNode IsStructural)
    (h : ∀ v, (object shape false r).valid v = (object shape' false r').valid v) {key : String}
    (hkey : key ∈ Entries.keys shape) : key ∈ Entries.keys shape' := by
  have hvalid : (object shape' false r').valid (object shape false r).exemplar := by
    rw [← h]
    exact valid_exemplar hs
  rcases valid_object_iff.mp hvalid with ⟨hnull, -⟩ | ⟨fields, hfields, -, -, hopen | hkeys⟩
  · cases hnull
  · cases hopen
  · cases hfields
    refine hkeys key ?_
    rw [keys_exemplarFields]
    exact hkey

/-- Structural schemas that accept the same documents do so with their roots opened too. -/
theorem valid_setOpen_congr {s t : Schema} (hs : s.EachNode IsStructural)
    (ht : t.EachNode IsStructural) (h : ∀ v, s.valid v = t.valid v) (v : Value) :
    (s.setOpen true).valid v = (t.setOpen true).valid v := by
  cases s with
  | object shape isOpen r =>
    cases t with
    | object shape' isOpen' r' =>
      obtain ⟨-, rfl, hr⟩ := hs.root
      obtain ⟨-, rfl, hr'⟩ := ht.root
      have hkeys : ∀ key,
          (Entries.keys shape).contains key = (Entries.keys shape').contains key := by
        intro key
        rw [Bool.eq_iff_iff, List.contains_iff_mem, List.contains_iff_mem]
        exact ⟨mem_keys_of_valid_eq hs h, mem_keys_of_valid_eq ht fun v => (h v).symm⟩
      rw [Bool.eq_iff_iff, setOpen, setOpen]
      by_cases hv : ∃ fields, v = .object fields
      · obtain ⟨fields, rfl⟩ := hv
        rw [valid_open_object_iff hr, valid_open_object_iff hr', h]
        simp only [hkeys]
      · have hv' : ∀ fields, v ≠ .object fields := fun fields hf => hv ⟨fields, hf⟩
        have hclosed := h v
        rw [Bool.eq_iff_iff, valid_object_of_not_object hv',
          valid_object_of_not_object hv'] at hclosed
        rw [valid_object_of_not_object hv', valid_object_of_not_object hv', hclosed]
    | array element r' => exact (not_expectsNoMapping_of_valid_eq hs ht.root h nofun).elim
    | leaf kind r' =>
      exact (not_expectsNoMapping_of_valid_eq hs ht.root h (expectsNoMapping_leaf kind r')).elim
  | array element r =>
    cases t with
    | object shape isOpen r' =>
      exact (not_expectsNoMapping_of_valid_eq ht hs.root (fun v => (h v).symm) nofun).elim
    | _ => exact h v
  | leaf kind r =>
    cases t with
    | object shape isOpen r' =>
      exact (not_expectsNoMapping_of_valid_eq ht hs.root (fun v => (h v).symm)
        (expectsNoMapping_leaf kind r)).elim
    | _ => exact h v

end Schema

/-- With the flag, no document is refused for a key that the samples never had exactly when no
mapping is expected below the root of the documents. -/
theorem Command.unexpected_never_reported_iff (samples : List Command.Document) :
    (∀ v : Value, v.WellFormed → ∀ f, (Command.schemaOf samples true).error? v = some f →
        f.rule ≠ .additionalProperties) ↔
      ∀ step t, (Schema.ofSamples (samples.map (·.value))).Below step t →
        t.EachNode Schema.ExpectsNoMapping := by
  have hs : (Schema.ofSamples (samples.map (·.value))).EachNode Schema.IsStructural :=
    Shape.eachNode_lower _
  constructor
  · intro h step t hbelow
    by_contra hmapping
    obtain ⟨v, f, hv, hf, hrule⟩ := Schema.refusesSome_setOpen hs hbelow hmapping
    exact h v hv f hf hrule
  · intro h v _ f hf hrule
    obtain ⟨step, t, hbelow, hmapping⟩ := Schema.exists_below_of_unexpected hs hf hrule
    exact hmapping (h step t hbelow)

/-- From a sample that is an array of mappings nothing is opened: a check with the flag reports the
key of a mapping inside. -/
theorem Command.checkAll_reports_unexpected :
    ∃ f : Failure, f.rule = .additionalProperties ∧
      (Command.checkAll false
        (Command.schemaOf [⟨"s.json", .array [.object [("x", .number (.integer 1))]]⟩] true)
        ⟨[⟨"t.json",
          .array [.object [("x", .number (.integer 1)), ("y", .number (.integer 2))]]⟩],
          none⟩).printed = ["✘ t.json: " ++ f.text] := by
  refine ⟨⟨[.required (.index 0), .required (.key "y")], .unexpected "y"⟩, rfl, ?_⟩
  decide +kernel

end DocShape
