import DocShape.Proofs.Parsing
import DocShape.Proofs.SchemaTree

/-!
Parsing rebuilds only what changes, and the result is the same as if it rebuilt everything.

A check keeps the nodes that it does not change: an array is copied from its first changed item on,
and an object is patched at its changed fields. `Schema.normalized` is the document that comes out
if every node is made anew, whether something in it changes or not.

* `parse_eq_normalized`: a valid document parses to the normalized one, the order of keys included.
* `normalized_eq_self`: what converts nothing, has no defaults and is not for floats leaves each
  document as it is.

The patches of an object are related to its normalized fields in two steps: at the keys that are
there (`getD_lookup_of_checkFields`), and at those that are filled in (`filter_of_checkFields`).
-/

namespace DocShape

namespace Schema

/-! ### Normalized documents -/

/-- The defaults of the optional fields that an object lacks, in the order of their declaration. -/
def filledIn (shape : List (String × Schema)) (fields : List (String × Value)) :
    List (String × Value) :=
  shape.filterMap fun e =>
    if !Entries.contains fields e.1 && e.2.isOptional then e.2.rules.default.map (e.1, ·) else none

mutual
/-- The document made anew: defaults stand for the nulls that are accepted, leaves with a tag are
converted, items and declared fields are normalized in their places, undeclared fields are left as
they are, and defaults of absent fields come last. -/
def normalized : Schema → Value → Value
  | .leaf kind r, v =>
    if (leaf kind r).skips v then r.default.getD v
    else
      match kind.tag? with
      | some t => r.prepared t v
      | none => v
  | .array element r, v =>
    if (array element r).skips v then r.default.getD v
    else
      match v with
      | .array items => .array (items.map fun x => normalized element x)
      | v => v
  | .object shape isOpen r, v =>
    if (object shape isOpen r).skips v then r.default.getD v
    else
      match v with
      | .object fields =>
        .object ((fields.map fun e => (e.1, normalizedAt shape e.1 e.2)) ++ filledIn shape fields)
      | v => v
termination_by structural s => s

/-- What stands at a key afterwards. -/
def normalizedAt : (shape : List (String × Schema)) → (key : String) → Value → Value
  | [], _, v => v
  | (k, s) :: rest, key, v => if key = k then normalized s v else normalizedAt rest key v
termination_by structural shape => shape
end

theorem normalizedAt_of_lookup {shape : List (String × Schema)} {key : String} {s : Schema}
    (h : shape.lookup key = some s) (v : Value) : normalizedAt shape key v = s.normalized v := by
  induction shape with
  | nil => cases h
  | cons e rest ih =>
    rw [Entries.lookup_cons] at h
    rw [normalizedAt]
    split at h
    · rename_i hkey
      cases h
      rw [if_pos hkey]
    · rename_i hkey
      rw [if_neg hkey, ih h]

theorem normalizedAt_of_undeclared {shape : List (String × Schema)} {key : String}
    (h : key ∉ Entries.keys shape) (v : Value) : normalizedAt shape key v = v := by
  induction shape with
  | nil => rfl
  | cons e rest ih =>
    rw [Entries.keys_cons, List.mem_cons, not_or] at h
    rw [normalizedAt, if_neg h.1, ih h.2]

theorem normalized_of_skips {s : Schema} {v : Value} (h : s.skips v) :
    s.normalized v = s.rules.default.getD v := by
  cases s <;> exact if_pos h

theorem eq_normalized_of_skips {s : Schema} {v w : Value} (hskips : s.skips v)
    (h : s.parse v = .ok w) : w = s.normalized v := by
  have hv : v = .null := Value.isNull_iff.mp (Bool.and_eq_true_iff.mp hskips).1
  rw [parse_of_skips hskips] at h
  rw [normalized_of_skips hskips, hv, Except.ok.inj h]

/-! ### What a check does to a node -/

section Fields

variable {shape : List (String × Schema)} {trail : Path} {fields patches : List (String × Value)}

/-- The patches at keys that the object lacks are the defaults that are filled in. -/
theorem filter_of_checkFields (h : checkFields shape trail fields = .ok patches) :
    patches.filter (fun e => !Entries.contains fields e.1) = filledIn shape fields := by
  induction shape generalizing patches with
  | nil =>
    cases h
    rfl
  | cons e rest ih =>
    obtain ⟨k, s⟩ := e
    obtain ⟨patch, later, hpatch, hlater, rfl⟩ := checkFields_cons_eq_ok_iff.mp h
    rw [List.filter_append, ih hlater, filledIn, filledIn, List.filterMap_cons]
    cases hfound : fields.lookup k with
    | some v =>
      have hin : Entries.contains fields k :=
        Entries.contains_iff.mpr (Entries.mem_keys_of_lookup_eq_some hfound)
      cases patch <;> simp [hin]
    | none =>
      have hnot : Entries.contains fields k = false := by
        rw [← Bool.not_eq_true, Entries.contains_iff]
        exact Entries.lookup_eq_none_iff_notMem.mp hfound
      rw [hfound] at hpatch
      obtain ⟨hopt, rfl⟩ := hpatch
      cases s.rules.default <;> simp [hnot, hopt]

/-- At a key of the object the patch, if there is one, is the normalized value, and else the value
is normalized already. -/
theorem getD_lookup_of_checkFields (hn : (Entries.keys shape).Nodup)
    (h : checkFields shape trail fields = .ok patches)
    (hs : ∀ e ∈ shape, ∀ v ∈ fields.lookup e.1, ∀ w, e.2.parse v = .ok w → w = e.2.normalized v)
    {key : String} {v : Value} (hv : fields.lookup key = some v) :
    (patches.lookup key).getD v = normalizedAt shape key v := by
  have hpatches := (keys_sublist_of_checkFields h).nodup hn
  have hafter : (Entries.insertAll fields patches).lookup key =
      some ((patches.lookup key).getD v) := by
    rw [Entries.lookup_insertAll hpatches, hv]
    cases patches.lookup key <;> rfl
  by_cases hkey : key ∈ Entries.keys shape
  · obtain ⟨s, hmem⟩ := Entries.mem_keys_iff.mp hkey
    have hsettled := settlesField_of_checkFields hn h _ hmem
    rw [hv, hafter] at hsettled
    obtain ⟨w, hparse, hw⟩ := hsettled
    rw [normalizedAt_of_lookup (Entries.lookup_of_mem hn hmem), Option.some.inj hw]
    exact hs _ hmem v hv w hparse
  · rw [lookup_of_checkFields hn h hkey, hv] at hafter
    rw [normalizedAt_of_undeclared hkey, ← Option.some.inj hafter]

end Fields

/-- The patched object is the one that is made anew. -/
theorem insertAll_of_checkFields {shape : List (String × Schema)} {trail : Path}
    {fields patches : List (String × Value)} (hn : (Entries.keys shape).Nodup)
    (hw : (Entries.keys fields).Nodup) (h : checkFields shape trail fields = .ok patches)
    (hs : ∀ e ∈ shape, ∀ v ∈ fields.lookup e.1, ∀ w, e.2.parse v = .ok w → w = e.2.normalized v) :
    Entries.insertAll fields patches =
      (fields.map fun e => (e.1, normalizedAt shape e.1 e.2)) ++ filledIn shape fields := by
  have hpatches := (keys_sublist_of_checkFields h).nodup hn
  rw [Entries.insertAll_eq_append hw hpatches, filter_of_checkFields h]
  congr 1
  refine List.map_congr_left fun e he => ?_
  rw [getD_lookup_of_checkFields hn h hs (Entries.lookup_of_mem hw he)]

/-- What a node parses to is the normalized node. The induction is on the schema. -/
theorem eq_normalized_of_parse {s : Schema} (hs : s.WellFormed) {v w : Value} (hv : v.WellFormed)
    (h : s.parse v = .ok w) : w = s.normalized v := by
  induction s using Schema.induct generalizing v w with
  | leaf kind r =>
    cases hskips : (leaf kind r).skips v with
    | true => exact eq_normalized_of_skips hskips h
    | false =>
      rw [normalized, if_neg (ne_true_of_eq_false hskips)]
      cases ht : kind.tag? with
      | none => exact eq_of_parse_untagged_leaf ht hskips h
      | some t => exact ((parse_leaf_eq_ok_iff ht hskips).mp h).1
  | array element r ih =>
    cases hskips : (array element r).skips v with
    | true => exact eq_normalized_of_skips hskips h
    | false =>
      obtain ⟨items, ws, rfl, -, hitems, rfl⟩ := (parse_array_eq_ok_iff hskips).mp h
      rw [normalized, if_neg (ne_true_of_eq_false hskips)]
      have hws := eq_map_of_mapM (g := element.normalized) (fun x hx w hw =>
        ih hs.2 (Value.itemsWellFormed_iff.mp hv x hx) hw) hitems
      rw [hws]
  | object shape isOpen r ih =>
    cases hskips : (object shape isOpen r).skips v with
    | true => exact eq_normalized_of_skips hskips h
    | false =>
      obtain ⟨fields, patches, rfl, -, hpatches, -, rfl⟩ := (parse_object_eq_ok_iff hskips).mp h
      obtain ⟨hn, hfields⟩ := wellFormed_object_iff.mp hs
      rw [normalized, if_neg (ne_true_of_eq_false hskips)]
      rw [insertAll_of_checkFields hn hv.1 hpatches fun e he x hx w hw => ?_]
      have hx := Value.fieldsWellFormed_iff.mp hv.2 _ (Entries.mem_of_lookup_eq_some hx)
      exact ih e he (hfields e he) hx hw

/-! ### Schemas that change nothing -/

/-- Whether a node leaves what it accepts as it is: it converts nothing, has no default, and is not
for floats, into which integers are widened. -/
def LeavesAsIs (s : Schema) : Prop :=
  s.rules.coerces = false ∧ s.rules.default = none ∧ s.tag? ≠ some .float

theorem filledIn_eq_nil {shape : List (String × Schema)}
    (h : ∀ e ∈ shape, e.2.rules.default = none) (fields : List (String × Value)) :
    filledIn shape fields = [] := by
  refine List.filterMap_eq_nil_iff.mpr fun e he => ?_
  rw [h e he]
  split <;> rfl

theorem normalizedAt_eq_self {shape : List (String × Schema)}
    (h : ∀ e ∈ shape, ∀ v, e.2.normalized v = v) (key : String) (v : Value) :
    normalizedAt shape key v = v := by
  induction shape with
  | nil => rfl
  | cons e rest ih =>
    rw [List.forall_mem_cons] at h
    rw [normalizedAt, h.1, ih h.2, ite_self]

/-- Where no node changes anything, the document stays as it is. -/
theorem normalized_eq_self {s : Schema} (h : s.EachNode LeavesAsIs) (v : Value) :
    s.normalized v = v := by
  induction s using Schema.induct generalizing v with
  | leaf kind r =>
    obtain ⟨hc, hd, hf⟩ := h
    rw [rules] at hc hd
    rw [tag?] at hf
    rw [normalized, hd, Option.getD_none]
    cases ht : kind.tag? with
    | none => exact ite_self v
    | some t =>
      rw [ht] at hf
      have hprepared : r.prepared t v = v := by
        have hfloat : t ≠ .float := fun heq => hf (congrArg some heq)
        simp [Rules.prepared, hc, hfloat]
      dsimp only
      rw [hprepared, ite_self]
  | array element r ih =>
    obtain ⟨⟨-, hd, -⟩, helement⟩ := h
    rw [rules] at hd
    cases v with
    | array items =>
      have hitems : (items.map fun x => element.normalized x) = items := by simp [ih helement]
      rw [normalized, hitems, hd, Option.getD_none, ite_self]
    | _ => simp only [normalized, hd, Option.getD_none, ite_self]
  | object shape isOpen r ih =>
    obtain ⟨⟨-, hd, -⟩, hfields⟩ := h
    rw [rules] at hd
    rw [eachField_iff] at hfields
    cases v with
    | object fields =>
      have hsame := normalizedAt_eq_self fun e he => ih e he (hfields e he)
      have hmap : (fields.map fun e => (e.1, normalizedAt shape e.1 e.2)) = fields := by
        simp [hsame]
      rw [normalized, hmap, filledIn_eq_nil fun e he => (hfields e he).root.2.1, List.append_nil,
        hd, Option.getD_none, ite_self]
    | _ => simp only [normalized, hd, Option.getD_none, ite_self]

/-- A valid document parses to the document made anew, which is the document itself where no node
of the schema converts, widens or has a default. -/
theorem parse_eq_normalized {s : Schema} (hs : s.WellFormed) {v : Value} (hv : v.WellFormed)
    (h : s.valid v) :
    s.parse v = .ok (s.normalized v) ∧ (s.EachNode LeavesAsIs → s.parse v = .ok v) := by
  obtain ⟨w, hparse⟩ := valid_iff_parse.mp h
  rw [hparse, eq_normalized_of_parse hs hv hparse]
  refine ⟨rfl, fun hsame => ?_⟩
  rw [normalized_eq_self hsame]

/-- An array with converted items between others, a widened number, a default for a null, one for an
absent field and an undeclared key; and an array that stays as it is. -/
theorem parse_eq_normalized_mixed_items :
    (object [("items", .array (.leaf .integer { coerces := true }) {}), ("ratio", float),
        ("note", .leaf (.string none) { default := some (.string "none") }),
        ("count", .leaf .integer { isOptional := true, default := some (.number (.integer 1)) })]
        true {}).parse (.object [("ratio", .number (.integer 2)), ("extra", .null),
          ("items", .array [.number (.integer 1), .string "2", .bool true, .number (.integer 4)]),
          ("note", .null)]) =
      .ok (.object [("ratio", .number (.float (.ofInt64 2))), ("extra", .null),
        ("items", .array [.number (.integer 1), .number (.integer 2), .number (.integer 1),
          .number (.integer 4)]), ("note", .string "none"), ("count", .number (.integer 1))]) ∧
    (arrayOf (object [("on", boolean)] false {})).parse
        (.array [.object [("on", .bool true)], .object [("on", .bool false)]]) =
      .ok (.array [.object [("on", .bool true)], .object [("on", .bool false)]]) := by
  constructor
  · refine (parse_eq_normalized ?_ ?_ ?_).1.trans (congrArg Except.ok ?_)
    · simp [WellFormed, EachNode, EachField, DeclaresOnce, float, ofKind]
    · simp [Value.WellFormed, Value.FieldsWellFormed, Value.ItemsWellFormed]
    · decide +kernel
    · decide +kernel
  · refine (parse_eq_normalized ?_ ?_ ?_).2 ?_
    · simp [WellFormed, EachNode, EachField, DeclaresOnce, arrayOf, boolean, ofKind]
    · simp [Value.WellFormed, Value.FieldsWellFormed, Value.ItemsWellFormed]
    · decide +kernel
    · simp [EachNode, EachField, LeavesAsIs, arrayOf, boolean, ofKind, rules, tag?, LeafKind.tag?]

end Schema
end DocShape
