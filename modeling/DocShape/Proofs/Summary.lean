import DocShape.Proofs.EntryLaws
import DocShape.Shape.Observe

/-!
What a shape says of the samples that it was observed from.

A position of some samples (the root, the elements of all arrays, the values at a key) holds a list
of nodes again, and `Shape.Summarizes` relates each node of a shape to the nodes at its position:
the scalar kinds are those that occur there, and of mappings there are exact counts.

* `summarizes_join`: joined shapes summarize the samples of both sides.
* `summarizes_observe`, `summarizes_observeAll`: one sample, and any run of an inference, is
  summarized by its shape.
* `countsWithin_of_summarizes`: no count exceeds the number of mappings in the samples.

Mappings repeat no key, which is `Value.WellFormed`.
-/

namespace DocShape

/-! ### Positions in samples -/

namespace Samples

/-- Whether a node carries the tag. -/
def has (samples : List Value) (t : Tag) : Bool :=
  samples.any t.carriedBy

/-- The elements of all arrays. -/
def elements (samples : List Value) : List Value :=
  samples.flatMap fun
    | .array items => items
    | _ => []

/-- The fields of all mappings, one by one. -/
def mappings (samples : List Value) : List (List (String × Value)) :=
  samples.filterMap fun
    | .object fields => some fields
    | _ => none

/-- The values at a key, of the mappings that have it. -/
def atKey (samples : List Value) (key : String) : List Value :=
  (mappings samples).filterMap (·.lookup key)

/-- Whether some mapping has the key. -/
def HasKey (samples : List Value) (key : String) : Prop :=
  ∃ fields ∈ mappings samples, key ∈ Entries.keys fields

/-- The scalar kinds that occur. -/
def scalarKinds (samples : List Value) : ScalarKinds where
  null := has samples .null
  boolean := has samples .boolean
  integer := has samples .integer
  float := has samples .float
  string := has samples .string

variable {samples xs ys : List Value}

theorem has_iff {t : Tag} : has samples t ↔ ∃ v ∈ samples, v.tag = t := by
  simp [has, Tag.carriedBy]

theorem has_append (t : Tag) : has (xs ++ ys) t = (has xs t || has ys t) :=
  List.any_append

theorem scalarKinds_append :
    scalarKinds (xs ++ ys) = (scalarKinds xs).union (scalarKinds ys) := by
  simp [scalarKinds, ScalarKinds.union, has_append]

theorem mem_elements {x : Value} :
    x ∈ elements samples ↔ ∃ items, .array items ∈ samples ∧ x ∈ items := by
  rw [elements, List.mem_flatMap]
  constructor
  · rintro ⟨v, hv, hx⟩
    split at hx
    · exact ⟨_, hv, hx⟩
    · cases hx
  · rintro ⟨items, hv, hx⟩
    exact ⟨_, hv, hx⟩

theorem elements_append (xs ys : List Value) :
    elements (xs ++ ys) = elements xs ++ elements ys :=
  List.flatMap_append

theorem elements_eq_nil (h : has samples .sequence = false) : elements samples = [] := by
  rw [List.eq_nil_iff_forall_not_mem]
  intro x hx
  obtain ⟨items, hv, -⟩ := mem_elements.mp hx
  have hs : has samples .sequence = true := has_iff.mpr ⟨_, hv, rfl⟩
  rw [h] at hs
  cases hs

theorem mem_mappings {fields : List (String × Value)} :
    fields ∈ mappings samples ↔ .object fields ∈ samples := by
  rw [mappings, List.mem_filterMap]
  constructor
  · rintro ⟨v, hv, hf⟩
    split at hf <;> cases hf
    exact hv
  · intro hv
    exact ⟨_, hv, rfl⟩

theorem mappings_append (xs ys : List Value) :
    mappings (xs ++ ys) = mappings xs ++ mappings ys :=
  List.filterMap_append

theorem mappings_eq_nil (h : has samples .mapping = false) : mappings samples = [] := by
  rw [List.eq_nil_iff_forall_not_mem]
  intro fields hf
  have hs : has samples .mapping = true := has_iff.mpr ⟨_, mem_mappings.mp hf, rfl⟩
  rw [h] at hs
  cases hs

theorem mem_atKey {key : String} {v : Value} :
    v ∈ atKey samples key ↔ ∃ fields, .object fields ∈ samples ∧ fields.lookup key = some v := by
  simp [atKey, mem_mappings]

theorem atKey_append (xs ys : List Value) (key : String) :
    atKey (xs ++ ys) key = atKey xs key ++ atKey ys key := by
  rw [atKey, mappings_append, List.filterMap_append, atKey, atKey]

theorem atKey_eq_nil {key : String} (h : ¬ HasKey samples key) : atKey samples key = [] := by
  rw [List.eq_nil_iff_forall_not_mem]
  intro v hv
  obtain ⟨fields, hf, hl⟩ := mem_atKey.mp hv
  exact h ⟨fields, mem_mappings.mpr hf, Entries.mem_keys_of_lookup_eq_some hl⟩

theorem atKey_ne_nil {key : String} (h : HasKey samples key) : atKey samples key ≠ [] := by
  obtain ⟨fields, hf, hk⟩ := h
  cases hl : fields.lookup key with
  | none => exact absurd hk (Entries.lookup_eq_none_iff_notMem.mp hl)
  | some v => exact List.ne_nil_of_mem (mem_atKey.mpr ⟨fields, mem_mappings.mp hf, hl⟩)

theorem hasKey_append {key : String} :
    HasKey (xs ++ ys) key ↔ HasKey xs key ∨ HasKey ys key := by
  simp [HasKey, mappings_append, or_and_right, exists_or]

theorem wellFormed_elements {samples : List Value} (h : ∀ v ∈ samples, v.WellFormed) :
    ∀ v ∈ elements samples, v.WellFormed := by
  intro v hv
  obtain ⟨items, hitems, hmem⟩ := mem_elements.mp hv
  exact Value.itemsWellFormed_iff.mp (h _ hitems) v hmem

theorem wellFormed_atKey {samples : List Value} (h : ∀ v ∈ samples, v.WellFormed) (key : String) :
    ∀ v ∈ atKey samples key, v.WellFormed := by
  intro v hv
  obtain ⟨fields, hfields, hl⟩ := mem_atKey.mp hv
  exact Value.fieldsWellFormed_iff.mp (h _ hfields).2 (key, v) (Entries.mem_of_lookup_eq_some hl)

end Samples

/-! ### Summaries -/

namespace Shape

open Samples

mutual
/-- The shape records exactly what occurs in the samples. -/
def Summarizes : Shape → List Value → Prop
  | .mk k i r, samples =>
    k = scalarKinds samples ∧ ItemsSummarize i samples ∧ RecordSummarizes r samples
termination_by structural s => s

/-- Elements are recorded exactly when there are arrays. -/
def ItemsSummarize : Option Shape → List Value → Prop
  | none, samples => has samples .sequence = false
  | some e, samples => has samples .sequence = true ∧ e.Summarizes (elements samples)
termination_by structural i => i

/-- Mappings are recorded exactly when there are some, with their number and all their keys. -/
def RecordSummarizes : Option (RecordShape Shape) → List Value → Prop
  | none, samples => has samples .mapping = false
  | some ⟨seen, fields⟩, samples =>
    has samples .mapping = true ∧ seen = (mappings samples).length ∧
      (Entries.keys fields).Nodup ∧ (∀ k, k ∈ Entries.keys fields ↔ HasKey samples k) ∧
      FieldsSummarize fields samples
termination_by structural r => r

/-- Each field is recorded with the number of mappings that have it and with all its values. -/
def FieldsSummarize : List (String × FieldShape Shape) → List Value → Prop
  | [], _ => True
  | (k, ⟨presentIn, s⟩) :: rest, samples =>
    (presentIn = (atKey samples k).length ∧ s.Summarizes (atKey samples k)) ∧
      FieldsSummarize rest samples
termination_by structural fields => fields
end

theorem fieldsSummarize_iff {fields : List (String × FieldShape Shape)} {samples : List Value} :
    FieldsSummarize fields samples ↔ ∀ k f, (k, f) ∈ fields →
      f.presentIn = (atKey samples k).length ∧ f.shape.Summarizes (atKey samples k) := by
  induction fields with
  | nil => simp [FieldsSummarize]
  | cons e rest ih =>
    obtain ⟨k, presentIn, s⟩ := e
    rw [FieldsSummarize, ih]
    constructor
    · rintro ⟨hhead, hrest⟩ k' f hf
      rcases List.mem_cons.mp hf with h | h
      · cases h
        exact hhead
      · exact hrest k' f h
    · intro h
      exact ⟨h k ⟨presentIn, s⟩ List.mem_cons_self,
        fun k' f hf => h k' f (List.mem_cons_of_mem _ hf)⟩

theorem summarizes_bottom : bottom.Summarizes [] :=
  ⟨rfl, rfl, rfl⟩

/-! ### Joined shapes -/

/-- The fields of two records: those of the first with what the second adds to them, then the new
ones of the second. -/
def joinedFields (fs gs : List (String × FieldShape Shape)) : List (String × FieldShape Shape) :=
  joinFields fs gs ++ gs.filter fun g => !Entries.contains fs g.1

theorem joinRecords_some (n m : Nat) (fs gs : List (String × FieldShape Shape)) :
    joinRecords (some ⟨n, fs⟩) (some ⟨m, gs⟩) = some ⟨n + m, joinedFields fs gs⟩ := rfl

theorem keys_joinFields (fs gs : List (String × FieldShape Shape)) :
    Entries.keys (joinFields fs gs) = Entries.keys fs := by
  induction fs with
  | nil => rfl
  | cons e rest ih =>
    obtain ⟨k, n, s⟩ := e
    rw [joinFields, Entries.keys_cons, Entries.keys_cons, ih]
    cases gs.lookup k <;> rfl

/-- The fields that only the second record has. -/
theorem mem_keys_filter_new {fs gs : List (String × FieldShape Shape)} {k : String} :
    k ∈ Entries.keys (gs.filter fun g => !Entries.contains fs g.1) ↔
      k ∈ Entries.keys gs ∧ k ∉ Entries.keys fs := by
  simp only [Entries.mem_keys_iff, List.mem_filter, Bool.not_eq_true', ← Bool.not_eq_true,
    Entries.contains_iff, exists_and_right]

theorem nodup_keys_joined {fs gs : List (String × FieldShape Shape)}
    (hf : (Entries.keys fs).Nodup) (hg : (Entries.keys gs).Nodup) :
    (Entries.keys (joinedFields fs gs)).Nodup := by
  rw [joinedFields, Entries.keys_append, keys_joinFields, List.nodup_append]
  refine ⟨hf, hg.sublist ((List.filter_sublist).map _), ?_⟩
  rintro k hk k' hk' rfl
  exact (mem_keys_filter_new.mp hk').2 hk

/-- Joined records have the keys of both. -/
theorem mem_keys_joined {fs gs : List (String × FieldShape Shape)} {k : String} :
    k ∈ Entries.keys (joinedFields fs gs) ↔ k ∈ Entries.keys fs ∨ k ∈ Entries.keys gs := by
  rw [joinedFields, Entries.keys_append, keys_joinFields, List.mem_append, mem_keys_filter_new]
  constructor
  · rintro (h | ⟨h, -⟩)
    · exact .inl h
    · exact .inr h
  · intro h
    by_cases hk : k ∈ Entries.keys fs
    · exact .inl hk
    · exact .inr ⟨h.resolve_left hk, hk⟩

mutual
/-- Joined shapes summarize the samples of both sides. -/
theorem summarizes_join : ∀ (a b : Shape) {xs ys : List Value}, a.Summarizes xs →
    b.Summarizes ys → (a.join b).Summarizes (xs ++ ys)
  | .mk k i r, .mk k' i' r', xs, ys, ⟨hk, hi, hr⟩, ⟨hk', hi', hr'⟩ => by
    rw [join]
    refine ⟨?_, itemsSummarize_join i i' hi hi', recordSummarizes_join r r' hr hr'⟩
    rw [scalarKinds_append, hk, hk']

theorem itemsSummarize_join : ∀ (i i' : Option Shape) {xs ys : List Value},
    ItemsSummarize i xs → ItemsSummarize i' ys →
      ItemsSummarize (joinItems i i') (xs ++ ys)
  | none, none, xs, ys, h, h' => by
    simp only [joinItems, ItemsSummarize] at *
    rw [has_append, h, h']
    rfl
  | none, some b, xs, ys, h, h' => by
    simp only [joinItems, ItemsSummarize] at *
    rw [has_append, h, elements_append, elements_eq_nil h]
    exact h'
  | some a, none, xs, ys, h, h' => by
    simp only [joinItems, ItemsSummarize] at *
    rw [has_append, h', elements_append, elements_eq_nil h', Bool.or_false, List.append_nil]
    exact h
  | some a, some b, xs, ys, h, h' => by
    simp only [joinItems, ItemsSummarize] at *
    rw [has_append, h.1, elements_append]
    exact ⟨rfl, summarizes_join a b h.2 h'.2⟩

theorem recordSummarizes_join : ∀ (r r' : Option (RecordShape Shape)) {xs ys : List Value},
    RecordSummarizes r xs → RecordSummarizes r' ys →
      RecordSummarizes (joinRecords r r') (xs ++ ys)
  | none, none, xs, ys, h, h' => by
    simp only [joinRecords, RecordSummarizes] at *
    rw [has_append, h, h']
    rfl
  | none, some ⟨m, gs⟩, xs, ys, h, h' => by
    have hnil := mappings_eq_nil h
    simp only [joinRecords, RecordSummarizes, fieldsSummarize_iff, HasKey, atKey] at *
    rw [has_append, h, mappings_append, hnil]
    exact h'
  | some ⟨n, fs⟩, none, xs, ys, h, h' => by
    have hnil := mappings_eq_nil h'
    simp only [joinRecords, RecordSummarizes, fieldsSummarize_iff, HasKey, atKey] at *
    rw [has_append, h', mappings_append, hnil, Bool.or_false, List.append_nil]
    exact h
  | some ⟨n, fs⟩, some ⟨m, gs⟩, xs, ys, ⟨hx, hn, hfn, hfk, hf⟩, ⟨hy, hm, hgn, hgk, hg⟩ => by
    rw [joinRecords_some]
    refine ⟨by rw [has_append, hx]; rfl, by rw [mappings_append, List.length_append, hn, hm],
      ?_, ?_, ?_⟩
    · exact nodup_keys_joined hfn hgn
    · intro k
      rw [mem_keys_joined, hasKey_append, hfk, hgk]
    · have hold := fieldsSummarize_join fs gs hf hg fun k => (hgk k).mpr
      rw [fieldsSummarize_iff] at *
      intro k f hmem
      rcases List.mem_append.mp hmem with h | h
      · exact hold k f h
      · -- A field that the first side lacks has no values there.
        have hnew : ¬ HasKey xs k := by
          rw [← hfk]
          exact (mem_keys_filter_new.mp (Entries.mem_keys_iff.mpr ⟨f, h⟩)).2
        rw [atKey_append, atKey_eq_nil hnew]
        exact hg k f (List.mem_filter.mp h).1

theorem fieldsSummarize_join : ∀ (fs gs : List (String × FieldShape Shape)) {xs ys : List Value},
    FieldsSummarize fs xs → FieldsSummarize gs ys →
      (∀ k, HasKey ys k → k ∈ Entries.keys gs) → FieldsSummarize (joinFields fs gs) (xs ++ ys)
  | [], _, _, _, _, _, _ => trivial
  | (k, ⟨n, s⟩) :: rest, gs, xs, ys, ⟨⟨hn, hs⟩, hrest⟩, hg, hkeys => by
    rw [joinFields]
    have ih := fieldsSummarize_join rest gs hrest hg hkeys
    cases hl : gs.lookup k with
    | none =>
      have hlacks : ¬ HasKey ys k := fun h =>
        Entries.lookup_eq_none_iff_notMem.mp hl (hkeys k h)
      refine ⟨?_, ih⟩
      rw [atKey_append, atKey_eq_nil hlacks, List.append_nil]
      exact ⟨hn, hs⟩
    | some g =>
      obtain ⟨m, t⟩ := g
      obtain ⟨hm, ht⟩ := fieldsSummarize_iff.mp hg k _ (Entries.mem_of_lookup_eq_some hl)
      dsimp only at hm ht
      refine ⟨⟨?_, ?_⟩, ih⟩
      · rw [atKey_append, List.length_append, hn, hm]
      · rw [atKey_append]
        exact summarizes_join s t hs ht
end

/-! ### Observed shapes -/

mutual
/-- A sample is summarized by its shape. -/
theorem summarizes_observe : ∀ (v : Value), v.WellFormed → (observe v).Summarizes [v]
  | .null, _ => ⟨rfl, rfl, rfl⟩
  | .bool _, _ => ⟨rfl, rfl, rfl⟩
  | .number (.integer _), _ => ⟨rfl, rfl, rfl⟩
  | .number (.large _), _ => ⟨rfl, rfl, rfl⟩
  | .number (.float _), _ => ⟨rfl, rfl, rfl⟩
  | .string _, _ => ⟨rfl, rfl, rfl⟩
  | .array items, h => by
    rw [observe]
    refine ⟨rfl, ⟨rfl, ?_⟩, rfl⟩
    have helements : elements [.array items] = [] ++ items := by simp [elements]
    rw [helements]
    exact summarizes_foldl_observeItems items h summarizes_bottom
  | .object fields, ⟨hn, hf⟩ => by
    have hkeys : Entries.keys (observeFields fields) = Entries.keys fields := by
      rw [observeFields_eq_map, Entries.keys, List.map_map]
      rfl
    rw [observe]
    refine ⟨rfl, rfl, rfl, rfl, by rw [hkeys]; exact hn, ?_, ?_⟩
    · intro k
      rw [hkeys]
      simp [HasKey, mappings]
    · refine fieldsSummarize_observeFields fields hf fun k v hkv => ?_
      simp [atKey, mappings, Entries.lookup_of_mem hn hkv]

theorem summarizes_foldl_observeItems : ∀ (items : List Value), Value.ItemsWellFormed items →
    ∀ {s : Shape} {xs : List Value}, s.Summarizes xs →
      ((observeItems items).foldl join s).Summarizes (xs ++ items)
  | [], _, s, xs, hs => by
    rw [List.append_nil]
    exact hs
  | v :: rest, ⟨hv, hrest⟩, s, xs, hs => by
    have hstep := summarizes_join s (observe v) hs (summarizes_observe v hv)
    rw [List.append_cons]
    exact summarizes_foldl_observeItems rest hrest hstep

theorem fieldsSummarize_observeFields {samples : List Value} :
    ∀ (fields : List (String × Value)), Value.FieldsWellFormed fields →
      (∀ k v, (k, v) ∈ fields → atKey samples k = [v]) →
        FieldsSummarize (observeFields fields) samples
  | [], _, _ => trivial
  | (k, v) :: rest, ⟨hv, hrest⟩, hat => by
    refine ⟨?_, fieldsSummarize_observeFields rest hrest fun k' v' h =>
      hat k' v' (List.mem_cons_of_mem _ h)⟩
    rw [hat k v List.mem_cons_self]
    exact ⟨rfl, summarizes_observe v hv⟩
end

/-- What was seen after more samples summarizes them too. -/
theorem summarizes_observeAll {i : Inference} {seen samples : List Value}
    (hi : i.shape.Summarizes seen) (h : ∀ v ∈ samples, v.WellFormed) :
    (i.observeAll samples).shape.Summarizes (seen ++ samples) := by
  induction samples generalizing i seen with
  | nil =>
    rw [List.append_nil]
    exact hi
  | cons v rest ih =>
    rw [List.forall_mem_cons] at h
    have hstep : (i.observe v).shape.Summarizes (seen ++ [v]) :=
      summarizes_join i.shape (observe v) hi (summarizes_observe v h.1)
    rw [List.append_cons]
    exact ih hstep h.2

/-- The state of an inference summarizes the samples that it was fed. -/
theorem summarizes_observeAll_start {samples : List Value} (h : ∀ v ∈ samples, v.WellFormed) :
    (Inference.start.observeAll samples).shape.Summarizes samples :=
  summarizes_observeAll (i := Inference.start) summarizes_bottom h

end Shape

/-! ### Counts -/

mutual
/-- How many mappings there are in a document, at all depths. -/
def Value.mappingCount : Value → Nat
  | .array items => itemsMappingCount items
  | .object fields => 1 + fieldsMappingCount fields
  | _ => 0
termination_by structural v => v

def itemsMappingCount : List Value → Nat
  | [] => 0
  | v :: rest => v.mappingCount + itemsMappingCount rest
termination_by structural items => items

def fieldsMappingCount : List (String × Value) → Nat
  | [] => 0
  | (_, v) :: rest => v.mappingCount + fieldsMappingCount rest
termination_by structural fields => fields
end

theorem itemsMappingCount_append (xs ys : List Value) :
    itemsMappingCount (xs ++ ys) = itemsMappingCount xs + itemsMappingCount ys := by
  induction xs with
  | nil => simp [itemsMappingCount]
  | cons v rest ih => simp [itemsMappingCount, ih, Nat.add_assoc]

theorem mappingCount_le_of_lookup {fields : List (String × Value)} {key : String} {v : Value}
    (h : fields.lookup key = some v) : v.mappingCount ≤ fieldsMappingCount fields := by
  induction fields with
  | nil => cases h
  | cons e rest ih =>
    rw [Entries.lookup_cons] at h
    rw [fieldsMappingCount]
    split at h
    · cases h
      omega
    · have := ih h
      omega

namespace Samples

theorem mappings_cons (v : Value) (rest : List Value) :
    mappings (v :: rest) = mappings [v] ++ mappings rest :=
  mappings_append [v] rest

theorem length_mappings_le (samples : List Value) :
    (mappings samples).length ≤ itemsMappingCount samples := by
  induction samples with
  | nil => exact Nat.le_refl _
  | cons v rest ih =>
    rw [mappings_cons, List.length_append, itemsMappingCount]
    have hv : (mappings [v]).length ≤ v.mappingCount := by
      cases v <;> simp [mappings, Value.mappingCount]
    omega

theorem itemsMappingCount_elements_le (samples : List Value) :
    itemsMappingCount (elements samples) ≤ itemsMappingCount samples := by
  induction samples with
  | nil => exact Nat.le_refl _
  | cons v rest ih =>
    have hsplit : elements (v :: rest) = elements [v] ++ elements rest :=
      elements_append [v] rest
    rw [hsplit, itemsMappingCount_append, itemsMappingCount]
    have hv : itemsMappingCount (elements [v]) ≤ v.mappingCount := by
      cases v <;> simp [elements, itemsMappingCount, Value.mappingCount]
    omega

theorem itemsMappingCount_atKey_le (samples : List Value) (key : String) :
    itemsMappingCount (atKey samples key) ≤ itemsMappingCount samples := by
  induction samples with
  | nil => exact Nat.le_refl _
  | cons v rest ih =>
    have hsplit : atKey (v :: rest) key = atKey [v] key ++ atKey rest key :=
      atKey_append [v] rest key
    rw [hsplit, itemsMappingCount_append, itemsMappingCount]
    have hv : itemsMappingCount (atKey [v] key) ≤ v.mappingCount := by
      cases v with
      | object fields =>
        cases hl : fields.lookup key with
        | none => simp [atKey, mappings, hl, itemsMappingCount]
        | some x =>
          have hx := mappingCount_le_of_lookup hl
          simp [atKey, mappings, hl, itemsMappingCount, Value.mappingCount]
          omega
      | _ => simp [atKey, mappings, itemsMappingCount]
    omega

end Samples

namespace Shape

open Samples

mutual
/-- No count in the shape exceeds `n`. -/
def CountsWithin (n : Nat) : Shape → Prop
  | .mk _ i r => ItemsCountsWithin n i ∧ RecordCountsWithin n r
termination_by structural s => s

def ItemsCountsWithin (n : Nat) : Option Shape → Prop
  | none => True
  | some e => e.CountsWithin n
termination_by structural i => i

def RecordCountsWithin (n : Nat) : Option (RecordShape Shape) → Prop
  | none => True
  | some ⟨seen, fields⟩ => seen ≤ n ∧ FieldsCountsWithin n fields
termination_by structural r => r

def FieldsCountsWithin (n : Nat) : List (String × FieldShape Shape) → Prop
  | [] => True
  | (_, ⟨presentIn, s⟩) :: rest =>
    (presentIn ≤ n ∧ s.CountsWithin n) ∧ FieldsCountsWithin n rest
termination_by structural fields => fields
end

mutual
/-- No count exceeds the number of mappings in the samples, so counts fit a word where that number
does. -/
theorem countsWithin_of_summarizes {n : Nat} : ∀ (s : Shape) {samples : List Value},
    s.Summarizes samples → itemsMappingCount samples ≤ n → s.CountsWithin n
  | .mk _ i r, _, ⟨_, hi, hr⟩, hn =>
    ⟨itemsCountsWithin_of_summarize i hi hn, recordCountsWithin_of_summarize r hr hn⟩

theorem itemsCountsWithin_of_summarize {n : Nat} : ∀ (i : Option Shape) {samples : List Value},
    ItemsSummarize i samples → itemsMappingCount samples ≤ n → ItemsCountsWithin n i
  | none, _, _, _ => trivial
  | some e, samples, ⟨_, he⟩, hn =>
    countsWithin_of_summarizes e he
      (Nat.le_trans (itemsMappingCount_elements_le samples) hn)

theorem recordCountsWithin_of_summarize {n : Nat} :
    ∀ (r : Option (RecordShape Shape)) {samples : List Value},
      RecordSummarizes r samples → itemsMappingCount samples ≤ n → RecordCountsWithin n r
  | none, _, _, _ => trivial
  | some ⟨seen, fields⟩, samples, ⟨_, hseen, _, _, hf⟩, hn => by
    have hlen := length_mappings_le samples
    exact ⟨by omega, fieldsCountsWithin_of_summarize fields hf hn⟩

theorem fieldsCountsWithin_of_summarize {n : Nat} :
    ∀ (fields : List (String × FieldShape Shape)) {samples : List Value},
      FieldsSummarize fields samples → itemsMappingCount samples ≤ n →
        FieldsCountsWithin n fields
  | [], _, _, _ => trivial
  | (k, ⟨presentIn, s⟩) :: rest, samples, ⟨⟨hp, hs⟩, hrest⟩, hn => by
    have hcount := itemsMappingCount_atKey_le samples k
    have hlen : (atKey samples k).length ≤ (mappings samples).length :=
      List.length_filterMap_le _ _
    have hmappings := length_mappings_le samples
    exact ⟨⟨by omega, countsWithin_of_summarizes s hs (by omega)⟩,
      fieldsCountsWithin_of_summarize rest hrest hn⟩
end

end Shape
end DocShape
