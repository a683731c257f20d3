import DocShape.Proofs.JoinLaws
import DocShape.Proofs.ShapeTree

/-!
The state of an inference without its history.

An inference joins the shape of each sample to what it has. `Samples.summary` looks at all samples
at once instead: it groups nodes by their position and counts. Both come to the same.

* `summary_append`: samples in two parts are summarized by the join of both summaries.
* `summary_singleton`: one sample is summarized by its shape.
* `observeAll_eq_summary`: after any samples, the state is their summary and their number, and at
  each node no field is counted less than once or more often than the records.

Fields stand in the order in which their keys occur first, on both sides.
-/

namespace DocShape

/-! ### First occurrences -/

/-- A filter neither makes an occurrence the first nor moves it. -/
theorem eraseDups_filter {α : Type} [BEq α] [LawfulBEq α] (p : α → Bool) (l : List α) :
    (l.filter p).eraseDups = l.eraseDups.filter p := by
  cases l with
  | nil => rfl
  | cons a rest =>
    have ih := eraseDups_filter p (rest.filter fun b => !b == a)
    rw [List.eraseDups_cons, List.filter_cons, List.filter_cons]
    by_cases ha : p a
    · rw [if_pos ha, if_pos ha, List.eraseDups_cons, ← ih, List.filter_filter, List.filter_filter]
      simp only [Bool.and_comm]
    · -- Where `a` is dropped, so are its further occurrences.
      have hdrop : rest.filter p = (rest.filter fun b => !b == a).filter p := by
        rw [List.filter_filter]
        apply List.filter_congr
        intro b _
        by_cases hb : b = a
        · simp [hb, ha]
        · simp [hb]
      rw [if_neg ha, if_neg ha, hdrop, ih]
termination_by l.length
decreasing_by
  exact Nat.lt_succ_of_le (List.length_filter_le _ _)

theorem eraseDups_of_nodup {α : Type} [BEq α] [LawfulBEq α] {l : List α} (h : l.Nodup) :
    l.eraseDups = l := by
  induction l with
  | nil => rfl
  | cons a rest ih =>
    rw [List.nodup_cons] at h
    have hrest : (rest.filter fun b => !b == a) = rest := by
      apply List.filter_eq_self.mpr
      intro b hb
      have hne : b ≠ a := by
        rintro rfl
        exact h.1 hb
      simp [hne]
    rw [List.eraseDups_cons, hrest, ih h.2]

/-! ### Heights -/

namespace Value

mutual
/-- How deep containers are nested. -/
def height : Value → Nat
  | .array items => itemsHeight items
  | .object fields => fieldsHeight fields
  | _ => 0
termination_by structural v => v

def itemsHeight : List Value → Nat
  | [] => 0
  | v :: rest => max (v.height + 1) (itemsHeight rest)
termination_by structural items => items

def fieldsHeight : List (String × Value) → Nat
  | [] => 0
  | (_, v) :: rest => max (v.height + 1) (fieldsHeight rest)
termination_by structural fields => fields
end

theorem itemsHeight_le_iff {items : List Value} {n : Nat} :
    itemsHeight items ≤ n ↔ ∀ v ∈ items, v.height < n := by
  induction items with
  | nil => simp [itemsHeight]
  | cons v rest ih => rw [itemsHeight, Nat.max_le, ih, List.forall_mem_cons, Nat.succ_le_iff]

theorem fieldsHeight_le_iff {fields : List (String × Value)} {n : Nat} :
    fieldsHeight fields ≤ n ↔ ∀ e ∈ fields, e.2.height < n := by
  induction fields with
  | nil => simp [fieldsHeight]
  | cons e rest ih => rw [fieldsHeight, Nat.max_le, ih, List.forall_mem_cons, Nat.succ_le_iff]

end Value

namespace Samples

open Value (itemsHeight itemsHeight_le_iff fieldsHeight_le_iff)

variable {samples xs ys : List Value} {key : String}

/-- Nodes that are inside of some are nested less deep. -/
theorem itemsHeight_lt (hne : samples ≠ []) (h : ∀ x ∈ xs, ∃ v ∈ samples, x.height < v.height) :
    itemsHeight xs < itemsHeight samples := by
  have hle : ∀ v ∈ samples, v.height < itemsHeight samples :=
    itemsHeight_le_iff.mp (Nat.le_refl _)
  obtain ⟨v₀, hv₀⟩ := List.exists_mem_of_ne_nil samples hne
  have hpos := hle v₀ hv₀
  have hxs : itemsHeight xs ≤ itemsHeight samples - 1 := by
    apply itemsHeight_le_iff.mpr
    intro x hx
    obtain ⟨v, hv, hlt⟩ := h x hx
    have hv := hle v hv
    omega
  omega

theorem itemsHeight_elements_lt (h : has samples .sequence) :
    itemsHeight (elements samples) < itemsHeight samples := by
  obtain ⟨v, hv, -⟩ := has_iff.mp h
  apply itemsHeight_lt (List.ne_nil_of_mem hv)
  intro x hx
  obtain ⟨items, hitems, hmem⟩ := mem_elements.mp hx
  exact ⟨_, hitems, itemsHeight_le_iff.mp (Nat.le_refl _) x hmem⟩

theorem itemsHeight_atKey_lt (h : HasKey samples key) :
    itemsHeight (atKey samples key) < itemsHeight samples := by
  obtain ⟨fields, hfields, -⟩ := h
  apply itemsHeight_lt (List.ne_nil_of_mem (mem_mappings.mp hfields))
  intro x hx
  obtain ⟨fields, hfields, hfound⟩ := mem_atKey.mp hx
  exact ⟨_, hfields,
    fieldsHeight_le_iff.mp (Nat.le_refl _) (key, x) (Entries.mem_of_lookup_eq_some hfound)⟩

/-! ### Summaries of all samples at once -/

/-- The keys of all mappings, each where it occurs first. -/
def allKeys (samples : List Value) : List String :=
  ((mappings samples).flatMap Entries.keys).eraseDups

theorem mem_allKeys : key ∈ allKeys samples ↔ HasKey samples key := by
  rw [allKeys, List.mem_eraseDups, List.mem_flatMap]
  rfl

theorem allKeys_eq_nil (h : has samples .mapping = false) : allKeys samples = [] := by
  rw [allKeys, mappings_eq_nil h]
  rfl

/-- Of the keys of further samples, those that are new come after. -/
theorem allKeys_append (xs ys : List Value) :
    allKeys (xs ++ ys) = allKeys xs ++ (allKeys ys).filter fun k => !(allKeys xs).contains k := by
  rw [allKeys, mappings_append, List.flatMap_append, List.eraseDups_append, List.removeAll,
    eraseDups_filter]
  congr 1
  apply List.filter_congr
  intro k _
  simp [allKeys]

/-- What all samples together show: the scalar kinds that occur; the summary of all elements, where
there are arrays; where there are mappings, how many, and for each of their keys how many have it
and the summary of its values. -/
def summary (samples : List Value) : Shape :=
  .mk (scalarKinds samples)
    (if has samples .sequence then some (summary (elements samples)) else none)
    (if has samples .mapping then
      some ⟨(mappings samples).length, (allKeys samples).attach.map fun ⟨k, _⟩ =>
        (k, ⟨(atKey samples k).length, summary (atKey samples k)⟩)⟩
    else none)
termination_by itemsHeight samples
decreasing_by
  · exact itemsHeight_elements_lt ‹_›
  · exact itemsHeight_atKey_lt (mem_allKeys.mp ‹_›)

/-- What samples show in arrays, if there are some. -/
def itemsSummary (samples : List Value) : Option Shape :=
  if has samples .sequence then some (summary (elements samples)) else none

/-- What samples show under a key. -/
def fieldSummary (samples : List Value) (key : String) : FieldShape Shape :=
  ⟨(atKey samples key).length, summary (atKey samples key)⟩

/-- What samples show in mappings, if there are some. -/
def recordSummary (samples : List Value) : Option (RecordShape Shape) :=
  if has samples .mapping then
    some ⟨(mappings samples).length, (allKeys samples).map fun k => (k, fieldSummary samples k)⟩
  else none

theorem summary_eq (samples : List Value) :
    summary samples =
      .mk (scalarKinds samples) (itemsSummary samples) (recordSummary samples) := by
  rw [summary, itemsSummary, recordSummary]
  congr 4
  exact List.attach_map_val (f := fun k => (k, fieldSummary samples k))

theorem summary_nil : summary [] = .bottom := by
  rw [summary_eq]
  rfl

/-! ### Two parts

That summaries are joined is shown of samples given that it is so of what is inside of them. -/

/-- Whether the summary of two parts together is the join of theirs. -/
def PartsJoin (xs ys : List Value) : Prop :=
  summary (xs ++ ys) = (summary xs).join (summary ys)

theorem joinItems_itemsSummary
    (h : has (xs ++ ys) .sequence → PartsJoin (elements xs) (elements ys)) :
    Shape.joinItems (itemsSummary xs) (itemsSummary ys) = itemsSummary (xs ++ ys) := by
  rw [itemsSummary, itemsSummary, itemsSummary, elements_append]
  rw [has_append] at h ⊢
  cases hx : has xs .sequence with
  | false =>
    rw [elements_eq_nil hx]
    rfl
  | true =>
    cases hy : has ys .sequence with
    | false =>
      rw [elements_eq_nil hy, List.append_nil]
      rfl
    | true =>
      have hinside : PartsJoin (elements xs) (elements ys) := h (by rw [hx, Bool.true_or])
      rw [PartsJoin] at hinside
      rw [hinside]
      rfl

/-- What the second part shows under a key is joined to what the first shows, if it has the key. -/
theorem joinFound_fieldSummary (h : PartsJoin (atKey xs key) (atKey ys key)) :
    (fieldSummary xs key).joinFound
        (if key ∈ allKeys ys then some (fieldSummary ys key) else none) =
      fieldSummary (xs ++ ys) key := by
  rw [PartsJoin] at h
  rw [fieldSummary, fieldSummary, fieldSummary, atKey_append, h]
  split
  · rw [FieldShape.joinFound, List.length_append]
  · rename_i hk
    rw [mem_allKeys] at hk
    rw [FieldShape.joinFound, atKey_eq_nil hk, summary_nil, Shape.join_bottom, List.append_nil]

theorem fieldSummary_of_not_hasKey (h : ¬ HasKey xs key) :
    fieldSummary (xs ++ ys) key = fieldSummary ys key := by
  rw [fieldSummary, atKey_append, atKey_eq_nil h, List.nil_append, fieldSummary]

theorem joinedFields_fieldSummary
    (h : ∀ k, HasKey (xs ++ ys) k → PartsJoin (atKey xs k) (atKey ys k)) :
    Shape.joinedFields ((allKeys xs).map fun k => (k, fieldSummary xs k))
        ((allKeys ys).map fun k => (k, fieldSummary ys k)) =
      (allKeys (xs ++ ys)).map fun k => (k, fieldSummary (xs ++ ys) k) := by
  have hold : ∀ k ∈ allKeys xs, (fieldSummary xs k).joinFound
      (if k ∈ allKeys ys then some (fieldSummary ys k) else none) = fieldSummary (xs ++ ys) k := by
    intro k hk
    exact joinFound_fieldSummary (h k (hasKey_append.mpr (.inl (mem_allKeys.mp hk))))
  have hnew : ∀ k ∈ (allKeys ys).filter fun k => !(allKeys xs).contains k,
      fieldSummary ys k = fieldSummary (xs ++ ys) k := by
    intro k hk
    have hlacks : ¬ HasKey xs k := by
      rw [← mem_allKeys]
      simpa using (List.mem_filter.mp hk).2
    exact (fieldSummary_of_not_hasKey hlacks).symm
  rw [Shape.joinedFields, Shape.joinFields_eq_map, allKeys_append, List.map_append]
  congr 1
  · rw [List.map_map]
    apply List.map_congr_left
    intro k hk
    simp only [Function.comp, Entries.lookup_ofKeys, hold k hk]
  · rw [List.filter_map]
    simp only [Function.comp_def, Entries.contains_ofKeys]
    apply List.map_congr_left
    intro k hk
    rw [hnew k hk]

theorem joinRecords_recordSummary
    (h : ∀ k, HasKey (xs ++ ys) k → PartsJoin (atKey xs k) (atKey ys k)) :
    Shape.joinRecords (recordSummary xs) (recordSummary ys) = recordSummary (xs ++ ys) := by
  rw [recordSummary, recordSummary, recordSummary, mappings_append, List.length_append,
    ← joinedFields_fieldSummary h, has_append]
  cases hx : has xs .mapping with
  | false =>
    rw [mappings_eq_nil hx, allKeys_eq_nil hx, List.map_nil, Shape.nil_joinedFields,
      List.length_nil, Nat.zero_add]
    rfl
  | true =>
    cases hy : has ys .mapping with
    | false =>
      rw [mappings_eq_nil hy, allKeys_eq_nil hy, List.map_nil, Shape.joinedFields_nil]
      rfl
    | true => rfl

/-- Samples in two parts are summarized by the join of both summaries. -/
theorem summary_append (xs ys : List Value) :
    summary (xs ++ ys) = (summary xs).join (summary ys) := by
  have hitems : has (xs ++ ys) .sequence → PartsJoin (elements xs) (elements ys) := by
    intro h
    exact summary_append (elements xs) (elements ys)
  have hfields : ∀ k, HasKey (xs ++ ys) k → PartsJoin (atKey xs k) (atKey ys k) := by
    intro k h
    exact summary_append (atKey xs k) (atKey ys k)
  rw [summary_eq, summary_eq xs, summary_eq ys, Shape.join, scalarKinds_append,
    joinItems_itemsSummary hitems, joinRecords_recordSummary hfields]
termination_by itemsHeight (xs ++ ys)
decreasing_by
  · rw [← elements_append]
    exact itemsHeight_elements_lt h
  · rw [← atKey_append]
    exact itemsHeight_atKey_lt h

/-! ### One sample -/

/-- Samples that are each summarized by their shape are so together. -/
theorem summary_eq_joinAll (h : ∀ v ∈ samples, summary [v] = Shape.observe v) :
    summary samples = Shape.joinAll (samples.map Shape.observe) := by
  induction samples with
  | nil => exact summary_nil
  | cons v rest ih =>
    rw [List.forall_mem_cons] at h
    rw [← List.singleton_append, summary_append, h.1, ih h.2, List.map_append, List.map_singleton,
      List.singleton_append, Shape.joinAll_cons]

theorem recordSummary_singleton {fields : List (String × Value)} (hn : (Entries.keys fields).Nodup)
    (h : ∀ e ∈ fields, summary [e.2] = Shape.observe e.2) :
    recordSummary [.object fields] = some ⟨1, Shape.observeFields fields⟩ := by
  have hkeys : allKeys [.object fields] = Entries.keys fields := by
    rw [← eraseDups_of_nodup hn]
    simp [allKeys, mappings]
  have hfields : ∀ e ∈ fields,
      fieldSummary [.object fields] e.1 = ⟨1, Shape.observe e.2⟩ := by
    intro e he
    have hat : atKey [.object fields] e.1 = [e.2] := by
      simp [atKey, mappings, Entries.lookup_of_mem hn he]
    rw [fieldSummary, hat, h e he]
    rfl
  have hmap : (Entries.keys fields).map (fun k => (k, fieldSummary [.object fields] k)) =
      Shape.observeFields fields := by
    rw [Shape.observeFields_eq_map, Entries.keys, List.map_map]
    apply List.map_congr_left
    intro e he
    rw [Function.comp, hfields e he]
  rw [recordSummary, hkeys, hmap]
  rfl

/-- One sample is summarized by its shape. -/
theorem summary_singleton {v : Value} (h : v.WellFormed) : summary [v] = Shape.observe v := by
  induction v using Value.induct with
  | scalar v harray hobject =>
    rw [summary_eq]
    cases v with
    | number n => cases n <;> rfl
    | array items => exact absurd rfl (harray items)
    | object fields => exact absurd rfl (hobject fields)
    | _ => rfl
  | array items ih =>
    have hitems : ∀ x ∈ items, summary [x] = Shape.observe x := by
      intro x hx
      exact ih x hx (Value.itemsWellFormed_iff.mp h x hx)
    have helements : elements [.array items] = items := by
      simp [elements]
    have hsummary : itemsSummary [.array items] =
        some (Shape.joinAll (Shape.observeItems items)) := by
      rw [itemsSummary, helements, summary_eq_joinAll hitems, Shape.observeItems_eq_map]
      rfl
    rw [summary_eq, hsummary, Shape.observe]
    rfl
  | object fields ih =>
    obtain ⟨hn, hfields⟩ := h
    have hvalues : ∀ e ∈ fields, summary [e.2] = Shape.observe e.2 := by
      intro e he
      exact ih e he (Value.fieldsWellFormed_iff.mp hfields e he)
    rw [summary_eq, recordSummary_singleton hn hvalues, Shape.observe]
    rfl

end Samples

/-! ### Counts of fields -/

namespace Shape

open Samples

/-- Whether each field was seen at least once, and no more often than there were records. -/
def CountsInRange (s : Shape) : Prop :=
  ∀ r ∈ s.record, ∀ e ∈ r.fields, 1 ≤ e.2.presentIn ∧ e.2.presentIn ≤ r.seen

theorem countsInRange_of_summarizes {s : Shape} {samples : List Value} (h : s.Summarizes samples) :
    s.CountsInRange := by
  obtain ⟨k, i, r⟩ := s
  obtain ⟨-, -, hr⟩ := h
  rintro ⟨seen, fields⟩ hrecord ⟨key, f⟩ he
  cases hrecord
  obtain ⟨-, rfl, -, hkeys, hfields⟩ := hr
  obtain ⟨hcount, -⟩ := fieldsSummarize_iff.mp hfields key f he
  have hkey : HasKey samples key := (hkeys key).mp (Entries.mem_keys_of_mem he)
  dsimp only
  rw [hcount]
  exact ⟨List.length_pos_iff.mpr (atKey_ne_nil hkey), List.length_filterMap_le _ _⟩

end Shape

/-- After any samples the state is their summary and their number, and at each node of it every
field is counted at least once and no more often than the records. -/
theorem observeAll_eq_summary {samples : List Value} (h : ∀ v ∈ samples, v.WellFormed) :
    Inference.start.observeAll samples = ⟨Samples.summary samples, samples.length⟩ ∧
      (Inference.start.observeAll samples).shape.EachNode Shape.CountsInRange := by
  constructor
  · have hone : ∀ v ∈ samples, Samples.summary [v] = Shape.observe v := by
      intro v hv
      exact Samples.summary_singleton (h v hv)
    rw [Shape.observeAll_eq, Samples.summary_eq_joinAll hone, Inference.start, Shape.bottom_join,
      Nat.zero_add]
  · exact Shape.eachNode_of_summarizes (fun _ _ hs => Shape.countsInRange_of_summarizes hs) _
      (Shape.summarizes_observeAll_start h)

/-- An array beside two records, one of which lacks a key. What is inside is grouped by key, and the
elements of all arrays that stand at one key are taken together. -/
theorem observeAll_eq_summary_array_and_records :
    Samples.summary
        [.array [.null],
          .object [("a", .array [.number (.integer 1), .null]), ("b", .string "x")],
          .object [("a", .array [.number (.float (.zero true))])]] =
      .mk {} (some (.mk { null := true } none none))
        (some ⟨2,
          [("a", ⟨2, .mk {} (some (.mk { null := true, integer := true, float := true } none none))
              none⟩),
            ("b", ⟨1, .mk { string := true } none none⟩)]⟩) := by
  have hsamples : ∀ v ∈ ([.array [.null],
      .object [("a", .array [.number (.integer 1), .null]), ("b", .string "x")],
      .object [("a", .array [.number (.float (.zero true))])]] : List Value), v.WellFormed := by
    simp [Value.WellFormed, Value.FieldsWellFormed, Value.ItemsWellFormed]
  exact congrArg Inference.shape (observeAll_eq_summary hsamples).1.symm

end DocShape
