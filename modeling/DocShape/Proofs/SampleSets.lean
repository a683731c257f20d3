import DocShape.Proofs.ValueEquality
import DocShape.Proofs.Widening

/-!
Samples as a set: the order of samples does not matter for what is inferred, nor does how often one
occurs, nor the order of keys within one.

The state of an inference depends on all of these: counts grow with every sample, and fields stand
in the order in which they were seen. What the schema accepts, and what it makes of it, is said of
the samples alone (`Samples.Accepts`, `Samples.widened`), and what is said there of a position
looks only at which documents stand at it.

* `Samples.SameValues`: two lists hold equal documents, as `Value.equals` has it; lists with the
  same members do (`sameValues_of_mem_iff`). It passes from samples to the elements of their arrays
  and to the values at a key.
* `accepts_congr`, `widened_congr`: such samples accept the same documents and widen them alike.
* `parse_ofSamples_of_sameValues`: the schemas of such samples accept the same documents and parse
  them to the same results.
-/

namespace DocShape

/-! ### Samples with the same values -/

namespace Samples

/-- Whether each sample of one list is equal to one of the other, and the other way round. -/
structure SameValues (xs ys : List Value) : Prop where
  left : ∀ v ∈ xs, ∃ w ∈ ys, v.equals w
  right : ∀ w ∈ ys, ∃ v ∈ xs, v.equals w

/-- Lists with the same members hold the same values, in whatever order and however often. -/
theorem sameValues_of_mem_iff {xs ys : List Value} (hx : ∀ v ∈ xs, v.WellFormed)
    (h : ∀ v, v ∈ xs ↔ v ∈ ys) : SameValues xs ys where
  left v hv := ⟨v, (h v).mp hv, Value.equals_self (hx v hv)⟩
  right v hv := ⟨v, (h v).mpr hv, Value.equals_self (hx v ((h v).mpr hv))⟩

section Congruence

variable {xs ys : List Value}

theorem SameValues.has_eq (h : SameValues xs ys) (t : Tag) : has xs t = has ys t := by
  rw [Bool.eq_iff_iff, has_iff, has_iff]
  constructor
  · rintro ⟨v, hv, rfl⟩
    obtain ⟨w, hw, hequal⟩ := h.left v hv
    exact ⟨w, hw, (Value.tag_of_equals hequal).symm⟩
  · rintro ⟨w, hw, rfl⟩
    obtain ⟨v, hv, hequal⟩ := h.right w hw
    exact ⟨v, hv, Value.tag_of_equals hequal⟩

theorem SameValues.showsOnly_iff (h : SameValues xs ys) {κ : Kind} :
    ShowsOnly xs κ ↔ ShowsOnly ys κ := by
  have hshows : ∀ κ, shows xs κ = shows ys κ := by
    intro κ
    cases κ <;> simp only [shows, h.has_eq]
  simp only [ShowsOnly, hshows]

theorem SameValues.elements (h : SameValues xs ys) :
    SameValues (Samples.elements xs) (Samples.elements ys) := by
  constructor
  · intro x hx
    obtain ⟨items, hitems, hmem⟩ := mem_elements.mp hx
    obtain ⟨w, hw, hequal⟩ := h.left _ hitems
    cases w with
    | array items' =>
      obtain ⟨y, hy, hxy⟩ := (exists_related_of_forall₂ (Value.itemsEqual_iff.mp hequal)).1 x hmem
      exact ⟨y, mem_elements.mpr ⟨items', hw, hy⟩, hxy⟩
    | _ => cases hequal
  · intro y hy
    obtain ⟨items, hitems, hmem⟩ := mem_elements.mp hy
    obtain ⟨v, hv, hequal⟩ := h.right _ hitems
    cases v with
    | array items' =>
      obtain ⟨x, hx, hxy⟩ := (exists_related_of_forall₂ (Value.itemsEqual_iff.mp hequal)).2 y hmem
      exact ⟨x, mem_elements.mpr ⟨items', hv, hx⟩, hxy⟩
    | number n => cases n <;> cases hequal
    | _ => cases hequal

/-- Each mapping on the left is equal to one on the right. -/
theorem SameValues.exists_right (h : SameValues xs ys) {fields : List (String × Value)}
    (hf : .object fields ∈ xs) :
    ∃ fields', .object fields' ∈ ys ∧ (Value.object fields).equals (.object fields') := by
  obtain ⟨w, hw, hequal⟩ := h.left _ hf
  cases w with
  | object fields' => exact ⟨fields', hw, hequal⟩
  | _ => cases hequal

theorem SameValues.exists_left (h : SameValues xs ys) {fields : List (String × Value)}
    (hf : .object fields ∈ ys) :
    ∃ fields', .object fields' ∈ xs ∧ (Value.object fields').equals (.object fields) := by
  obtain ⟨v, hv, hequal⟩ := h.right _ hf
  cases v with
  | object fields' => exact ⟨fields', hv, hequal⟩
  | number n => cases n <;> cases hequal
  | _ => cases hequal

variable (hx : ∀ v ∈ xs, v.WellFormed)

include hx

theorem SameValues.atKey (h : SameValues xs ys) (key : String) :
    SameValues (Samples.atKey xs key) (Samples.atKey ys key) := by
  constructor
  · intro x hmem
    obtain ⟨fields, hf, hl⟩ := mem_atKey.mp hmem
    obtain ⟨fields', hf', hequal⟩ := h.exists_right hf
    obtain ⟨y, hl', hxy⟩ := Value.exists_lookup_of_equals hequal hl
    exact ⟨y, mem_atKey.mpr ⟨fields', hf', hl'⟩, hxy⟩
  · intro y hmem
    obtain ⟨fields, hf, hl⟩ := mem_atKey.mp hmem
    obtain ⟨fields', hf', hequal⟩ := h.exists_left hf
    obtain ⟨x, hl', hxy⟩ := Value.exists_lookup_of_equals_right (hx _ hf').1 hequal hl
    exact ⟨x, mem_atKey.mpr ⟨fields', hf', hl'⟩, hxy⟩

/-- What equal mappings agree on occurs on both sides or on neither. -/
theorem SameValues.exists_mapping_iff (h : SameValues xs ys) {p : List (String × Value) → Prop}
    (hp : ∀ a b, (Entries.keys a).Nodup → (Value.object a).equals (.object b) → (p a ↔ p b)) :
    (∃ fields ∈ mappings xs, p fields) ↔ ∃ fields ∈ mappings ys, p fields := by
  simp only [mem_mappings]
  constructor
  · rintro ⟨fields, hf, hfields⟩
    obtain ⟨fields', hf', hequal⟩ := h.exists_right hf
    exact ⟨fields', hf', (hp _ _ (hx _ hf).1 hequal).mp hfields⟩
  · rintro ⟨fields, hf, hfields⟩
    obtain ⟨fields', hf', hequal⟩ := h.exists_left hf
    exact ⟨fields', hf', (hp _ _ (hx _ hf').1 hequal).mpr hfields⟩

theorem SameValues.hasKey_iff (h : SameValues xs ys) {key : String} :
    HasKey xs key ↔ HasKey ys key := by
  refine h.exists_mapping_iff hx ?_
  intro a b ha hequal
  exact Value.mem_keys_iff_of_equals ha hequal

theorem SameValues.lacks_iff (h : SameValues xs ys) {key : String} :
    Lacks xs key ↔ Lacks ys key := by
  refine h.exists_mapping_iff hx ?_
  intro a b ha hequal
  exact not_congr (Value.mem_keys_iff_of_equals ha hequal)

end Congruence

/-! ### Acceptance and widening -/

theorem clauses_congr {xs ys : List Value} (h : SameValues xs ys) {v : Value}
    (hinside : Inside Accepts xs v ↔ Inside Accepts ys v) :
    Clauses Accepts xs v ↔ Clauses Accepts ys v := by
  simp only [Clauses, h.showsOnly_iff, ← has_null_iff, h.has_eq, hinside]

/-- Samples with the same values accept the same documents. -/
theorem accepts_congr (v : Value) {xs ys : List Value} (hx : ∀ v ∈ xs, v.WellFormed)
    (h : SameValues xs ys) : Accepts xs v ↔ Accepts ys v := by
  induction v using Value.induct generalizing xs ys with
  | scalar v harray hobject =>
    rw [accepts_iff_clauses, accepts_iff_clauses]
    refine clauses_congr h ?_
    cases v with
    | number n => rw [Inside, Inside, h.has_eq]
    | array items => exact absurd rfl (harray items)
    | object fields => exact absurd rfl (hobject fields)
    | _ => exact Iff.rfl
  | array items ih =>
    rw [accepts_iff_clauses, accepts_iff_clauses]
    refine clauses_congr h ?_
    refine forall₂_congr fun x hmem => ?_
    exact ih x hmem (wellFormed_elements hx) h.elements
  | object fields ih =>
    rw [accepts_iff_clauses, accepts_iff_clauses]
    refine clauses_congr h ?_
    have hfound : ∀ key x, fields.lookup key = some x →
        (Accepts (Samples.atKey xs key) x ↔ Accepts (Samples.atKey ys key) x) := by
      intro key x hl
      exact ih (key, x) (Entries.mem_of_lookup_eq_some hl) (wellFormed_atKey hx key)
        (h.atKey hx key)
    simp only [Inside, h.hasKey_iff hx, h.lacks_iff hx]
    refine and_congr_right fun _ => forall₂_congr fun key _ => or_congr_right (or_congr_right ?_)
    exact exists_congr fun x => and_congr_right (hfound key x)

/-- Samples with the same values widen documents alike. -/
theorem widened_congr (v : Value) {xs ys : List Value} (hx : ∀ v ∈ xs, v.WellFormed)
    (h : SameValues xs ys) : widened xs v = widened ys v := by
  induction v using Value.induct generalizing xs ys with
  | scalar v harray hobject =>
    cases v with
    | number n => cases n <;> simp only [widened, h.showsOnly_iff, h.has_eq]
    | array items => exact absurd rfl (harray items)
    | object fields => exact absurd rfl (hobject fields)
    | _ => simp only [widened]
  | array items ih =>
    have hitems : items.map (widened (Samples.elements xs)) =
        items.map (widened (Samples.elements ys)) := by
      refine List.map_congr_left fun x hmem => ?_
      exact ih x hmem (wellFormed_elements hx) h.elements
    simp only [widened, h.showsOnly_iff, widenedItems_eq_map, hitems]
  | object fields ih =>
    have hfields : widenedFields xs fields = widenedFields ys fields := by
      rw [widenedFields_eq_map, widenedFields_eq_map]
      refine List.map_congr_left fun e hmem => ?_
      rw [ih e hmem (wellFormed_atKey hx e.1) (h.atKey hx e.1)]
    simp only [widened, h.showsOnly_iff, hfields]

end Samples

/-! ### Inferred schemas -/

/-- From samples with the same values, in whatever order and however often, schemas are inferred
that accept the same documents and parse each of them to the same result. -/
theorem parse_ofSamples_of_sameValues {xs ys : List Value} (hx : ∀ v ∈ xs, v.WellFormed)
    (hy : ∀ v ∈ ys, v.WellFormed) (h : Samples.SameValues xs ys) :
    (∀ v, (Schema.ofSamples xs).valid v = (Schema.ofSamples ys).valid v) ∧
      ∀ v, v.WellFormed → (Schema.ofSamples xs).valid v →
        ∃ w, (Schema.ofSamples xs).parse v = .ok w ∧ (Schema.ofSamples ys).parse v = .ok w := by
  have hvalid : ∀ v, (Schema.ofSamples xs).valid v = (Schema.ofSamples ys).valid v := by
    intro v
    rw [Bool.eq_iff_iff, valid_ofSamples_iff hx, valid_ofSamples_iff hy]
    exact Samples.accepts_congr v hx h
  refine ⟨hvalid, fun v hv hpass => ?_⟩
  obtain ⟨w, hw⟩ := Schema.valid_iff_parse.mp hpass
  refine ⟨w, hw, ?_⟩
  obtain ⟨haccepts, hwidened⟩ := (parse_ofSamples_eq_ok_iff hx hv).mp hw
  rw [parse_ofSamples_eq_ok_iff hy hv]
  rw [Samples.widened_congr v hx h] at hwidened
  exact ⟨(Samples.accepts_congr v hx h).mp haccepts, hwidened⟩

/-- A record twice, its keys in two orders, and one with a minus zero; against each of them once, in
the other order and with a plus zero. An integer becomes a float either way. -/
theorem parse_ofSamples_of_sameValues_reordered :
    ∃ w, (Schema.ofSamples
        [.object [("a", .number (.integer 1)), ("b", .null)],
          .object [("a", .number (.float (.zero true)))],
          .object [("b", .null), ("a", .number (.integer 1))]]).parse
          (.object [("a", .number (.integer 2))]) = .ok w ∧
      (Schema.ofSamples
        [.object [("a", .number (.float (.zero false)))],
          .object [("b", .null), ("a", .number (.integer 1))]]).parse
          (.object [("a", .number (.integer 2))]) = .ok w := by
  refine (parse_ofSamples_of_sameValues ?_ ?_ ⟨?_, ?_⟩).2 _ ?_ ?_
  · simp [Value.WellFormed, Value.FieldsWellFormed]
  · simp [Value.WellFormed, Value.FieldsWellFormed]
  · decide
  · decide
  · simp [Value.WellFormed, Value.FieldsWellFormed]
  · decide

end DocShape
