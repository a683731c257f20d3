import DocShape.Proofs.Acceptance
import DocShape.Proofs.Parsing

/-!
What inferred schemas parse documents to.

The schema of samples has no defaults and no conversions, so a document that passes is kept but for
one thing: an integer becomes a float where the samples are numbers and one of them is a float.
`Samples.widened` is the document after that, said of the samples alone.

* `eq_widened_of_parse_lower`: what passes the schema of a shape parses to the widened document.
* `parse_ofSamples_eq_ok_iff`: a document that the samples accept parses to the widened one, and no
  other document parses.
-/

namespace DocShape

/-! ### Widened documents -/

namespace Samples

instance (samples : List Value) (κ : Kind) : Decidable (ShowsOnly samples κ) :=
  decidable_of_iff (∀ κ' ∈ Kind.all, shows samples κ' ↔ κ' = κ)
    ⟨fun h κ' => h κ' (Kind.mem_all κ'), fun h κ' _ => h κ'⟩

mutual
/-- The document with every integer that stands among numbers of which one is a float as a float. -/
def widened : (samples : List Value) → Value → Value
  | samples, .number (.integer n) =>
    if ShowsOnly samples .number ∧ has samples .float then .number (.float (.ofInt64 n))
    else .number (.integer n)
  | samples, .array items =>
    if ShowsOnly samples .sequence then .array (widenedItems (elements samples) items)
    else .array items
  | samples, .object fields =>
    if ShowsOnly samples .mapping then .object (widenedFields samples fields) else .object fields
  | _, v => v
termination_by structural _ v => v

def widenedItems : (samples : List Value) → List Value → List Value
  | _, [] => []
  | samples, v :: rest => widened samples v :: widenedItems samples rest
termination_by structural _ items => items

/-- Each value is looked at beside the values at its key. -/
def widenedFields : (samples : List Value) → List (String × Value) → List (String × Value)
  | _, [] => []
  | samples, (k, v) :: rest => (k, widened (atKey samples k) v) :: widenedFields samples rest
termination_by structural _ fields => fields
end

theorem widened_of_not_showsOnly {samples : List Value} (h : ¬ ∃ κ, ShowsOnly samples κ)
    (v : Value) : widened samples v = v := by
  have hno : ∀ κ, ¬ ShowsOnly samples κ := fun κ hκ => h ⟨κ, hκ⟩
  cases v with
  | number n => cases n <;> simp [widened, hno]
  | _ => simp [widened, hno]

theorem widenedItems_eq_map (samples items : List Value) :
    widenedItems samples items = items.map (widened samples) := by
  induction items with
  | nil => rfl
  | cons v rest ih => rw [widenedItems, ih, List.map_cons]

theorem widenedFields_eq_map (samples : List Value) (fields : List (String × Value)) :
    widenedFields samples fields =
      fields.map fun e => (e.1, widened (atKey samples e.1) e.2) := by
  induction fields with
  | nil => rfl
  | cons e rest ih => rw [widenedFields, ih, List.map_cons]

theorem keys_widenedFields (samples : List Value) (fields : List (String × Value)) :
    Entries.keys (widenedFields samples fields) = Entries.keys fields := by
  rw [widenedFields_eq_map]
  exact Entries.keys_map (fun key => widened (atKey samples key)) fields

theorem lookup_widenedFields (samples : List Value) (fields : List (String × Value))
    (key : String) : (widenedFields samples fields).lookup key =
      (fields.lookup key).map (widened (atKey samples key)) := by
  rw [widenedFields_eq_map]
  exact Entries.lookup_map (fun key => widened (atKey samples key)) fields key

theorem widened_of_tag (samples : List Value) {v : Value} (hc : v.tag.isContainer = false)
    (hi : v.tag ≠ .integer) : widened samples v = v := by
  cases v with
  | number n => cases n <;> simp [widened, Value.tag] at *
  | array items => cases hc
  | object fields => cases hc
  | _ => simp [widened]

end Samples

/-! ### Leaves without rules -/

namespace Schema

/-- A leaf that has a tag and neither rules nor pattern prepares the node. -/
theorem eq_prepared_of_parse_ofKind {kind : LeafKind} {t : Tag} (ht : kind.tag? = some t)
    {v w : Value} (h : (ofKind kind).parse v = .ok w) :
    w = ({} : Rules).prepared t v ∧ w.tag = t := by
  obtain ⟨hw, htag, -, -⟩ := (parse_leaf_eq_ok_iff ht (skips_eq_false rfl v)).mp h
  exact ⟨hw, htag⟩

theorem eq_of_parse_ofKind {kind : LeafKind} {t : Tag} (ht : kind.tag? = some t) (hf : t ≠ .float)
    {v w : Value} (h : (ofKind kind).parse v = .ok w) : w = v ∧ v.tag = t := by
  obtain ⟨hw, htag⟩ := eq_prepared_of_parse_ofKind ht h
  have hself : ({} : Rules).prepared t v = v := by simp [Rules.prepared, hf]
  rw [hself] at hw
  rw [hw] at htag
  exact ⟨hw, htag⟩

theorem eq_of_parse_float {v w : Value} (h : float.parse v = .ok w) :
    w = v ∧ v.tag = .float ∨
      ∃ n, v = .number (.integer n) ∧ w = .number (.float (.ofInt64 n)) := by
  obtain ⟨rfl, htag⟩ := eq_prepared_of_parse_ofKind rfl h
  by_cases hv : v.tag = .integer
  · cases v with
    | number n =>
      cases n with
      | integer n => exact .inr ⟨n, rfl, rfl⟩
      | _ => cases hv
    | _ => cases hv
  · have hself : ({} : Rules).prepared .float v = v := by simp [Rules.prepared, hv]
    rw [hself] at htag ⊢
    exact .inl ⟨rfl, htag⟩

end Schema

/-! ### The schema of a shape -/

namespace Shape

open Samples Schema

theorem default_lowerFields (seen : Nat) (fields : List (String × FieldShape Shape)) :
    ∀ e ∈ lowerFields seen fields, e.2.rules.default = none := by
  induction fields with
  | nil => simp [lowerFields]
  | cons e rest ih =>
    rw [lowerFields, List.forall_mem_cons]
    refine ⟨?_, ih⟩
    dsimp only
    split
    · rw [Schema.modify, Schema.rules_mapRules, rules_lower]
    · rw [rules_lower]

mutual
/-- What the schema of a shape lets pass it parses to the widened document. -/
theorem eq_widened_of_parse_lower : ∀ (s : Shape) {samples : List Value} {v w : Value},
    s.Summarizes samples → v.WellFormed → s.lower.parse v = .ok w → w = widened samples v
  | .mk k i r, samples, v, w, h, hv, hp => by
    by_cases hnull : v = .null
    · subst hnull
      exact eq_null_of_parse_null (by rw [rules_lower]) hp
    · have hp : (nonNullSchema (.mk k i r)).parse v = .ok w := by
        rw [lower_eq] at hp
        split at hp
        · rwa [parse_modify_nullable_of_ne_null hnull] at hp
        · exact hp
      by_cases hone : ∃ κ, ShowsOnly samples κ
      · obtain ⟨κ, hκ⟩ := hone
        rw [nonNullSchema_eq h hκ] at hp
        obtain ⟨-, hi, hr⟩ := h
        cases κ with
        | boolean =>
          obtain ⟨rfl, htag⟩ := eq_of_parse_ofKind rfl (by decide) hp
          exact (widened_of_tag samples (by rw [htag]; rfl) (by rw [htag]; decide)).symm
        | number =>
          cases hf : has samples .float with
          | true =>
            simp only [hf, if_true] at hp
            rcases eq_of_parse_float hp with ⟨rfl, htag⟩ | ⟨n, rfl, rfl⟩
            · exact (widened_of_tag samples (by rw [htag]; rfl) (by rw [htag]; decide)).symm
            · rw [widened, if_pos ⟨hκ, hf⟩]
          | false =>
            simp only [hf, Bool.false_eq_true, if_false] at hp
            obtain ⟨rfl, htag⟩ := eq_of_parse_ofKind rfl (by decide) hp
            cases w with
            | number n =>
              cases n with
              | integer n => simp [widened, hf]
              | _ => cases htag
            | _ => cases htag
        | string =>
          obtain ⟨rfl, htag⟩ := eq_of_parse_ofKind rfl (by decide) hp
          exact (widened_of_tag samples (by rw [htag]; rfl) (by rw [htag]; decide)).symm
        | sequence => exact eq_widened_of_parse_lowerItems i hi hκ hv hp
        | mapping => exact eq_widened_of_parse_lowerRecord r hr hκ hv hp
      · have hcount := mt (kindCount_eq_one_iff h).mp hone
        rw [nonNullSchema, if_pos hcount] at hp
        rw [widened_of_not_showsOnly hone]
        exact eq_of_parse_untagged_leaf rfl (skips_eq_false rfl v) hp

theorem eq_widened_of_parse_lowerItems : ∀ (i : Option Shape) {samples : List Value} {v w : Value},
    ItemsSummarize i samples → ShowsOnly samples .sequence → v.WellFormed →
      ((lowerItems i).getD .any).parse v = .ok w → w = widened samples v
  | none, _, _, _, h, hκ, _, _ => by
    have hs := (hκ .sequence).mpr rfl
    rw [shows, h] at hs
    cases hs
  | some e, samples, v, w, ⟨_, he⟩, hκ, hv, hp => by
    rw [lowerItems, Option.getD_some, arrayOf] at hp
    obtain ⟨items, ws, rfl, -, hitems, rfl⟩ := (parse_array_eq_ok_iff (skips_eq_false rfl v)).mp hp
    have hws : ws = items.map (widened (elements samples)) := by
      refine eq_map_of_mapM (fun x hx y hy => ?_) hitems
      exact eq_widened_of_parse_lower e he (Value.itemsWellFormed_iff.mp hv x hx) hy
    rw [widened, if_pos hκ, widenedItems_eq_map, hws]

theorem eq_widened_of_parse_lowerRecord : ∀ (r : Option (RecordShape Shape)) {samples : List Value}
    {v w : Value}, RecordSummarizes r samples → ShowsOnly samples .mapping → v.WellFormed →
      ((lowerRecord r).getD .any).parse v = .ok w → w = widened samples v
  | none, _, _, _, h, hκ, _, _ => by
    have hs := (hκ .mapping).mpr rfl
    rw [shows, h] at hs
    cases hs
  | some ⟨seen, fs⟩, samples, v, w, ⟨_, _, hn, _, hf⟩, hκ, hv, hp => by
    have hnodup : (Entries.keys (lowerFields seen fs)).Nodup := by
      rw [keys_lowerFields]
      exact hn
    rw [lowerRecord, Option.getD_some, objectOf, Entries.ofList_eq_self hnodup] at hp
    obtain ⟨fields, patches, rfl, -, hpatches, hdeclared, rfl⟩ :=
      (parse_object_eq_ok_iff (skips_eq_false rfl v)).mp hp
    have hkept := keys_of_checkFields (default_lowerFields seen fs) hpatches
    have hkeys := Entries.keys_insertAll_of_known hkept
    rw [widened, if_pos hκ, Value.object.injEq]
    have hsame := hkeys.trans (keys_widenedFields samples fields).symm
    refine Entries.eq_of_lookup (hkeys ▸ hv.1) hsame fun key => ?_
    rw [lookup_widenedFields]
    cases hl : fields.lookup key with
    | none =>
      rw [Option.map_none, Entries.lookup_eq_none_iff_notMem, hkeys]
      exact Entries.lookup_eq_none_iff_notMem.mp hl
    | some x =>
      have hkey := (hdeclared.resolve_left (by decide)) key (Entries.mem_keys_of_lookup_eq_some hl)
      obtain ⟨t, ht⟩ := Entries.mem_keys_iff.mp hkey
      have hsettles := settlesField_of_checkFields hnodup hpatches (key, t) ht
      rw [hl] at hsettles
      obtain ⟨y, hy, hsettled⟩ := hsettles
      have hx : x.WellFormed :=
        Value.fieldsWellFormed_iff.mp hv.2 (key, x) (Entries.mem_of_lookup_eq_some hl)
      rw [hsettled, eq_widened_of_parse_lowerFields fs hf (key, t) ht hx hy]
      rfl

theorem eq_widened_of_parse_lowerFields : ∀ (fs : List (String × FieldShape Shape))
    {samples : List Value} {seen : Nat}, FieldsSummarize fs samples →
      ∀ e ∈ lowerFields seen fs, ∀ {x y : Value}, x.WellFormed → e.2.parse x = .ok y →
        y = widened (atKey samples e.1) x
  | [], _, _, _ => by simp [lowerFields]
  | (k, ⟨presentIn, s⟩) :: rest, samples, seen, ⟨⟨_, hs⟩, hrest⟩ => by
    rw [lowerFields, List.forall_mem_cons]
    refine ⟨fun {x y} hx hp => ?_, eq_widened_of_parse_lowerFields rest hrest⟩
    by_cases hnull : x = .null
    · subst hnull
      refine eq_null_of_parse_null ?_ hp
      exact default_lowerFields seen ((k, ⟨presentIn, s⟩) :: rest) _ List.mem_cons_self
    · dsimp only at hp
      split at hp
      · rw [parse_modify_isOptional_of_ne_null hnull] at hp
        exact eq_widened_of_parse_lower s hs hx hp
      · exact eq_widened_of_parse_lower s hs hx hp
end

end Shape

/-- A document that the samples accept parses to the widened one, and no other document parses. -/
theorem parse_ofSamples_eq_ok_iff {samples : List Value} (h : ∀ v ∈ samples, v.WellFormed)
    {v w : Value} (hv : v.WellFormed) :
    (Schema.ofSamples samples).parse v = .ok w ↔
      Samples.Accepts samples v ∧ w = Samples.widened samples v := by
  have hsummary := Shape.summarizes_observeAll_start h
  rw [← valid_ofSamples_iff h, Schema.valid_iff_parse]
  constructor
  · intro hp
    exact ⟨⟨w, hp⟩, Shape.eq_widened_of_parse_lower _ hsummary hv hp⟩
  · rintro ⟨⟨u, hu⟩, rfl⟩
    have hwidened := Shape.eq_widened_of_parse_lower _ hsummary hv hu
    rw [← hwidened]
    exact hu

end DocShape
