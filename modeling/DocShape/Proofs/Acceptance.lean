import DocShape.Proofs.ExhaustiveWalk
import DocShape.Proofs.Summary

/-!
What an inferred schema accepts, said of the samples alone.

`Samples.Accepts` speaks of the nodes at a position all at once: where they are not all of one kind
every document is accepted, else null where null occurs, and documents of the kind that agree with
the samples further down.

* `accepts_iff_clauses`: acceptance is the recursion that `Samples.Clauses` writes down.
* `valid_lower_iff`: the schema of a shape accepts exactly what the samples accept that the shape
  summarizes.
* `accepts_of_mem`: samples accept each of themselves.
* `error?_solve_observed`: after any number of samples, the schema of what was seen has no
  objection to any of them.
* `valid_ofSamples_iff_clauses`: what the schema of some samples accepts, clause by clause.
-/

namespace DocShape

/-- The kinds that inference tells apart: both number tags are one kind, and null is none. -/
inductive Kind where
  | boolean
  | number
  | string
  | sequence
  | mapping
deriving DecidableEq

def Kind.all : List Kind := [.boolean, .number, .string, .sequence, .mapping]

theorem Kind.mem_all (κ : Kind) : κ ∈ Kind.all := by
  cases κ <;> decide

/-- The kind of the nodes that carry a tag. -/
def Tag.kind? : Tag → Option Kind
  | .boolean => some .boolean
  | .integer | .float => some .number
  | .string => some .string
  | .sequence => some .sequence
  | .mapping => some .mapping
  | .null => none

namespace Samples

/-- Whether a kind occurs. -/
def shows (samples : List Value) : Kind → Bool
  | .boolean => has samples .boolean
  | .number => has samples .integer || has samples .float
  | .string => has samples .string
  | .sequence => has samples .sequence
  | .mapping => has samples .mapping

/-- Whether a kind is the only one that occurs. -/
def ShowsOnly (samples : List Value) (κ : Kind) : Prop :=
  ∀ κ', shows samples κ' ↔ κ' = κ

/-- Whether some mapping lacks the key. -/
def Lacks (samples : List Value) (key : String) : Prop :=
  ∃ fields ∈ mappings samples, key ∉ Entries.keys fields

/-- The documents that samples make acceptable. -/
inductive Accepts : List Value → Value → Prop where
  | anything {samples : List Value} {v : Value} :
      (¬ ∃ κ, ShowsOnly samples κ) → Accepts samples v
  | null {samples : List Value} : has samples .null → Accepts samples .null
  | boolean {samples : List Value} {b : Bool} :
      shows samples .boolean → Accepts samples (.bool b)
  | integer {samples : List Value} {n : Int64} :
      shows samples .number → Accepts samples (.number (.integer n))
  | number {samples : List Value} {n : Number} :
      has samples .float → Accepts samples (.number n)
  | string {samples : List Value} {s : String} :
      shows samples .string → Accepts samples (.string s)
  | array {samples items : List Value} : shows samples .sequence →
      (∀ x ∈ items, Accepts (elements samples) x) → Accepts samples (.array items)
  /-- A key is absent only where some sample lacks it; such a key may also have the value null. -/
  | object {samples : List Value} {fields : List (String × Value)} : shows samples .mapping →
      (∀ k ∈ Entries.keys fields, HasKey samples k) →
      (∀ k, HasKey samples k → fields.lookup k = none → Lacks samples k) →
      (∀ k v, HasKey samples k → fields.lookup k = some v → ¬ (v = .null ∧ Lacks samples k) →
        Accepts (atKey samples k) v) →
      Accepts samples (.object fields)

variable {samples : List Value} {v : Value} {κ : Kind}

theorem shows_iff : shows samples κ ↔ ∃ v ∈ samples, v.tag.kind? = some κ := by
  have hkind : ∀ t : Tag, t.kind? = some κ → has samples t → shows samples κ := by
    intro t ht h
    cases t <;> cases ht <;> simp [shows, h]
  constructor
  · intro h
    have htag : ∃ t : Tag, t.kind? = some κ ∧ has samples t := by
      cases κ with
      | number =>
        rcases (Bool.or_eq_true _ _).mp h with h | h
        · exact ⟨_, rfl, h⟩
        · exact ⟨_, rfl, h⟩
      | boolean => exact ⟨.boolean, rfl, h⟩
      | string => exact ⟨.string, rfl, h⟩
      | sequence => exact ⟨.sequence, rfl, h⟩
      | mapping => exact ⟨.mapping, rfl, h⟩
    obtain ⟨t, ht, h⟩ := htag
    obtain ⟨v, hv, rfl⟩ := has_iff.mp h
    exact ⟨v, hv, ht⟩
  · rintro ⟨v, hv, hk⟩
    exact hkind v.tag hk (has_iff.mpr ⟨v, hv, rfl⟩)

theorem not_shows (h : ShowsOnly samples κ) (κ' : Kind) (hne : κ' ≠ κ) :
    shows samples κ' = false := by
  rw [← Bool.not_eq_true, h]
  exact hne

/-- Fewer mappings have a key than there are mappings exactly where some mapping lacks it. -/
theorem length_atKey_lt_iff {key : String} :
    (atKey samples key).length < (mappings samples).length ↔ Lacks samples key := by
  rw [atKey, List.length_filterMap_lt_length_iff_exists, Lacks]
  simp only [Entries.lookup_eq_none_iff_notMem, exists_prop]

/-! ### Acceptance, kind by kind -/

/-- Where one kind occurs only, an accepted document is null or of the kind. -/
theorem kind_of_accepts (h : ShowsOnly samples κ) (hv : Accepts samples v) :
    v = .null ∧ has samples .null ∨ v.tag.kind? = some κ := by
  cases hv with
  | anything hno => exact absurd ⟨κ, h⟩ hno
  | null hnull => exact .inl ⟨rfl, hnull⟩
  | boolean hs => exact .inr ((h _).mp hs ▸ rfl)
  | integer hs => exact .inr ((h _).mp hs ▸ rfl)
  | @number _ n hs =>
    have hnumber : shows samples .number := by simp [shows, hs]
    exact .inr ((h _).mp hnumber ▸ by cases n <;> rfl)
  | string hs => exact .inr ((h _).mp hs ▸ rfl)
  | array hs _ => exact .inr ((h _).mp hs ▸ rfl)
  | object hs _ _ _ => exact .inr ((h _).mp hs ▸ rfl)

theorem accepts_iff_boolean (h : ShowsOnly samples .boolean) :
    Accepts samples v ↔ v = .null ∧ has samples .null ∨ v.tag = .boolean := by
  constructor
  · intro hv
    refine (kind_of_accepts h hv).imp_right fun hk => ?_
    revert hk
    cases v.tag <;> simp [Tag.kind?]
  · rintro (⟨rfl, hnull⟩ | hv)
    · exact .null hnull
    · cases v with
      | bool b => exact .boolean ((h _).mpr rfl)
      | number n => cases n <;> cases hv
      | _ => cases hv

theorem accepts_iff_string (h : ShowsOnly samples .string) :
    Accepts samples v ↔ v = .null ∧ has samples .null ∨ v.tag = .string := by
  constructor
  · intro hv
    refine (kind_of_accepts h hv).imp_right fun hk => ?_
    revert hk
    cases v.tag <;> simp [Tag.kind?]
  · rintro (⟨rfl, hnull⟩ | hv)
    · exact .null hnull
    · cases v with
      | string s => exact .string ((h _).mpr rfl)
      | number n => cases n <;> cases hv
      | _ => cases hv

/-- Floats are accepted only where a float occurs, integers wherever numbers do. -/
theorem accepts_iff_number (h : ShowsOnly samples .number) :
    Accepts samples v ↔ v = .null ∧ has samples .null ∨
      v.tag = .integer ∨ v.tag = .float ∧ has samples .float := by
  constructor
  · intro hv
    have hk := kind_of_accepts h hv
    cases hv with
    | anything hno => exact absurd ⟨_, h⟩ hno
    | null hnull => exact .inl ⟨rfl, hnull⟩
    | integer _ => exact .inr (.inl rfl)
    | @number _ n hf =>
      cases n with
      | integer n => exact .inr (.inl rfl)
      | large n => exact .inr (.inr ⟨rfl, hf⟩)
      | float x => exact .inr (.inr ⟨rfl, hf⟩)
    | _ => simp [Value.tag, Tag.kind?] at hk
  · rintro (⟨rfl, hnull⟩ | hv | ⟨hv, hf⟩)
    · exact .null hnull
    · cases v with
      | number n => cases n <;> first | exact .integer ((h _).mpr rfl) | cases hv
      | _ => cases hv
    · cases v with
      | number n => exact .number hf
      | _ => cases hv

theorem accepts_iff_sequence (h : ShowsOnly samples .sequence) :
    Accepts samples v ↔ v = .null ∧ has samples .null ∨
      ∃ items, v = .array items ∧ ∀ x ∈ items, Accepts (elements samples) x := by
  constructor
  · intro hv
    have hk := kind_of_accepts h hv
    cases hv with
    | anything hno => exact absurd ⟨_, h⟩ hno
    | null hnull => exact .inl ⟨rfl, hnull⟩
    | array _ hitems => exact .inr ⟨_, rfl, hitems⟩
    | @number _ n _ => cases n <;> simp [Value.tag, Tag.kind?] at hk
    | _ => simp [Value.tag, Tag.kind?] at hk
  · rintro (⟨rfl, hnull⟩ | ⟨items, rfl, hitems⟩)
    · exact .null hnull
    · exact .array ((h _).mpr rfl) hitems

/-- Whether what a document has at a key fits the mappings among some samples. -/
def FieldFits (samples : List Value) (key : String) : Option Value → Prop
  | some x => x = .null ∧ Lacks samples key ∨ Accepts (atKey samples key) x
  | none => Lacks samples key

/-- Whether the fields of a document fit those of the mappings among some samples. -/
def FieldsFit (samples : List Value) (fields : List (String × Value)) : Prop :=
  (∀ k ∈ Entries.keys fields, HasKey samples k) ∧
    ∀ k, HasKey samples k → FieldFits samples k (fields.lookup k)

theorem accepts_iff_mapping (h : ShowsOnly samples .mapping) :
    Accepts samples v ↔ v = .null ∧ has samples .null ∨
      ∃ fields, v = .object fields ∧ FieldsFit samples fields := by
  constructor
  · intro hv
    have hk := kind_of_accepts h hv
    cases hv with
    | anything hno => exact absurd ⟨_, h⟩ hno
    | null hnull => exact .inl ⟨rfl, hnull⟩
    | @object _ fields _ hkeys habsent hpresent =>
      refine .inr ⟨_, rfl, hkeys, fun k hkey => ?_⟩
      unfold FieldFits
      cases hl : fields.lookup k with
      | none => exact habsent k hkey hl
      | some x => exact Classical.or_iff_not_imp_left.mpr (hpresent k x hkey hl)
    | @number _ n _ => cases n <;> simp [Value.tag, Tag.kind?] at hk
    | _ => simp [Value.tag, Tag.kind?] at hk
  · rintro (⟨rfl, hnull⟩ | ⟨fields, rfl, hkeys, hfit⟩)
    · exact .null hnull
    · refine .object ((h _).mpr rfl) hkeys ?_ ?_
      · intro k hkey hl
        have := hfit k hkey
        rwa [hl] at this
      · intro k x hkey hl
        have := hfit k hkey
        rw [hl] at this
        exact this.resolve_left

/-! ### Acceptance, clause by clause -/

/-- What samples ask of the inside of a document of their kind, where `accepts` judges the nodes
further down. A number has to be an integer unless a float occurs. Keys have to be known, and a
known key may be absent, or hold null, where some sample lacks it. -/
def Inside (accepts : List Value → Value → Prop) (samples : List Value) : Value → Prop
  | .number n => (Value.number n).tag = .integer ∨ has samples .float
  | .array items => ∀ x ∈ items, accepts (elements samples) x
  | .object fields =>
    (∀ k ∈ Entries.keys fields, HasKey samples k) ∧
      ∀ k, HasKey samples k →
        fields.lookup k = none ∧ Lacks samples k ∨
          fields.lookup k = some .null ∧ Lacks samples k ∨
          ∃ x, fields.lookup k = some x ∧ accepts (atKey samples k) x
  | _ => True

/-- The clauses of acceptance, where `accepts` judges the nodes further down. Samples that do not
show exactly one kind make every document acceptable; else a document is null where null occurs, or
of the kind with an inside as the samples ask for it. -/
def Clauses (accepts : List Value → Value → Prop) (samples : List Value) (v : Value) : Prop :=
  (¬ ∃ κ, ShowsOnly samples κ) ∨
    ∃ κ, ShowsOnly samples κ ∧
      (v = .null ∧ .null ∈ samples ∨ v.tag.kind? = some κ ∧ Inside accepts samples v)

theorem has_null_iff : has samples .null ↔ .null ∈ samples := by
  rw [has_iff]
  constructor
  · rintro ⟨v, hv, ht⟩
    cases v with
    | null => exact hv
    | number n => cases n <;> cases ht
    | _ => cases ht
  · intro h
    exact ⟨_, h, rfl⟩

theorem fieldFits_iff {key : String} {found : Option Value} :
    FieldFits samples key found ↔
      found = none ∧ Lacks samples key ∨ found = some .null ∧ Lacks samples key ∨
        ∃ x, found = some x ∧ Accepts (atKey samples key) x := by
  cases found <;> simp [FieldFits]

/-- Where one kind occurs only, acceptance looks at null, at the kind and at the inside. -/
theorem accepts_iff_inside (h : ShowsOnly samples κ) :
    Accepts samples v ↔ v = .null ∧ has samples .null ∨
      v.tag.kind? = some κ ∧ Inside Accepts samples v := by
  cases κ with
  | boolean =>
    rw [accepts_iff_boolean h]
    cases v with
    | number n => cases n <;> simp [Value.tag, Tag.kind?]
    | _ => simp [Value.tag, Tag.kind?, Inside]
  | number =>
    rw [accepts_iff_number h]
    cases v with
    | number n => cases n <;> simp [Value.tag, Tag.kind?, Inside]
    | _ => simp [Value.tag, Tag.kind?]
  | string =>
    rw [accepts_iff_string h]
    cases v with
    | number n => cases n <;> simp [Value.tag, Tag.kind?]
    | _ => simp [Value.tag, Tag.kind?, Inside]
  | sequence =>
    rw [accepts_iff_sequence h]
    cases v with
    | number n => cases n <;> simp [Value.tag, Tag.kind?]
    | _ => simp [Value.tag, Tag.kind?, Inside]
  | mapping =>
    rw [accepts_iff_mapping h]
    cases v with
    | number n => cases n <;> simp [Value.tag, Tag.kind?]
    | object fields => simp [Value.tag, Tag.kind?, Inside, FieldsFit, fieldFits_iff]
    | _ => simp [Value.tag, Tag.kind?]

/-- Acceptance is the recursion that the clauses write down. -/
theorem accepts_iff_clauses : Accepts samples v ↔ Clauses Accepts samples v := by
  by_cases hone : ∃ κ, ShowsOnly samples κ
  · obtain ⟨κ, hκ⟩ := hone
    rw [accepts_iff_inside hκ, has_null_iff]
    constructor
    · intro h
      exact .inr ⟨κ, hκ, h⟩
    · rintro (hno | ⟨κ', hκ', h⟩)
      · exact absurd ⟨κ, hκ⟩ hno
      · have hsame : κ = κ' := (hκ' κ).mp ((hκ κ).mpr rfl)
        rw [hsame]
        exact h
  · constructor
    · intro _
      exact .inl hone
    · intro _
      exact .anything hone

end Samples

/-! ### The schema of a shape -/

namespace Shape

open Samples

/-- Exactly one of the kinds is picked exactly where one is picked when they are listed. -/
theorem length_filter_kinds {p : Kind → Bool} :
    (Kind.all.filter p).length = 1 ↔ ∃ κ, ∀ κ', p κ' ↔ κ' = κ := by
  rw [List.length_eq_one_iff]
  constructor
  · rintro ⟨κ, hκ⟩
    refine ⟨κ, fun κ' => ?_⟩
    rw [← List.mem_singleton (a := κ'), ← hκ, List.mem_filter]
    exact ⟨fun h => ⟨Kind.mem_all κ', h⟩, fun h => h.2⟩
  · rintro ⟨κ, hκ⟩
    have hp : p = fun κ' => decide (κ' = κ) := by
      funext κ'
      rw [Bool.eq_iff_iff, hκ, decide_eq_true_iff]
    refine ⟨κ, ?_⟩
    rw [hp]
    cases κ <;> rfl

theorem kindCount_eq_length {s : Shape} {samples : List Value} (h : s.Summarizes samples) :
    s.kindCount = (Kind.all.filter (shows samples)).length := by
  obtain ⟨k, i, r⟩ := s
  obtain ⟨hk, hi, hr⟩ := h
  have hitems : i.isSome = has samples .sequence := by
    cases i with
    | none => exact hi.symm
    | some e => exact hi.1.symm
  have hrecord : r.isSome = has samples .mapping := by
    cases r with
    | none => exact hr.symm
    | some r => exact hr.1.symm
  have hflags : [k.boolean, k.integer || k.float, k.string, i.isSome, r.isSome] =
      Kind.all.map (shows samples) := by
    rw [hitems, hrecord, hk]
    rfl
  rw [kindCount, scalars, items, record, hflags, List.filter_map, List.length_map]
  rfl

theorem kindCount_eq_one_iff {s : Shape} {samples : List Value} (h : s.Summarizes samples) :
    s.kindCount = 1 ↔ ∃ κ, ShowsOnly samples κ := by
  rw [kindCount_eq_length h, length_filter_kinds]
  rfl

/-- The schema of a shape, null aside. -/
def nonNullSchema : Shape → Schema
  | .mk k i r =>
    if (Shape.mk k i r).kindCount ≠ 1 then .any
    else if k.boolean then .boolean
    else if k.float then .float
    else if k.integer then .integer
    else if k.string then .string
    else (lowerItems i).getD ((lowerRecord r).getD .any)

theorem lower_eq (s : Shape) :
    s.lower = if s.scalars.null then s.nonNullSchema.modify .nullable else s.nonNullSchema := by
  obtain ⟨k, i, r⟩ := s
  rfl

theorem rules_nonNullSchema (s : Shape) : s.nonNullSchema.rules = {} := by
  obtain ⟨k, i, r⟩ := s
  rw [nonNullSchema]
  repeat' split
  all_goals try rfl
  -- What is left is the schema of elements or of a record.
  cases i with
  | some e => rfl
  | none => cases r <;> rfl

/-- The schema of a shape has one rule at most: whether null is accepted. -/
theorem rules_lower (s : Shape) : s.lower.rules = { nullable := s.scalars.null } := by
  rw [lower_eq]
  cases s.scalars.null with
  | true =>
    rw [if_pos rfl, Schema.modify, Schema.rules_mapRules, rules_nonNullSchema]
  | false => exact rules_nonNullSchema s

theorem isOptional_lower (s : Shape) : s.lower.isOptional = false := by
  rw [Schema.isOptional, rules_lower]

theorem keys_lowerFields (seen : Nat) (fields : List (String × FieldShape Shape)) :
    Entries.keys (lowerFields seen fields) = Entries.keys fields := by
  induction fields with
  | nil => rfl
  | cons e rest ih =>
    obtain ⟨k, presentIn, s⟩ := e
    rw [lowerFields, Entries.keys_cons, Entries.keys_cons, ih]

theorem valid_lower_iff_nonNull {s : Shape} {samples : List Value} {v : Value}
    (h : s.Summarizes samples) :
    s.lower.valid v ↔ v = .null ∧ has samples .null ∨ s.nonNullSchema.valid v := by
  have hnull : s.scalars.null = has samples .null := by
    obtain ⟨k, i, r⟩ := s
    rw [scalars, h.1]
    rfl
  rw [lower_eq, hnull]
  split
  · rename_i hs
    rw [Schema.valid_modify_nullable, hs]
    simp
  · rename_i hs
    simp [hs]

/-- Where one kind occurs only, the shape has the schema of that kind. -/
theorem nonNullSchema_eq {k : ScalarKinds} {i : Option Shape} {r : Option (RecordShape Shape)}
    {samples : List Value} {κ : Kind} (h : (mk k i r).Summarizes samples)
    (hκ : ShowsOnly samples κ) :
    (mk k i r).nonNullSchema =
      match κ with
      | .boolean => .boolean
      | .number => if has samples .float then .float else .integer
      | .string => .string
      | .sequence => (lowerItems i).getD .any
      | .mapping => (lowerRecord r).getD .any := by
  have hone := (kindCount_eq_one_iff h).mpr ⟨κ, hκ⟩
  obtain ⟨rfl, hi, hr⟩ := h
  have hboolean : (scalarKinds samples).boolean = shows samples .boolean := rfl
  have hnumber : (has samples .integer || has samples .float) = shows samples .number := rfl
  have hstring : (scalarKinds samples).string = shows samples .string := rfl
  rw [nonNullSchema, if_neg (not_not_intro hone), hboolean, hstring]
  by_cases hκn : κ = .number
  · subst hκn
    rw [not_shows hκ .boolean (by decide)]
    rw [(hκ .number).mpr rfl] at hnumber
    cases hf : has samples .float with
    | true => simp [scalarKinds, hf]
    | false =>
      rw [hf, Bool.or_false] at hnumber
      simp [scalarKinds, hf, hnumber]
  · -- Without numbers both number flags are off.
    rw [not_shows hκ .number (Ne.symm hκn), Bool.or_eq_false_iff] at hnumber
    have hinteger : (scalarKinds samples).integer = false := hnumber.1
    have hfloat : (scalarKinds samples).float = false := hnumber.2
    rw [hinteger, hfloat]
    cases κ with
    | boolean => rw [(hκ .boolean).mpr rfl, if_pos rfl]
    | number => exact absurd rfl hκn
    | string =>
      rw [not_shows hκ .boolean (by decide), (hκ .string).mpr rfl]
      rfl
    | sequence =>
      rw [not_shows hκ .boolean (by decide), not_shows hκ .string (by decide)]
      cases i with
      | none => exact absurd ((hκ .sequence).mpr rfl) (by rw [shows, hi]; decide)
      | some e => rfl
    | mapping =>
      rw [not_shows hκ .boolean (by decide), not_shows hκ .string (by decide)]
      cases i with
      | none => rfl
      | some e => exact absurd hi.1 (by rw [← shows, not_shows hκ .sequence (by decide)]; decide)

mutual
/-- The schema of a shape accepts exactly what the samples accept that the shape summarizes. -/
theorem valid_lower_iff : ∀ (s : Shape) {samples : List Value} {v : Value},
    s.Summarizes samples → (s.lower.valid v ↔ Accepts samples v)
  | .mk k i r, samples, v, h => by
    rw [valid_lower_iff_nonNull h]
    by_cases hone : ∃ κ, ShowsOnly samples κ
    · obtain ⟨κ, hκ⟩ := hone
      rw [nonNullSchema_eq h hκ]
      obtain ⟨-, hi, hr⟩ := h
      cases κ with
      | boolean =>
        rw [accepts_iff_boolean hκ]
        simp [Schema.boolean, Schema.valid_ofKind_iff .boolean rfl fun _ => rfl]
      | number =>
        rw [accepts_iff_number hκ]
        cases hf : has samples .float with
        | true =>
          simp [Schema.float, Schema.valid_ofKind_iff .float rfl fun _ => rfl, or_comm]
        | false =>
          simp [Schema.integer, Schema.valid_ofKind_iff .integer rfl fun _ => rfl]
      | string =>
        rw [accepts_iff_string hκ]
        simp [Schema.string, Schema.valid_ofKind_iff (.string none) rfl fun _ => rfl]
      | sequence => rw [accepts_iff_sequence hκ, valid_lowerItems_iff i hi ((hκ _).mpr rfl)]
      | mapping => rw [accepts_iff_mapping hκ, valid_lowerRecord_iff r hr ((hκ _).mpr rfl)]
    · have hcount := mt (kindCount_eq_one_iff h).mp hone
      rw [nonNullSchema, if_pos hcount]
      simp [Schema.valid_any, Accepts.anything hone]

theorem valid_lowerItems_iff : ∀ (i : Option Shape) {samples : List Value} {v : Value},
    ItemsSummarize i samples → has samples .sequence →
      (((lowerItems i).getD .any).valid v ↔
        ∃ items, v = .array items ∧ ∀ x ∈ items, Accepts (elements samples) x)
  | none, _, _, h, hs => absurd hs (by rw [h]; decide)
  | some e, samples, v, ⟨_, he⟩, _ => by
    have hvalid : ∀ x, e.lower.valid x ↔ Accepts (elements samples) x := fun _ =>
      valid_lower_iff e he
    rw [lowerItems, Option.getD_some, Schema.arrayOf, Schema.valid_array_iff]
    simp [Rules.acceptsNull, Rules.failures, Rules.boundFailures, hvalid]

theorem valid_lowerRecord_iff : ∀ (r : Option (RecordShape Shape)) {samples : List Value}
    {v : Value}, RecordSummarizes r samples → has samples .mapping →
      (((lowerRecord r).getD .any).valid v ↔
        ∃ fields, v = .object fields ∧ FieldsFit samples fields)
  | none, _, _, h, hs => absurd hs (by rw [h]; decide)
  | some ⟨seen, fields⟩, samples, v, ⟨_, hseen, hn, hkeys, hf⟩, _ => by
    have hnodup : (Entries.keys (lowerFields seen fields)).Nodup := by
      rw [keys_lowerFields]
      exact hn
    rw [lowerRecord, Option.getD_some, Schema.objectOf, Entries.ofList_eq_self hnodup,
      Schema.valid_object_iff]
    simp only [Rules.acceptsNull, Rules.failures, Rules.boundFailures, keys_lowerFields, hkeys,
      valid_lowerFields_iff fields hf hseen, FieldsFit]
    simp [and_comm]

theorem valid_lowerFields_iff : ∀ (fs : List (String × FieldShape Shape)) {samples : List Value}
    {seen : Nat} {fields : List (String × Value)}, FieldsSummarize fs samples →
      seen = (mappings samples).length →
        ((∀ e ∈ lowerFields seen fs, e.2.AdmitsField (fields.lookup e.1)) ↔
          ∀ k ∈ Entries.keys fs, FieldFits samples k (fields.lookup k))
  | [], _, _, _, _, _ => by simp [lowerFields]
  | (k, ⟨presentIn, s⟩) :: rest, samples, seen, fields, ⟨⟨hp, hs⟩, hrest⟩, hseen => by
    rw [lowerFields, List.forall_mem_cons, Entries.keys_cons, List.forall_mem_cons,
      valid_lowerFields_iff rest hrest hseen]
    refine and_congr_left fun _ => ?_
    have hlacks : presentIn < seen ↔ Lacks samples k := by
      rw [hp, hseen, length_atKey_lt_iff]
    have hvalid : ∀ x, s.lower.valid x ↔ Accepts (atKey samples k) x := fun _ =>
      valid_lower_iff s hs
    have hoptional : (s.lower.modify .isOptional).isOptional = true := by
      cases s.lower <;> rfl
    dsimp only
    by_cases h : Lacks samples k
    · rw [if_pos (hlacks.mpr h)]
      cases fields.lookup k with
      | none => simp [Schema.AdmitsField, FieldFits, h, hoptional]
      | some x =>
        simp [Schema.AdmitsField, FieldFits, h, hvalid, Schema.valid_modify_isOptional]
    · rw [if_neg (mt hlacks.mp h)]
      cases fields.lookup k with
      | none => simp [Schema.AdmitsField, FieldFits, h, isOptional_lower]
      | some x => simp [Schema.AdmitsField, FieldFits, h, hvalid]
end

end Shape

/-! ### Samples accept themselves -/

namespace Samples

mutual
/-- Samples accept each of themselves. -/
theorem accepts_of_mem : ∀ (v : Value) {samples : List Value}, v.WellFormed → v ∈ samples →
    Accepts samples v
  | .null, _, _, hmem => .null (has_iff.mpr ⟨_, hmem, rfl⟩)
  | .bool _, _, _, hmem => .boolean (shows_iff.mpr ⟨_, hmem, rfl⟩)
  | .number (.integer _), _, _, hmem => .integer (shows_iff.mpr ⟨_, hmem, rfl⟩)
  | .number (.large _), _, _, hmem => .number (has_iff.mpr ⟨_, hmem, rfl⟩)
  | .number (.float _), _, _, hmem => .number (has_iff.mpr ⟨_, hmem, rfl⟩)
  | .string _, _, _, hmem => .string (shows_iff.mpr ⟨_, hmem, rfl⟩)
  | .array items, samples, h, hmem => by
    refine .array (shows_iff.mpr ⟨_, hmem, rfl⟩) ?_
    exact accepts_of_mem_items items h fun x hx => mem_elements.mpr ⟨items, hmem, hx⟩
  | .object fields, samples, ⟨hn, hf⟩, hmem => by
    have hfields : fields ∈ mappings samples := mem_mappings.mpr hmem
    refine .object (shows_iff.mpr ⟨_, hmem, rfl⟩) (fun k hk => ⟨fields, hfields, hk⟩) ?_ ?_
    · intro k _ hl
      exact ⟨fields, hfields, Entries.lookup_eq_none_iff_notMem.mp hl⟩
    · intro k v _ hl _
      refine accepts_of_mem_fields fields hf ?_ k v (Entries.mem_of_lookup_eq_some hl)
      intro k' v' hkv
      exact mem_atKey.mpr ⟨fields, hmem, Entries.lookup_of_mem hn hkv⟩

theorem accepts_of_mem_items : ∀ (items : List Value) {samples : List Value},
    Value.ItemsWellFormed items → (∀ x ∈ items, x ∈ samples) → ∀ x ∈ items, Accepts samples x
  | [], _, _, _ => by simp
  | v :: rest, samples, ⟨hv, hrest⟩, hmem => by
    rw [List.forall_mem_cons] at hmem ⊢
    exact ⟨accepts_of_mem v hv hmem.1, accepts_of_mem_items rest hrest hmem.2⟩

theorem accepts_of_mem_fields : ∀ (fields : List (String × Value)) {samples : List Value},
    Value.FieldsWellFormed fields → (∀ k v, (k, v) ∈ fields → v ∈ atKey samples k) →
      ∀ k v, (k, v) ∈ fields → Accepts (atKey samples k) v
  | [], _, _, _ => by simp
  | (k, v) :: rest, samples, ⟨hv, hrest⟩, hmem => by
    intro k' v' h
    rcases List.mem_cons.mp h with heq | h
    · cases heq
      exact accepts_of_mem v hv (hmem k v List.mem_cons_self)
    · exact accepts_of_mem_fields rest hrest
        (fun k'' v'' h'' => hmem k'' v'' (List.mem_cons_of_mem _ h'')) k' v' h
end

end Samples

/-! ### Inferred schemas -/

/-- The schema that an inference arrives at accepts exactly what its samples accept. -/
theorem valid_ofSamples_iff {samples : List Value} (h : ∀ v ∈ samples, v.WellFormed) {v : Value} :
    (Schema.ofSamples samples).valid v ↔ Samples.Accepts samples v :=
  Shape.valid_lower_iff _ (Shape.summarizes_observeAll_start h)

theorem valid_ofSample_iff {sample : Value} (h : sample.WellFormed) {v : Value} :
    (Schema.ofSample sample).valid v ↔ Samples.Accepts [sample] v :=
  Shape.valid_lower_iff _ (Shape.summarizes_observe sample h)

theorem Schema.error?_eq_none_iff {s : Schema} {v : Value} : s.error? v = none ↔ s.valid v := by
  unfold Schema.valid
  rw [Option.isNone_iff_eq_none]

/-- An inferred schema accepts what its samples accept, and that is what the clauses say, all the
way down. -/
theorem valid_ofSamples_iff_clauses {samples : List Value} (h : ∀ v ∈ samples, v.WellFormed)
    (v : Value) :
    ((Schema.ofSamples samples).valid v ↔ Samples.Accepts samples v) ∧
      (Samples.Accepts samples v ↔ Samples.Clauses Samples.Accepts samples v) :=
  ⟨valid_ofSamples_iff h, Samples.accepts_iff_clauses⟩

/-- A document with an integer among floats, a null at a key that some sample lacks, and a value of
another kind at a key that only holds null. -/
theorem valid_ofSamples_iff_clauses_null_and_records :
    Samples.Clauses Samples.Accepts
      [.null,
        .object [("a", .array [.number (.float (.zero true)), .null]), ("b", .string "x")],
        .object [("c", .null), ("a", .array [])]]
      (.object [("a", .array [.number (.integer 3), .null]), ("b", .null), ("c", .bool true)]) := by
  have hsamples : ∀ v ∈ ([.null,
      .object [("a", .array [.number (.float (.zero true)), .null]), ("b", .string "x")],
      .object [("c", .null), ("a", .array [])]] : List Value), v.WellFormed := by
    simp [Value.WellFormed, Value.FieldsWellFormed, Value.ItemsWellFormed]
  exact (valid_ofSamples_iff_clauses hsamples _).2.mp
    ((valid_ofSamples_iff_clauses hsamples _).1.mp (by decide))

/-- After each number of samples, no count in the state exceeds the number of mappings that were
seen, and none of the samples so far is in error against the schema of the state; the schema of all
of them together and that of a single one are as lenient. -/
theorem error?_solve_observed {samples : List Value} (h : ∀ v ∈ samples, v.WellFormed) (n : Nat) :
    (Inference.start.observeAll (samples.take n)).shape.CountsWithin
        (itemsMappingCount (samples.take n)) ∧
      ∀ v ∈ samples.take n,
        (Inference.start.observeAll (samples.take n)).solve.error? v = none ∧
          (Schema.ofSamples (samples.take n)).error? v = none ∧
          (Schema.ofSample v).error? v = none := by
  have hseen : ∀ v ∈ samples.take n, v.WellFormed := fun v hv => h v (List.mem_of_mem_take hv)
  have hsummary := Shape.summarizes_observeAll_start hseen
  refine ⟨Shape.countsWithin_of_summarizes _ hsummary (Nat.le_refl _), fun v hv => ?_⟩
  have hall : (Schema.ofSamples (samples.take n)).error? v = none :=
    Schema.error?_eq_none_iff.mpr
      ((valid_ofSamples_iff hseen).mpr (Samples.accepts_of_mem v (hseen v hv) hv))
  have hone : (Schema.ofSample v).error? v = none :=
    Schema.error?_eq_none_iff.mpr
      ((valid_ofSample_iff (hseen v hv)).mpr
        (Samples.accepts_of_mem v (hseen v hv) List.mem_cons_self))
  exact ⟨hall, hall, hone⟩

/-- A null and two records, which share a key whose values are arrays of different kinds: the second
record is accepted after all three. -/
theorem error?_solve_observed_null_and_records :
    (Inference.start.observeAll ([.null,
        .object [("a", .array [.number (.integer 1), .null]), ("b", .string "x")],
        .object [("c", .null), ("a", .array [.bool true])]].take 3)).solve.error?
      (.object [("c", .null), ("a", .array [.bool true])]) = none := by
  refine ((error?_solve_observed ?_ 3).2 _ ?_).1
  · simp [Value.WellFormed, Value.FieldsWellFormed, Value.ItemsWellFormed]
  · simp

end DocShape
