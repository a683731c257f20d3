import DocShape.Proofs.Parsing
import DocShape.Proofs.Rearrangement
import DocShape.Proofs.SchemaTree

/-!
Parsed documents are fixed points: what a document parses to parses to itself, and no conversion is
needed for that.

* `check_of_check_uncoerced`: what passes without conversions passes with them, to the same effect.
* `parse_uncoerced_of_parse`: what a document parses to parses to itself without conversions.
* `parse_fixed`: hence it parses to itself, with conversions or without.

Two things would break this. The children of a container are replaced only after the container was
found among the allowed ones, so containers must not be enumerated; and a default is put in as it
is, so each default has to be a fixed point itself. That no object declares a key twice is what the
constructors of schemas see to.
-/

namespace DocShape

/-! ### Conversions that are not asked for -/

theorem Rules.admit_of_admit_uncoerced {r : Rules} {trail : Path} {expected : Option Tag}
    {v : Value} {o : Outcome} (h : r.uncoerced.admit trail expected v = .ok o) :
    r.admit trail expected v = .ok o := by
  cases expected with
  | none => exact h
  | some t =>
    unfold Rules.admit at h ⊢
    by_cases ht : v.tag = t
    · simpa only [if_pos ht] using h
    · by_cases hw : t = .float ∧ v.tag = .integer
      · simpa only [if_neg ht, if_pos (Or.inr hw)] using h
      · simp [ht, hw, uncoerced] at h

theorem LeafKind.check_of_check_uncoerced {kind : LeafKind} {r : Rules} {trail : Path} {v : Value}
    {o : Outcome} (h : kind.check r.uncoerced trail v = .ok o) : kind.check r trail v = .ok o := by
  cases kind with
  | literal sample => exact h
  | _ =>
    obtain ⟨o', ho', hrest⟩ := bind_eq_ok_iff.mp h
    exact bind_eq_ok_iff.mpr ⟨o', Rules.admit_of_admit_uncoerced ho', hrest⟩

theorem checkItems_mono {check check' : Path → Value → Except Failure Outcome}
    (h : ∀ trail v o, check trail v = .ok o → check' trail v = .ok o) {trail : Path} {i : Nat}
    {items : List Value} {rs : List Outcome} (hitems : checkItems check trail i items = .ok rs) :
    checkItems check' trail i items = .ok rs := by
  induction items generalizing i rs with
  | nil => exact hitems
  | cons v rest ih =>
    obtain ⟨r, hr, hlater⟩ := bind_eq_ok_iff.mp hitems
    obtain ⟨rs', hrs', hdone⟩ := bind_eq_ok_iff.mp hlater
    exact bind_eq_ok_iff.mpr ⟨r, h _ _ _ hr, bind_eq_ok_iff.mpr ⟨rs', ih hrs', hdone⟩⟩

theorem ite_eq_ok_mono {p : Prop} [Decidable p] {x y y' : Except Failure Outcome} {o : Outcome}
    (hy : y = .ok o → y' = .ok o) (h : (if p then x else y) = .ok o) :
    (if p then x else y') = .ok o := by
  split at h
  · rename_i hp
    rw [if_pos hp, h]
  · rename_i hp
    rw [if_neg hp, hy h]

namespace Schema

theorem patchesField_of_uncoerced {s : Schema} {trail : Path}
    (hs : ∀ v o, s.uncoerced.check trail v = .ok o → s.check trail v = .ok o)
    {found patch : Option Value} (h : s.uncoerced.PatchesField trail found patch) :
    s.PatchesField trail found patch := by
  cases found with
  | some v =>
    obtain ⟨o, ho, hp⟩ := h
    exact ⟨o, hs v o ho, hp⟩
  | none =>
    rw [PatchesField, isOptional, rules_uncoerced] at h
    exact h

mutual
/-- What passes without conversions passes with them, to the same effect. -/
theorem check_of_check_uncoerced : ∀ (s : Schema) (trail : Path) (v : Value) (o : Outcome),
    s.uncoerced.check trail v = .ok o → s.check trail v = .ok o
  | .leaf kind r, trail, v, o, h => by
    simp only [uncoerced, check] at h ⊢
    exact ite_eq_ok_mono LeafKind.check_of_check_uncoerced h
  | .array element r, trail, v, o, h => by
    simp only [uncoerced, check] at h ⊢
    refine ite_eq_ok_mono (fun h => ?_) h
    cases v with
    | array items =>
      obtain ⟨_, hr, hlater⟩ := bind_eq_ok_iff.mp h
      obtain ⟨rs, hrs, hdone⟩ := bind_eq_ok_iff.mp hlater
      have hitems := checkItems_mono (check_of_check_uncoerced element) hrs
      exact bind_eq_ok_iff.mpr ⟨_, hr, bind_eq_ok_iff.mpr ⟨rs, hitems, hdone⟩⟩
    | _ => exact h
  | .object shape isOpen r, trail, v, o, h => by
    simp only [uncoerced, check, keys_uncoercedFields] at h ⊢
    refine ite_eq_ok_mono (fun h => ?_) h
    cases v with
    | object fields =>
      obtain ⟨_, hr, hlater⟩ := bind_eq_ok_iff.mp h
      obtain ⟨patches, hpatches, hdone⟩ := bind_eq_ok_iff.mp hlater
      have hfields := checkFields_of_check_uncoerced shape trail fields patches hpatches
      exact bind_eq_ok_iff.mpr ⟨_, hr, bind_eq_ok_iff.mpr ⟨patches, hfields, hdone⟩⟩
    | _ => exact h

theorem checkFields_of_check_uncoerced : ∀ (shape : List (String × Schema)) (trail : Path)
    (fields patches : List (String × Value)),
    checkFields (uncoercedFields shape) trail fields = .ok patches →
      checkFields shape trail fields = .ok patches
  | [], _, _, _, h => h
  | (k, s) :: rest, trail, fields, patches, h => by
    obtain ⟨patch, later, hpatch, hlater, rfl⟩ := checkFields_cons_eq_ok_iff.mp h
    exact checkFields_cons_eq_ok_iff.mpr ⟨patch, later,
      patchesField_of_uncoerced (check_of_check_uncoerced s _) hpatch,
      checkFields_of_check_uncoerced rest trail fields later hlater, rfl⟩
end

theorem parse_of_parse_uncoerced {s : Schema} {v w : Value} (h : s.uncoerced.parse v = .ok w) :
    s.parse v = .ok w := by
  obtain ⟨o, ho, hw⟩ := (parse_eq_ok_iff []).mp h
  exact (parse_eq_ok_iff []).mpr ⟨o, check_of_check_uncoerced s [] v o ho, hw⟩

/-! ### What a document parses to -/

/-- Whether a node, if it is for containers, enumerates none. -/
def EnumeratesNoContainers : Schema → Prop
  | .leaf _ _ => True
  | .array _ r => r.allowed = none
  | .object _ _ r => r.allowed = none

/-- Whether the default of a node, if it has one, parses to itself there without conversions. -/
def DefaultIsFixed (s : Schema) : Prop :=
  ∀ d, s.rules.default = some d → s.uncoerced.parse d = .ok d

/-- What stands in for an accepted null is a fixed point. -/
theorem parse_uncoerced_of_skips {s : Schema} {v w : Value} (hd : s.DefaultIsFixed)
    (hv : s.skips v) (h : s.parse v = .ok w) : s.uncoerced.parse w = .ok w := by
  rw [parse_of_skips hv] at h
  cases h
  cases hdefault : s.rules.default with
  | some d => exact hd d hdefault
  | none =>
    have hnull : s.uncoerced.skips .null := by
      rw [skips, rules_uncoerced]
      exact (Bool.and_eq_true_iff.mp hv).2
    rw [Option.getD_none, parse_of_skips hnull, rules_uncoerced, Rules.default_uncoerced, hdefault,
      Option.getD_none]

theorem skips_eq_false_of_tag {s : Schema} {v : Value} (h : v.tag ≠ .null) : s.skips v = false := by
  cases v with
  | null => exact absurd rfl h
  | _ => rfl

/-- A converted or widened leaf needs no further conversion. -/
theorem parse_uncoerced_of_parse_leaf {kind : LeafKind} {r : Rules} {v w : Value}
    (hv : (leaf kind r).skips v = false) (h : (leaf kind r).parse v = .ok w) :
    (leaf kind r.uncoerced).parse w = .ok w := by
  cases ht : kind.tag? with
  | none =>
    have hw := eq_of_parse_untagged_leaf ht hv h
    subst hw
    rw [← h]
    cases kind <;> first | rfl | cases ht
  | some t =>
    obtain ⟨-, htag, hr, hk⟩ := (parse_leaf_eq_ok_iff ht hv).mp h
    have hw : (leaf kind r.uncoerced).skips w = false := by
      refine skips_eq_false_of_tag ?_
      rw [htag]
      rintro rfl
      cases kind <;> cases ht
    exact (parse_leaf_eq_ok_iff ht hw).mpr
      ⟨(Rules.prepared_eq_self htag).symm, htag, hr, hk⟩

/-- The rules of an array that enumerate nothing look at the number of items only. -/
theorem failures_array_congr {r : Rules} (h : r.allowed = none) {items items' : List Value}
    (hlen : items.length = items'.length) :
    r.failures (.array items) = r.failures (.array items') := by
  have hmeasure : (Value.array items).measure? = (Value.array items').measure? := by
    rw [Value.measure?, hlen, ← Value.measure?]
  unfold Rules.failures Rules.boundFailures
  rw [h, hmeasure]

theorem failures_object_eq_nil {r : Rules} (h : r.allowed = none) (fields : List (String × Value)) :
    r.failures (.object fields) = [] := by
  simp [Rules.failures, Rules.boundFailures, h, Value.measure?]

theorem mapM_self_of_mapM {f g : Value → Except Failure Value}
    (h : ∀ x y, f x = .ok y → g y = .ok y) {items ws : List Value}
    (hitems : items.mapM f = .ok ws) :
    ws.length = items.length ∧ ws.mapM g = .ok ws := by
  rw [mapM_eq_ok_iff] at hitems ⊢
  refine ⟨hitems.length_eq.symm, List.forall₂_same.mpr fun w hw => ?_⟩
  obtain ⟨x, -, hx⟩ := (exists_related_of_forall₂ hitems).2 w hw
  exact h x w hx

/-- A field that is settled stays as it is. -/
theorem settlesField_uncoerced {s : Schema} (hd : s.DefaultIsFixed)
    (hs : ∀ v w, s.parse v = .ok w → s.uncoerced.parse w = .ok w) {found settled : Option Value}
    (h : s.SettlesField found settled) : s.uncoerced.SettlesField settled settled := by
  cases found with
  | some v =>
    obtain ⟨w, hw, rfl⟩ := h
    exact ⟨w, hs v w hw, rfl⟩
  | none =>
    obtain ⟨hopt, rfl⟩ := h
    cases hdefault : s.rules.default with
    | some d => exact ⟨d, hd d hdefault, rfl⟩
    | none =>
      refine ⟨?_, ?_⟩
      · rw [isOptional, rules_uncoerced]
        exact hopt
      · rw [rules_uncoerced]
        exact hdefault.symm

mutual
/-- What a document parses to parses to itself without conversions. The induction is on the schema;
a node that is replaced by a default leaves it, which the condition on defaults makes up for. -/
theorem parse_uncoerced_of_parse : ∀ (s : Schema), s.WellFormed →
    s.EachNode EnumeratesNoContainers → s.EachNode DefaultIsFixed → ∀ v w, s.parse v = .ok w →
      s.uncoerced.parse w = .ok w
  | .leaf kind r, _, _, hd, v, w, h => by
    cases hv : (leaf kind r).skips v with
    | true => exact parse_uncoerced_of_skips hd hv h
    | false => exact parse_uncoerced_of_parse_leaf hv h
  | .array element r, ⟨_, hs⟩, ⟨ha, hae⟩, ⟨hd, hde⟩, v, w, h => by
    cases hv : (array element r).skips v with
    | true => exact parse_uncoerced_of_skips hd hv h
    | false =>
      obtain ⟨items, ws, rfl, hr, hitems, rfl⟩ := (parse_array_eq_ok_iff hv).mp h
      obtain ⟨hlen, hself⟩ :=
        mapM_self_of_mapM (parse_uncoerced_of_parse element hs hae hde) hitems
      refine (parse_array_eq_ok_iff rfl).mpr ⟨ws, ws, rfl, ?_, hself, rfl⟩
      exact (failures_array_congr ha hlen).trans hr
  | .object shape isOpen r, ⟨hn, hs⟩, ⟨ha, hae⟩, ⟨hd, hde⟩, v, w, h => by
    cases hv : (object shape isOpen r).skips v with
    | true => exact parse_uncoerced_of_skips hd hv h
    | false =>
      obtain ⟨fields, fields', rfl, rfl, hkeys, hfields⟩ := settlesField_of_parse_object hn hv h
      rw [uncoerced]
      refine parse_object_self (failures_object_eq_nil ha fields') ?_ ?_
      · rw [keys_uncoercedFields]
        exact hkeys
      · rw [uncoercedFields_eq_map]
        simp only [List.forall_mem_map]
        intro e he
        exact settlesField_uncoerced (eachField_iff.mp hde e he).root
          (parse_uncoerced_of_parse_fields shape hs hae hde e he) (hfields e he)

theorem parse_uncoerced_of_parse_fields : ∀ (shape : List (String × Schema)),
    EachField DeclaresOnce shape → EachField EnumeratesNoContainers shape →
      EachField DefaultIsFixed shape → ∀ e ∈ shape, ∀ v w, e.2.parse v = .ok w →
        e.2.uncoerced.parse w = .ok w
  | [], _, _, _ => by simp
  | (k, s) :: rest, ⟨hs, hsrest⟩, ⟨ha, harest⟩, ⟨hd, hdrest⟩ => by
    rw [List.forall_mem_cons]
    exact ⟨parse_uncoerced_of_parse s hs ha hd,
      parse_uncoerced_of_parse_fields rest hsrest harest hdrest⟩
end

/-- What a document parses to parses to itself, with conversions or without. -/
theorem parse_fixed {s : Schema} (hs : s.WellFormed) (ha : s.EachNode EnumeratesNoContainers)
    (hd : s.EachNode DefaultIsFixed) {v w : Value} (h : s.parse v = .ok w) :
    s.parse w = .ok w ∧ s.uncoerced.parse w = .ok w := by
  have hfixed := parse_uncoerced_of_parse s hs ha hd v w h
  exact ⟨parse_of_parse_uncoerced hfixed, hfixed⟩

/-- Flags were converted and a default was put in, after which neither is of use any more. -/
theorem parse_fixed_of_flags_and_default :
    (object [("on", .leaf (.string none) { coerces := true }),
        ("size", .leaf .integer { isOptional := true, default := some (.number (.integer 1)) }),
        ("all", .array (.leaf .integer { coerces := true }) {})] false {}).uncoerced.parse
          (.object [("all", .array [.number (.integer 1), .number (.integer 5)]),
            ("on", .string "false"), ("size", .number (.integer 1))]) =
      .ok (.object [("all", .array [.number (.integer 1), .number (.integer 5)]),
        ("on", .string "false"), ("size", .number (.integer 1))]) := by
  refine (parse_fixed (v := .object [("all", .array [.bool true, .number (.integer 5)]),
    ("on", .bool false)]) ?_ ?_ ?_ rfl).2
  · simp [WellFormed, EachNode, EachField, DeclaresOnce]
  · simp [EachNode, EachField, EnumeratesNoContainers]
  · simp [EachNode, EachField, DefaultIsFixed, rules]
    rfl

end Schema
end DocShape
