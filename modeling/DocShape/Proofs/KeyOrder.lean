import DocShape.Proofs.Parsing
import DocShape.Proofs.Reordering

/-!
The order of keys never decides whether a document is accepted.

A check goes through the declared fields in their order, through the fields of a sample in theirs,
and through the keys of the document for one that is not known. All of these orders may be changed,
in the schema and in the document: the document is accepted as before, and it parses to the same
result but for the order of keys. Where the order of the document alone is changed, the same rule
fails at the same node, except that of several unknown keys of a mapping another one may be named.

* `Failure.SamePlace`, `SameFirst`: what two runs may differ in.
* `failures_sameFirst`: the failures of a reordered document begin at the same place.
* `valid_iff_of_reordered`: a reordered schema accepts the same documents.
* `parsesAlike_of_reordered`: reordered documents parse to reordered ones.
* `valid_parse_error?_reordered`: all of these.
-/

namespace DocShape

/-! ### First failures of two runs -/

/-- Failures with the same rule at the same node, or both about keys that one mapping may not
have. -/
inductive Failure.SamePlace : Failure → Failure → Prop where
  | sameRule {f g : Failure} : f.trail = g.trail → f.rule = g.rule → SamePlace f g
  | unexpected {parent : Path} {key key' : String} :
      SamePlace ⟨parent.atKey key, .unexpected key⟩ ⟨parent.atKey key', .unexpected key'⟩

theorem Failure.SamePlace.under {f g : Failure} (h : f.SamePlace g) (trail : Path) :
    (f.under trail).SamePlace (g.under trail) := by
  cases h with
  | sameRule htrail hrule => exact .sameRule (congrArg (trail ++ ·) htrail) hrule
  | unexpected =>
    simp only [Failure.under, Path.atKey, ← List.append_assoc]
    exact .unexpected

/-- Two lists of failures that begin at the same place, or are both empty. -/
def SameFirst (fs gs : List Failure) : Prop :=
  Option.Rel Failure.SamePlace fs.head? gs.head?

namespace SameFirst

variable {fs fs' gs gs' : List Failure}

theorem nil : SameFirst [] [] := .none

@[refl] theorem refl (fs : List Failure) : SameFirst fs fs := by
  cases fs with
  | nil => exact .none
  | cons f rest => exact .some (.sameRule rfl rfl)

theorem here {cause cause' : Cause} (h : cause.rule = cause'.rule) :
    SameFirst [.here cause] [.here cause'] :=
  .some (.sameRule rfl h)

theorem append (h : SameFirst fs gs) (h' : SameFirst fs' gs') :
    SameFirst (fs ++ fs') (gs ++ gs') := by
  cases fs with
  | nil =>
    cases gs with
    | nil => exact h'
    | cons g gs => cases h
  | cons f fs =>
    cases gs with
    | nil => cases h
    | cons g gs => exact h

theorem map_under (h : SameFirst fs gs) (trail : Path) :
    SameFirst (fs.map (.under trail)) (gs.map (.under trail)) := by
  cases fs with
  | nil =>
    cases gs with
    | nil => exact .none
    | cons g gs => cases h
  | cons f fs =>
    cases gs with
    | nil => cases h
    | cons g gs =>
      cases h with
      | some hfg => exact .some (hfg.under trail)

theorem eq_nil_iff (h : SameFirst fs gs) : fs = [] ↔ gs = [] := by
  have hsome := isSome_eq_of_rel h
  cases fs <;> cases gs <;> simp_all

end SameFirst

/-- Of a rearranged list of keys the first unknown one may be another. -/
theorem undeclaredFailures_sameFirst (declared : List String) {keys keys' : List String}
    (h : keys.Perm keys') :
    SameFirst (undeclaredFailures declared keys) (undeclaredFailures declared keys') := by
  have hperm := h.filter fun k => !declared.contains k
  unfold undeclaredFailures
  cases hfs : keys.filter fun k => !declared.contains k with
  | nil =>
    rw [hfs] at hperm
    rw [hperm.symm.eq_nil]
  | cons key rest =>
    cases hgs : keys'.filter fun k => !declared.contains k with
    | nil =>
      rw [hfs, hgs] at hperm
      exact absurd hperm.eq_nil (List.cons_ne_nil _ _)
    | cons key' rest' => exact .some (@Failure.SamePlace.unexpected [] key key')

namespace Rules

variable {r r' : Rules} {v v' : Value}

theorem failures_sameFirst (hr : r.Reordered r') (hv : v.Reordered v') (hw : v.WellFormed) :
    SameFirst (r.failures v) (r'.failures v') := by
  have hbound : ∀ side b, boundFailures side b v = boundFailures side b v' := by
    intro side b
    unfold boundFailures
    rw [hv.measure?_eq]
  unfold failures
  rw [hr.min, hr.max, hbound, hbound]
  refine ((?_ : SameFirst _ _).append (.refl _)).append (.refl _)
  have hallowed := hr.allowed
  generalize r.allowed = allowed at hallowed ⊢
  generalize r'.allowed = allowed' at hallowed ⊢
  cases hallowed with
  | none => exact .nil
  | @some candidates candidates' hcandidates =>
    have hany : candidates.any (·.same v) = candidates'.any (·.same v') := by
      rw [Bool.eq_iff_iff, List.any_eq_true, List.any_eq_true]
      exact hcandidates.exists_iff fun a _ a' _ ha => Value.same_iff ha hv hw
    dsimp only
    rw [hany]
    split
    · exact .nil
    · exact .here rfl

/-- A container is prepared for nothing that it is not already. -/
theorem prepared_of_container {t : Tag} (h : v.tag.isContainer) : r.prepared t v = v := by
  have hcoerce : coerce v t = if v.tag = t then some .kept else none := by
    unfold coerce
    cases v with
    | array items => cases t <;> rfl
    | object fields => cases t <;> rfl
    | number n => cases n <;> cases h
    | _ => cases h
  unfold prepared
  rw [hcoerce]
  split
  · split <;> rfl
  · rfl

theorem prepared_reordered (hr : r.Reordered r') (hv : v.Reordered v') (t : Tag) :
    (r.prepared t v).Reordered (r'.prepared t v') := by
  cases hcontainer : v.tag.isContainer with
  | false =>
    rw [hv.eq_of_scalar hcontainer]
    unfold prepared
    rw [hr.coerces]
  | true =>
    rw [prepared_of_container hcontainer, prepared_of_container (hv.tag_eq ▸ hcontainer)]
    exact hv

theorem wellFormed_prepared {t : Tag} (hw : v.WellFormed) (ht : (r.prepared t v).tag = t) :
    (r.prepared t v).WellFormed := by
  cases hcontainer : t.isContainer with
  | false =>
    rw [← ht] at hcontainer
    exact Value.wellFormed_of_scalar hcontainer
  | true =>
    rw [prepared_container hcontainer]
    exact hw

theorem failuresOnceAdmitted_sameFirst (hr : r.Reordered r') (hv : v.Reordered v')
    (hw : v.WellFormed) (expected : Option Tag) {rest rest' : Value → List Failure}
    (hrest : ∀ x y, x.Reordered y → x.WellFormed → SameFirst (rest x) (rest' y)) :
    SameFirst (r.failuresOnceAdmitted expected v rest)
      (r'.failuresOnceAdmitted expected v' rest') := by
  cases expected with
  | none => exact hrest v v' hv hw
  | some t =>
    have hprepared := prepared_reordered hr hv t
    unfold failuresOnceAdmitted
    dsimp only
    rw [← hprepared.tag_eq, ← hv.tag_eq]
    split
    · rename_i ht
      exact hrest _ _ hprepared (wellFormed_prepared hw ht)
    · exact .refl _

end Rules

/-! ### Reordered documents -/

section Documents

theorem flatMap_zipIdx_sameFirst {failures : Value → List Failure} {items items' : List Value}
    (hitems : List.Forall₂ Value.Reordered items items')
    (h : ∀ x ∈ items, ∀ y, x.Reordered y → SameFirst (failures x) (failures y)) (i : Nat) :
    SameFirst ((items.zipIdx i).flatMap fun e => (failures e.1).map (.atIndex e.2))
      ((items'.zipIdx i).flatMap fun e => (failures e.1).map (.atIndex e.2)) := by
  induction hitems generalizing i with
  | nil => exact .nil
  | cons hxy _ ih =>
    rw [List.forall_mem_cons] at h
    rw [List.zipIdx_cons, List.zipIdx_cons, List.flatMap_cons, List.flatMap_cons]
    exact ((h.1 _ hxy).map_under _).append (ih h.2 (i + 1))

theorem itemMismatches_sameFirst {want items items' : List Value}
    (hitems : List.Forall₂ Value.Reordered items items')
    (h : ∀ sample ∈ want, ∀ x ∈ items, ∀ y, x.Reordered y →
      SameFirst (sample.mismatches x) (sample.mismatches y)) (i : Nat) :
    SameFirst (itemMismatches want i items) (itemMismatches want i items') := by
  induction want generalizing i items items' with
  | nil => exact .nil
  | cons sample rest ih =>
    cases hitems with
    | nil => exact .nil
    | cons hxy hitems =>
      rw [List.forall_mem_cons] at h
      have hhead := h.1 _ List.mem_cons_self _ hxy
      exact (hhead.map_under _).append
        (ih hitems (fun s hs x hx => h.2 s hs x (List.mem_cons_of_mem _ hx)) (i + 1))

/-- Declared fields are taken in the order of the shape, whatever that of the document is. -/
theorem fieldFailures_sameFirst {shape : List (String × Schema)}
    {fields fields' : List (String × Value)}
    (hfound : ∀ key, Option.Rel Value.Reordered (fields.lookup key) (fields'.lookup key))
    (h : ∀ e ∈ shape, ∀ x ∈ fields.lookup e.1, ∀ y, x.Reordered y →
      SameFirst (e.2.failures x) (e.2.failures y)) :
    SameFirst (Schema.fieldFailures shape fields) (Schema.fieldFailures shape fields') := by
  induction shape with
  | nil => exact .nil
  | cons e rest ih =>
    rw [List.forall_mem_cons] at h
    rw [Schema.fieldFailures, Schema.fieldFailures]
    refine .append ?_ (ih h.2)
    have hfound := hfound e.1
    replace h := h.1
    generalize fields.lookup e.1 = found at hfound h ⊢
    generalize fields'.lookup e.1 = found' at hfound ⊢
    cases hfound with
    | none => exact .refl _
    | some hxy => exact (h _ rfl _ hxy).map_under _

variable {v v' : Value}

theorem mismatches_sameFirst (sample : Value) (hv : v.Reordered v') (hw : v.WellFormed) :
    SameFirst (sample.mismatches v) (sample.mismatches v') := by
  induction sample using Value.induct generalizing v v' with
  | scalar sample harray hobject =>
    have hscalar := Value.isContainer_tag_eq_false harray hobject
    rw [mismatches_of_scalar hscalar, mismatches_of_scalar hscalar, ← hv.tag_eq]
    cases hcontainer : v.tag.isContainer with
    | false => rw [hv.eq_of_scalar hcontainer]
    | true => exact .refl _
  | array want ih =>
    cases hv with
    | scalar _ => exact .refl _
    | array hitems =>
      rw [Value.mismatches, Value.mismatches, ← hitems.length_eq]
      split
      · refine itemMismatches_sameFirst hitems (fun sample hs x hx y hxy => ?_) 0
        exact ih sample hs hxy (Value.itemsWellFormed_iff.mp hw x hx)
      · exact .refl _
    | object _ _ =>
      simp only [Value.mismatches]
      exact .refl _
  | object want ih =>
    cases hv with
    | scalar _ => exact .refl _
    | array _ =>
      simp only [Value.mismatches]
      exact .refl _
    | object hrel hperm =>
      have hv := Value.Reordered.object hrel hperm
      rw [Value.mismatches, Value.mismatches, Schema.fieldMismatches_eq,
        Schema.fieldMismatches_eq]
      refine .append (fieldFailures_sameFirst (hv.lookup_rel hw) ?_)
        (undeclaredFailures_sameFirst _ (Entries.keys_perm (Value.reordered_object_iff.mp hv)))
      rw [List.forall_mem_map]
      intro e he x hx y hxy
      rw [Schema.failures_literal, Schema.failures_literal]
      have hmem := Entries.mem_of_lookup_eq_some hx
      exact ih e he hxy (Value.fieldsWellFormed_iff.mp hw.2 _ hmem)

theorem LeafKind.patternFailures_eq (kind : LeafKind) (hv : v.Reordered v') :
    kind.patternFailures v = kind.patternFailures v' := by
  cases kind with
  | string pattern =>
    cases hv with
    | scalar _ => rfl
    | array _ => cases pattern <;> rfl
    | object _ _ => cases pattern <;> rfl
  | _ => rfl

/-- At a leaf that is no sample the rules may be reordered, too. -/
theorem leafFailures_sameFirst (kind : LeafKind) {r r' : Rules} (hr : r.Reordered r')
    (hv : v.Reordered v') (hw : v.WellFormed) :
    SameFirst (r.failuresOnceAdmitted kind.tag? v fun w => r.failures w ++ kind.patternFailures w)
      (r'.failuresOnceAdmitted kind.tag? v' fun w =>
        r'.failures w ++ kind.patternFailures w) := by
  refine Rules.failuresOnceAdmitted_sameFirst hr hv hw _ fun x y hxy hx => ?_
  rw [kind.patternFailures_eq hxy]
  exact (Rules.failures_sameFirst hr hxy hx).append (.refl _)

namespace Schema

theorem failures_leaf {kind : LeafKind} (hk : ∀ sample, kind ≠ .literal sample) (r : Rules)
    (v : Value) :
    (leaf kind r).failures v = if v.isNull && r.acceptsNull then [] else
      r.failuresOnceAdmitted kind.tag? v fun w => r.failures w ++ kind.patternFailures w := by
  rw [failures]
  exact hk

/-- The failures of a reordered document begin at the same place. -/
theorem failures_sameFirst (s : Schema) (hv : v.Reordered v') (hw : v.WellFormed) :
    SameFirst (s.failures v) (s.failures v') := by
  induction s using Schema.induct generalizing v v' with
  | leaf kind r =>
    by_cases hk : ∃ sample, kind = .literal sample
    · obtain ⟨sample, rfl⟩ := hk
      rw [failures, failures, hv.isNull_eq]
      split
      · exact .nil
      · exact mismatches_sameFirst sample hv hw
    · rw [failures_leaf (not_exists.mp hk), failures_leaf (not_exists.mp hk), hv.isNull_eq]
      split
      · exact .nil
      · exact leafFailures_sameFirst kind (.refl r) hv hw
  | array element r ih =>
    rw [failures, failures, hv.isNull_eq]
    split
    · exact .nil
    · refine Rules.failuresOnceAdmitted_sameFirst (.refl r) hv hw _ fun x y hxy hx => ?_
      refine (Rules.failures_sameFirst (.refl r) hxy hx).append ?_
      cases hxy with
      | scalar _ => exact .refl _
      | array hitems =>
        refine flatMap_zipIdx_sameFirst hitems (fun x hmem y hxy => ?_) 0
        exact ih hxy (Value.itemsWellFormed_iff.mp hx x hmem)
      | object _ _ => exact .nil
  | object shape isOpen r ih =>
    rw [failures, failures, hv.isNull_eq]
    split
    · exact .nil
    · refine Rules.failuresOnceAdmitted_sameFirst (.refl r) hv hw _ fun x y hxy hx => ?_
      refine (Rules.failures_sameFirst (.refl r) hxy hx).append ?_
      cases hxy with
      | scalar _ => exact .refl _
      | array _ => exact .nil
      | object hrel hperm =>
        have hxy := Value.Reordered.object hrel hperm
        refine .append (fieldFailures_sameFirst (hxy.lookup_rel hx) fun e he z hz y hzy => ?_) ?_
        · have hmem := Entries.mem_of_lookup_eq_some hz
          exact ih e he hzy (Value.fieldsWellFormed_iff.mp hx.2 _ hmem)
        · split
          · exact .nil
          · exact undeclaredFailures_sameFirst _
              (Entries.keys_perm (Value.reordered_object_iff.mp hxy))

end Schema
end Documents

/-! ### Reordered schemas -/

namespace Schema

theorem admitsField_iff {s s' : Schema} (hs : s.Reordered s') {found : Option Value}
    (h : ∀ x ∈ found, (s.valid x ↔ s'.valid x)) : s.AdmitsField found ↔ s'.AdmitsField found := by
  cases found with
  | none => rw [AdmitsField, AdmitsField, hs.isOptional_eq]
  | some x => exact h x rfl

/-- Whether a document looks like a sample does not depend on the order of keys in the sample. -/
theorem mismatches_eq_nil_iff {sample sample' : Value} (h : sample.Reordered sample') (v : Value) :
    sample.mismatches v = [] ↔ sample'.mismatches v = [] := by
  induction sample using Value.induct generalizing sample' v with
  | scalar sample harray hobject =>
    rw [h.eq_of_scalar (Value.isContainer_tag_eq_false harray hobject)]
  | array want ih =>
    obtain ⟨want', rfl, hwant⟩ := h.exists_items
    cases v with
    | array items =>
      rw [Value.mismatches, Value.mismatches, hwant.length_eq]
      split
      · rename_i hlength
        rw [itemMismatches_eq_nil_iff (hwant.length_eq.trans hlength),
          itemMismatches_eq_nil_iff hlength]
        have hsame : List.Forall₂ Eq items items := List.forall₂_same.mpr fun _ _ => rfl
        refine forall₂_iff_forall₂ hwant hsame fun sample hs x _ sample' _ hsample hx => ?_
        rw [← hx]
        exact ih sample hs hsample x
      · simp
    | _ => simp [Value.mismatches, Value.tag, Tag.isContainer]
  | object want ih =>
    obtain ⟨want', rfl, hwant⟩ := h.exists_fields
    cases v with
    | object fields =>
      rw [Value.mismatches, Value.mismatches, List.append_eq_nil_iff, List.append_eq_nil_iff,
        fieldMismatches_eq, fieldMismatches_eq, fieldFailures_eq_nil_iff,
        fieldFailures_eq_nil_iff, List.forall_mem_map, List.forall_mem_map,
        undeclaredFailures_eq_nil_iff, undeclaredFailures_eq_nil_iff]
      refine and_congr (hwant.forall_iff fun e he e' _ hee' => ?_) ?_
      · cases hee' with
        | intro hsample =>
          refine admitsField_iff (reordered_literal hsample) fun x _ => ?_
          rw [valid_iff_failures_eq_nil, valid_iff_failures_eq_nil, failures_literal,
            failures_literal]
          exact ih _ he hsample x
      · simp only [(Entries.keys_perm hwant).mem_iff]
    | _ => simp [Value.mismatches, Value.tag, Tag.isContainer]

theorem valid_leaf_iff_of_reordered {kind kind' : LeafKind} {r r' : Rules}
    (hk : kind.Reordered kind') (hr : r.Reordered r') {v : Value} (hw : v.WellFormed) :
    (leaf kind r).valid v ↔ (leaf kind' r').valid v := by
  rw [valid_iff_failures_eq_nil, valid_iff_failures_eq_nil]
  by_cases hliteral : ∃ sample, kind = .literal sample
  · obtain ⟨sample, rfl⟩ := hliteral
    obtain ⟨sample', rfl, hsample⟩ := hk.exists_sample
    rw [failures, failures, hr.acceptsNull_eq]
    split
    · exact Iff.rfl
    · exact mismatches_eq_nil_iff hsample v
  · have hkind := not_exists.mp hliteral
    obtain rfl := hk.eq_of_not_literal hkind
    rw [failures_leaf hkind, failures_leaf hkind, hr.acceptsNull_eq]
    split
    · exact Iff.rfl
    · exact (leafFailures_sameFirst kind' hr (.refl v) hw).eq_nil_iff

/-- A reordered schema accepts the same documents. -/
theorem valid_iff_of_reordered {s s' : Schema} (hs : s.Reordered s') {v : Value}
    (hw : v.WellFormed) : s.valid v ↔ s'.valid v := by
  induction s using Schema.induct generalizing s' v with
  | leaf kind r =>
    cases hs with
    | leaf hk hr => exact valid_leaf_iff_of_reordered hk hr hw
  | array element r ih =>
    cases hs with
    | array helement hr =>
      rw [valid_array_iff, valid_array_iff, hr.acceptsNull_eq]
      refine or_congr_right (exists_congr fun items => and_congr_right ?_)
      rintro rfl
      refine and_congr (Rules.failures_sameFirst hr (.refl _) hw).eq_nil_iff ?_
      exact forall₂_congr fun x hx => ih helement (Value.itemsWellFormed_iff.mp hw x hx)
  | object shape isOpen r ih =>
    cases hs with
    | object hrel hperm hr =>
      have hshape : Rearranged (Entries.AtKey Reordered) shape _ := ⟨_, hrel, hperm⟩
      rw [valid_object_iff, valid_object_iff, hr.acceptsNull_eq]
      refine or_congr_right (exists_congr fun fields => and_congr_right ?_)
      rintro rfl
      refine and_congr (Rules.failures_sameFirst hr (.refl _) hw).eq_nil_iff
        (and_congr ?_ (or_congr_right ?_))
      · refine hshape.forall_iff fun e he e' _ hee' => ?_
        cases hee' with
        | intro hs =>
          refine admitsField_iff hs fun x hx => ih _ he hs ?_
          exact Value.fieldsWellFormed_iff.mp hw.2 _ (Entries.mem_of_lookup_eq_some hx)
      · simp only [(Entries.keys_perm hshape).mem_iff]

/-! ### Results -/

theorem skips_eq {s s' : Schema} (hs : s.Reordered s') {v v' : Value} (hv : v.Reordered v') :
    s.skips v = s'.skips v' := by
  rw [skips, skips, hv.isNull_eq, hs.rules.acceptsNull_eq]

/-- Whether two schemas parse reordered documents to reordered ones. -/
def ParsesAlike (s s' : Schema) : Prop :=
  ∀ v v' w w' : Value, v.Reordered v' → v.WellFormed → s.parse v = .ok w →
    s'.parse v' = .ok w' → w.Reordered w'

/-- A null that is accepted becomes the default of either schema, and these are reordered. What
remains are the other nodes. -/
theorem parsesAlike_of_not_skipped {s s' : Schema} (hs : s.Reordered s')
    (h : ∀ v v' w w' : Value, v.Reordered v' → v.WellFormed → s.skips v = false →
      s'.skips v' = false → s.parse v = .ok w → s'.parse v' = .ok w' → w.Reordered w') :
    s.ParsesAlike s' := by
  intro v v' w w' hv hw hparse hparse'
  cases hskips : s.skips v with
  | false => exact h v v' w w' hv hw hskips ((skips_eq hs hv).symm.trans hskips) hparse hparse'
  | true =>
    have hskips' : s'.skips v' := (skips_eq hs hv).symm.trans hskips
    rw [parse_of_skips hskips] at hparse
    rw [parse_of_skips hskips'] at hparse'
    cases hparse
    cases hparse'
    have hdefault := hs.rules.default
    generalize s.rules.default = d at hdefault ⊢
    generalize s'.rules.default = d' at hdefault ⊢
    cases hdefault with
    | none => exact .refl .null
    | some hd => exact hd

theorem parsesAlike_leaf {kind kind' : LeafKind} {r r' : Rules} (hk : kind.Reordered kind')
    (hr : r.Reordered r') : (leaf kind r).ParsesAlike (.leaf kind' r') := by
  refine parsesAlike_of_not_skipped (.leaf hk hr) fun v v' w w' hv _ hskips hskips' h h' => ?_
  cases ht : kind.tag? with
  | none =>
    rw [eq_of_parse_untagged_leaf ht hskips h,
      eq_of_parse_untagged_leaf (hk.tag?_eq ▸ ht) hskips' h']
    exact hv
  | some t =>
    rw [((parse_leaf_eq_ok_iff ht hskips).mp h).1,
      ((parse_leaf_eq_ok_iff (hk.tag?_eq ▸ ht) hskips').mp h').1]
    exact Rules.prepared_reordered hr hv t

theorem parsesAlike_array {element element' : Schema} (helement : element.Reordered element')
    {r r' : Rules} (hr : r.Reordered r') (h : element.ParsesAlike element') :
    (array element r).ParsesAlike (.array element' r') := by
  refine parsesAlike_of_not_skipped (.array helement hr)
    fun v v' _ _ hv hw hskips hskips' hp hp' => ?_
  obtain ⟨items, ws, rfl, -, hws, rfl⟩ := (parse_array_eq_ok_iff hskips).mp hp
  obtain ⟨items', ws', rfl, -, hws', rfl⟩ := (parse_array_eq_ok_iff hskips').mp hp'
  obtain ⟨_, heq, hitems⟩ := hv.exists_items
  cases heq
  refine .array (forall₂_of_forall₂ hitems (mapM_eq_ok_iff.mp hws) (mapM_eq_ok_iff.mp hws') ?_)
  intro x hx y w w' hxy hw₁ hw₂
  exact h x y w w' hxy (Value.itemsWellFormed_iff.mp hw x hx) hw₁ hw₂

/-- What a declared field leads to is reordered as the field is. -/
theorem ParsesAlike.settled_rel {s s' : Schema} (h : s.ParsesAlike s') (hs : s.Reordered s')
    {found found' settled settled' : Option Value}
    (hfound : Option.Rel Value.Reordered found found') (hw : ∀ x ∈ found, x.WellFormed)
    (hsettled : s.SettlesField found settled) (hsettled' : s'.SettlesField found' settled') :
    Option.Rel Value.Reordered settled settled' := by
  cases hfound with
  | none =>
    rw [hsettled.2, hsettled'.2]
    exact hs.rules.default
  | some hxy =>
    obtain ⟨w, hparse, rfl⟩ := hsettled
    obtain ⟨w', hparse', rfl⟩ := hsettled'
    exact .some (h _ _ w w' hxy (hw _ rfl) hparse hparse')

theorem parsesAlike_object {shape shape' : List (String × Schema)} {isOpen : Bool} {r r' : Rules}
    (hshape : Rearranged (Entries.AtKey Reordered) shape shape') (hr : r.Reordered r')
    (hn : (Entries.keys shape).Nodup)
    (h : ∀ e ∈ shape, ∀ t, e.2.Reordered t → e.2.ParsesAlike t) :
    (object shape isOpen r).ParsesAlike (.object shape' isOpen r') := by
  refine parsesAlike_of_not_skipped (reordered_object_iff.mpr ⟨hshape, hr⟩)
    fun v v' _ _ hv hw hskips hskips' hparse hparse' => ?_
  have hn' : (Entries.keys shape').Nodup := (Entries.keys_perm hshape).nodup_iff.mp hn
  obtain ⟨fields, patches, rfl, -, hp, -, rfl⟩ := (parse_object_eq_ok_iff hskips).mp hparse
  obtain ⟨fields', patches', rfl, -, hp', -, rfl⟩ := (parse_object_eq_ok_iff hskips').mp hparse'
  refine Value.reordered_object_iff.mpr (Entries.rearranged_of_lookup
    (Entries.nodup_keys_insertAll hw.1 _) (Entries.nodup_keys_insertAll (hv.wellFormed hw).1 _)
    fun key => ?_)
  have hfound := hv.lookup_rel hw key
  by_cases hkey : key ∈ Entries.keys shape
  · obtain ⟨t, ht⟩ := Entries.mem_keys_iff.mp hkey
    obtain ⟨e', he', hee'⟩ := hshape.exists_right ht
    cases hee' with
    | intro hs =>
      refine (h _ ht _ hs).settled_rel hs hfound (fun x hx => ?_)
        (settlesField_of_checkFields hn hp _ ht) (settlesField_of_checkFields hn' hp' _ he')
      exact Value.fieldsWellFormed_iff.mp hw.2 _ (Entries.mem_of_lookup_eq_some hx)
  · have hkey' : key ∉ Entries.keys shape' := by
      rwa [← (Entries.keys_perm hshape).mem_iff]
    rw [lookup_of_checkFields hn hp hkey, lookup_of_checkFields hn' hp' hkey']
    exact hfound

/-- Reordered schemas parse reordered documents to reordered ones. -/
theorem parsesAlike_of_reordered {s s' : Schema} (hs : s.Reordered s') (hd : s.WellFormed) :
    s.ParsesAlike s' := by
  induction s using Schema.induct generalizing s' with
  | leaf kind r =>
    cases hs with
    | leaf hk hr => exact parsesAlike_leaf hk hr
  | array element r ih =>
    cases hs with
    | array helement hr => exact parsesAlike_array helement hr (ih helement hd.2)
  | object shape isOpen r ih =>
    cases hs with
    | object hrel hperm hr =>
      obtain ⟨hn, hfields⟩ := wellFormed_object_iff.mp hd
      exact parsesAlike_object ⟨_, hrel, hperm⟩ hr hn fun e he t ht => ih e he ht (hfields e he)

/-- Neither the order of keys in a document, at any depth, nor the order of declared fields, of the
keys of samples and of values in rules, decides about acceptance. What is accepted parses to the
same result but for the order of keys. And if the order of the document alone is changed, the same
rule fails at the same node, or both times a key that the same mapping may not have. -/
theorem valid_parse_error?_reordered {s s' : Schema} (hs : s.Reordered s') (hd : s.WellFormed)
    {v v' : Value} (hv : v.Reordered v') (hw : v.WellFormed) :
    (s.valid v ↔ s'.valid v') ∧
    (s.valid v → ∃ w w', s.parse v = .ok w ∧ s'.parse v' = .ok w' ∧ w.Reordered w') ∧
    Option.Rel Failure.SamePlace (s.error? v) (s.error? v') := by
  have herror : Option.Rel Failure.SamePlace (s.error? v) (s.error? v') := by
    rw [error?_eq_head?, error?_eq_head?]
    exact failures_sameFirst s hv hw
  have hvalid : s.valid v ↔ s'.valid v' := by
    have hsame : s.valid v = s.valid v' := by
      rw [valid, valid, ← Option.not_isSome, ← Option.not_isSome, isSome_eq_of_rel herror]
    rw [hsame]
    exact valid_iff_of_reordered hs (hv.wellFormed hw)
  refine ⟨hvalid, fun hpass => ?_, herror⟩
  obtain ⟨w, hparse⟩ := valid_iff_parse.mp hpass
  obtain ⟨w', hparse'⟩ := valid_iff_parse.mp (hvalid.mp hpass)
  exact ⟨w, w', hparse, hparse', parsesAlike_of_reordered hs hd v v' w w' hv hw hparse hparse'⟩

/-- An object with a sample, an allowed mapping and a default, declared in two orders, and a
document in two orders. -/
theorem valid_parse_error?_reordered_sample_and_default :
    ∃ w w', (object [("id", literal (.object [("x", .null), ("y", .bool true)])),
          ("tag", .leaf .any { allowed := some [.object [("p", .null), ("q", .null)]] }),
          ("n", .leaf .integer { isOptional := true, default := some (.number (.integer 7)) })]
          false {}).parse (.object [("tag", .object [("p", .null), ("q", .null)]),
            ("id", .object [("x", .null), ("y", .bool true)])]) = .ok w ∧
      (object [("tag", .leaf .any { allowed := some [.object [("q", .null), ("p", .null)]] }),
          ("id", literal (.object [("y", .bool true), ("x", .null)])),
          ("n", .leaf .integer { isOptional := true, default := some (.number (.integer 7)) })]
          false {}).parse (.object [("id", .object [("y", .bool true), ("x", .null)]),
            ("tag", .object [("p", .null), ("q", .null)])]) = .ok w' ∧
      w.Reordered w' := by
  have hxy : (Value.object [("x", .null), ("y", .bool true)]).Reordered
      (.object [("y", .bool true), ("x", .null)]) :=
    .object (List.forall₂_same.mpr fun _ _ => .intro (.refl _)) (.swap _ _ _)
  have hpq : (Value.object [("p", .null), ("q", .null)]).Reordered
      (.object [("q", .null), ("p", .null)]) :=
    .object (List.forall₂_same.mpr fun _ _ => .intro (.refl _)) (.swap _ _ _)
  refine (valid_parse_error?_reordered ?_ ?_ ?_ ?_).2.1 ?_
  · refine .object (.cons (.intro (reordered_literal hxy)) (.cons (.intro (.leaf rfl ?_))
      (.cons (.intro (.refl _)) .nil))) (.swap _ _ _) (.refl _)
    exact { Rules.Reordered.refl {} with
      allowed := .some ⟨_, .cons hpq .nil, .refl _⟩ }
  · simp [WellFormed, EachNode, EachField, DeclaresOnce, literal, ofKind]
  · exact .object (.cons (.intro (.refl _)) (.cons (.intro hxy) .nil)) (.swap _ _ _)
  · simp [Value.WellFormed, Value.FieldsWellFormed]
  · decide +kernel

end Schema
end DocShape
