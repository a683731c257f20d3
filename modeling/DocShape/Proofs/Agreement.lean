import DocShape.Proofs.JoinLaws
import DocShape.Proofs.ShapeTree

/-!
Agreement of shapes: equality up to the order of fields, counts included.

Two runs that see the same samples in another order list the same fields in another order. Where no
key is listed twice, records agree exactly when the same is found at each key, and that does not
depend on which record comes first.

* `WellFormed`: no record in the shape lists a key twice. Observed shapes are well-formed, and joins
  of well-formed shapes: `wellFormed_of_summarizes`, `wellFormed_join`.
* `recordsAgree_iff`: agreement of records, key by key.
* `agrees_refl`, `agrees_join_comm`: a shape agrees with itself, and a join with the join the other
  way round.
* `lower_join_self`: what is seen a second time changes counts, but not the schema.
* `join_agrees`: the laws of joins under agreement.
-/

namespace DocShape

namespace Shape

/-- What holds of a shape where it holds of the elements and of all fields holds of all shapes. -/
theorem induct {p : Shape → Prop}
    (node : ∀ k i r, (∀ e ∈ i, p e) → (∀ rec ∈ r, ∀ e ∈ rec.fields, p e.2.shape) → p (.mk k i r))
    (s : Shape) : p s :=
  @Shape.rec p (fun i => ∀ e ∈ i, p e) (fun r => ∀ rec ∈ r, ∀ e ∈ rec.fields, p e.2.shape)
    (fun rec => ∀ e ∈ rec.fields, p e.2.shape) (fun fields => ∀ e ∈ fields, p e.2.shape)
    (fun e => p e.2.shape) (fun f => p f.shape) node nofun
    (fun _ he => by simpa using he) nofun (fun _ hrec => by simpa using hrec) (fun _ _ hf => hf)
    (List.forall_mem_nil _) (fun _ _ he hrest => List.forall_mem_cons.mpr ⟨he, hrest⟩)
    (fun _ _ hf => hf) (fun _ _ hs => hs) s

/-! ### Well-formed shapes -/

/-- Whether a record at the node, if there is one, lists each key once. -/
def ListsOnce (s : Shape) : Prop :=
  ∀ rec ∈ s.record, (Entries.keys rec.fields).Nodup

/-- No record in the shape lists a key twice. -/
def WellFormed (s : Shape) : Prop :=
  s.EachNode ListsOnce

theorem wellFormed_mk_iff {k : ScalarKinds} {i : Option Shape} {r : Option (RecordShape Shape)} :
    (mk k i r).WellFormed ↔ (∀ e ∈ i, e.WellFormed) ∧
      ∀ rec ∈ r, (Entries.keys rec.fields).Nodup ∧ ∀ e ∈ rec.fields, e.2.shape.WellFormed := by
  unfold WellFormed
  have hitems : EachInItems ListsOnce i ↔ ∀ e ∈ i, EachNode ListsOnce e := by
    cases i <;> simp [EachInItems]
  have hrecord : EachInRecord ListsOnce r ↔
      ∀ rec ∈ r, ∀ e ∈ rec.fields, EachNode ListsOnce e.2.shape := by
    cases r with
    | none => simp [EachInRecord]
    | some rec => simp [EachInRecord, eachInFields_iff]
  rw [EachNode, hitems, hrecord, and_left_comm]
  refine and_congr_right fun _ => ?_
  constructor
  · rintro ⟨honce, hfields⟩ rec hrec
    exact ⟨honce rec hrec, hfields rec hrec⟩
  · intro h
    exact ⟨fun rec hrec => (h rec hrec).1, fun rec hrec => (h rec hrec).2⟩

/-- Shapes of samples are well-formed. -/
theorem wellFormed_of_summarizes {s : Shape} {samples : List Value} (h : s.Summarizes samples) :
    s.WellFormed := by
  refine eachNode_of_summarizes (fun t xs ht => ?_) s h
  obtain ⟨k, i, r⟩ := t
  rintro ⟨seen, fields⟩ hrecord
  cases hrecord
  obtain ⟨-, -, -, -, hn, -⟩ := ht
  exact hn

/-- A join of well-formed shapes is well-formed: it lists the keys of both, each once. -/
theorem wellFormed_join {a b : Shape} (ha : a.WellFormed) (hb : b.WellFormed) :
    (a.join b).WellFormed := by
  induction a using Shape.induct generalizing b with
  | node k i r ihItems ihFields =>
    obtain ⟨k', i', r'⟩ := b
    rw [wellFormed_mk_iff] at ha hb
    rw [join, wellFormed_mk_iff]
    constructor
    · intro e he
      cases i with
      | none => exact hb.1 e he
      | some s =>
        cases i' with
        | none => exact ha.1 e he
        | some t =>
          cases he
          exact ihItems s rfl (ha.1 s rfl) (hb.1 t rfl)
    · intro rec hrec
      cases r with
      | none => exact hb.2 rec hrec
      | some rec₁ =>
        cases r' with
        | none => exact ha.2 rec hrec
        | some rec₂ =>
          obtain ⟨n, fs⟩ := rec₁
          obtain ⟨m, gs⟩ := rec₂
          obtain ⟨hfs, hf⟩ := ha.2 _ rfl
          obtain ⟨hgs, hg⟩ := hb.2 _ rfl
          rw [joinRecords_some] at hrec
          cases hrec
          refine ⟨nodup_keys_joined hfs hgs, fun e he => ?_⟩
          rcases List.mem_append.mp he with he | he
          · rw [joinFields_eq_map, List.mem_map] at he
            obtain ⟨f, hmem, rfl⟩ := he
            cases hl : gs.lookup f.1 with
            | none => exact hf f hmem
            | some g =>
              exact ihFields _ rfl f hmem (hf f hmem)
                (hg (f.1, g) (Entries.mem_of_lookup_eq_some hl))
          · exact hg e (List.mem_filter.mp he).1

/-! ### Agreement, key by key -/

end Shape

/-- Fields agree if they were seen equally often with shapes that agree. -/
def FieldShape.agrees (f g : FieldShape Shape) : Prop :=
  f.presentIn = g.presentIn ∧ f.shape.agrees g.shape

namespace Shape

theorem fieldsAgree_iff {fs gs : List (String × FieldShape Shape)} :
    fieldsAgree fs gs ↔ ∀ e ∈ fs, ∃ g, gs.lookup e.1 = some g ∧ e.2.agrees g := by
  induction fs with
  | nil => simp [fieldsAgree]
  | cons e rest ih =>
    obtain ⟨k, n, s⟩ := e
    rw [fieldsAgree, Bool.and_eq_true, ih, List.forall_mem_cons]
    refine and_congr_left fun _ => ?_
    cases gs.lookup k with
    | none => simp
    | some g => simp [FieldShape.agrees]

/-- Records agree if they count as many objects and the same is found at each key. -/
theorem recordsAgree_iff {n m : Nat} {fs gs : List (String × FieldShape Shape)}
    (hf : (Entries.keys fs).Nodup) (hg : (Entries.keys gs).Nodup) :
    recordsAgree (some ⟨n, fs⟩) (some ⟨m, gs⟩) ↔
      n = m ∧ ∀ key, Option.Rel FieldShape.agrees (fs.lookup key) (gs.lookup key) := by
  rw [recordsAgree, Bool.and_eq_true, Bool.and_eq_true, beq_iff_eq, beq_iff_eq, fieldsAgree_iff,
    and_assoc]
  refine and_congr_right fun _ => ?_
  constructor
  · rintro ⟨hlength, hfields⟩ key
    have hsubset : Entries.keys fs ⊆ Entries.keys gs := by
      intro k hk
      obtain ⟨f, hmem⟩ := Entries.mem_keys_iff.mp hk
      obtain ⟨g, hl, -⟩ := hfields (k, f) hmem
      exact Entries.mem_keys_of_lookup_eq_some hl
    cases hl : fs.lookup key with
    | some f =>
      obtain ⟨g, hl', hagree⟩ := hfields (key, f) (Entries.mem_of_lookup_eq_some hl)
      rw [hl']
      exact .some hagree
    | none =>
      rw [Entries.lookup_eq_none_iff_notMem,
        Entries.mem_keys_iff_of_subset hf hlength hsubset] at hl
      rw [Entries.lookup_eq_none_iff_notMem.mpr hl]
      exact .none
  · intro hrel
    have hkeys : ∀ key, key ∈ Entries.keys fs ↔ key ∈ Entries.keys gs := by
      intro key
      rw [← not_iff_not, ← Entries.lookup_eq_none_iff_notMem,
        ← Entries.lookup_eq_none_iff_notMem]
      have := hrel key
      revert this
      cases fs.lookup key <;> cases gs.lookup key <;> simp
    refine ⟨Entries.length_eq_of_mem_keys_iff hf hg hkeys, fun e he => ?_⟩
    have hfound := hrel e.1
    rw [Entries.lookup_of_mem hf he] at hfound
    generalize gs.lookup e.1 = found at hfound
    cases hfound with
    | some hagree => exact ⟨_, rfl, hagree⟩

theorem agrees_mk_iff {k k' : ScalarKinds} {i i' : Option Shape}
    {r r' : Option (RecordShape Shape)} :
    (mk k i r).agrees (mk k' i' r') ↔ k = k' ∧ itemsAgree i i' ∧ recordsAgree r r' := by
  rw [agrees, Bool.and_eq_true, Bool.and_eq_true, beq_iff_eq, and_assoc]

theorem agrees_refl {s : Shape} (h : s.WellFormed) : s.agrees s := by
  induction s using Shape.induct with
  | node k i r ihItems ihFields =>
    rw [wellFormed_mk_iff] at h
    rw [agrees_mk_iff]
    refine ⟨rfl, ?_, ?_⟩
    · cases i with
      | none => rfl
      | some e => exact ihItems e rfl (h.1 e rfl)
    · cases r with
      | none => rfl
      | some rec =>
        obtain ⟨n, fs⟩ := rec
        obtain ⟨hn, hfields⟩ := h.2 _ rfl
        refine (recordsAgree_iff hn hn).mpr ⟨rfl, fun key => ?_⟩
        cases hl : fs.lookup key with
        | none => exact .none
        | some f =>
          have hmem := Entries.mem_of_lookup_eq_some hl
          exact .some ⟨rfl, ihFields _ rfl _ hmem (hfields _ hmem)⟩

theorem recordsAgree_refl {r : Option (RecordShape Shape)}
    (h : ∀ rec ∈ r, (Entries.keys rec.fields).Nodup ∧ ∀ e ∈ rec.fields, e.2.shape.WellFormed) :
    recordsAgree r r := by
  have hwf : (mk {} none r).WellFormed := wellFormed_mk_iff.mpr ⟨nofun, h⟩
  exact (agrees_mk_iff.mp (agrees_refl hwf)).2.2

/-! ### Joins the other way round -/

theorem union_comm (a b : ScalarKinds) : a.union b = b.union a := by
  simp [ScalarKinds.union, Bool.or_comm]

/-- Joined fields agree either way round at each key, given that the shapes of joined fields do.
What only one record lists agrees with itself. -/
theorem rel_lookup_joinedFields {fs gs : List (String × FieldShape Shape)}
    (hf : ∀ e ∈ fs, e.2.shape.WellFormed) (hg : ∀ e ∈ gs, e.2.shape.WellFormed)
    (h : ∀ e ∈ fs, ∀ e' ∈ gs, (e.2.shape.join e'.2.shape).agrees (e'.2.shape.join e.2.shape))
    (key : String) :
    Option.Rel FieldShape.agrees ((joinedFields fs gs).lookup key)
      ((joinedFields gs fs).lookup key) := by
  rw [lookup_joinedFields, lookup_joinedFields]
  cases hl : fs.lookup key with
  | none =>
    cases hl' : gs.lookup key with
    | none => exact .none
    | some g => exact .some ⟨rfl, agrees_refl (hg _ (Entries.mem_of_lookup_eq_some hl'))⟩
  | some f =>
    have hmem := Entries.mem_of_lookup_eq_some hl
    cases hl' : gs.lookup key with
    | none => exact .some ⟨rfl, agrees_refl (hf _ hmem)⟩
    | some g =>
      exact .some ⟨Nat.add_comm f.presentIn g.presentIn,
        h _ hmem _ (Entries.mem_of_lookup_eq_some hl')⟩

/-- A join agrees with the join the other way round. -/
theorem agrees_join_comm {a b : Shape} (ha : a.WellFormed) (hb : b.WellFormed) :
    (a.join b).agrees (b.join a) := by
  induction a using Shape.induct generalizing b with
  | node k i r ihItems ihFields =>
    obtain ⟨k', i', r'⟩ := b
    rw [wellFormed_mk_iff] at ha hb
    rw [join, join, agrees_mk_iff]
    refine ⟨union_comm k k', ?_, ?_⟩
    · cases i with
      | none =>
        cases i' with
        | none => rfl
        | some t => exact agrees_refl (hb.1 t rfl)
      | some s =>
        cases i' with
        | none => exact agrees_refl (ha.1 s rfl)
        | some t => exact ihItems s rfl (ha.1 s rfl) (hb.1 t rfl)
    · cases r with
      | none =>
        cases r' with
        | none => rfl
        | some rec => exact recordsAgree_refl hb.2
      | some rec =>
        cases r' with
        | none => exact recordsAgree_refl ha.2
        | some rec' =>
          obtain ⟨n, fs⟩ := rec
          obtain ⟨m, gs⟩ := rec'
          obtain ⟨hfs, hf⟩ := ha.2 _ rfl
          obtain ⟨hgs, hg⟩ := hb.2 _ rfl
          rw [joinRecords_some, joinRecords_some,
            recordsAgree_iff (nodup_keys_joined hfs hgs) (nodup_keys_joined hgs hfs)]
          refine ⟨Nat.add_comm n m, rel_lookup_joinedFields hf hg fun e he e' he' => ?_⟩
          exact ihFields _ rfl e he (hf e he) (hg e' he')

/-! ### What is seen twice -/

theorem kindCount_congr {k : ScalarKinds} {i i' : Option Shape} {r r' : Option (RecordShape Shape)}
    (hi : i.isSome = i'.isSome) (hr : r.isSome = r'.isSome) :
    (mk k i r).kindCount = (mk k i' r').kindCount := by
  simp only [kindCount, scalars, items, record, hi, hr]

theorem isSome_lowerItems (i : Option Shape) : (lowerItems i).isSome = i.isSome := by
  cases i <;> rfl

theorem isSome_lowerRecord (r : Option (RecordShape Shape)) :
    (lowerRecord r).isSome = r.isSome := by
  cases r <;> rfl

theorem lower_congr {k : ScalarKinds} {i i' : Option Shape} {r r' : Option (RecordShape Shape)}
    (hi : lowerItems i = lowerItems i') (hr : lowerRecord r = lowerRecord r') :
    (mk k i r).lower = (mk k i' r').lower := by
  have hcount : (mk k i r).kindCount = (mk k i' r').kindCount := by
    refine kindCount_congr ?_ ?_
    · rw [← isSome_lowerItems, hi, isSome_lowerItems]
    · rw [← isSome_lowerRecord, hr, isSome_lowerRecord]
  rw [lower, lower, hcount, hi, hr]

theorem lowerFields_eq_map (seen : Nat) (fields : List (String × FieldShape Shape)) :
    lowerFields seen fields = fields.map fun e =>
      (e.1, if e.2.presentIn < seen then e.2.shape.lower.modify .isOptional
        else e.2.shape.lower) := by
  induction fields with
  | nil => rfl
  | cons e rest ih =>
    obtain ⟨k, n, s⟩ := e
    rw [lowerFields, ih, List.map_cons]

/-- What is seen a second time changes the counts of objects and of fields alike, so the schema
remains the same. -/
theorem lower_join_self {s : Shape} (h : s.WellFormed) : (s.join s).lower = s.lower := by
  induction s using Shape.induct with
  | node k i r ihItems ihFields =>
    rw [wellFormed_mk_iff] at h
    have hk : k.union k = k := by
      simp [ScalarKinds.union]
    rw [join, hk]
    refine lower_congr ?_ ?_
    · cases i with
      | none => rfl
      | some e =>
        rw [joinItems, lowerItems, lowerItems, ihItems e rfl (h.1 e rfl)]
    · cases r with
      | none => rfl
      | some rec =>
        obtain ⟨n, fs⟩ := rec
        obtain ⟨hn, hfields⟩ := h.2 _ rfl
        have hnew : (fs.filter fun e => !Entries.contains fs e.1) = [] := by
          rw [List.filter_eq_nil_iff]
          intro e he
          simp [Entries.contains_iff.mpr (Entries.mem_keys_of_mem he)]
        rw [joinRecords_some, joinedFields, hnew, List.append_nil, lowerRecord, lowerRecord,
          lowerFields_eq_map, lowerFields_eq_map, joinFields_eq_map, List.map_map]
        refine congrArg (fun fields => some (Schema.objectOf fields)) ?_
        refine List.map_congr_left fun e he => ?_
        obtain ⟨key, f⟩ := e
        have hschema := ihFields _ rfl _ he (hfields _ he)
        have hcount : f.presentIn + f.presentIn < n + n ↔ f.presentIn < n := by
          omega
        simp only [Function.comp_apply, Entries.lookup_of_mem hn he, FieldShape.joinFound, hcount,
          hschema]

/-! ### The laws -/

/-- Up to the order of fields, joins are commutative and associative and a shape to which nothing is
added stays as it is, so the state after two parts of the samples is the join of the states after
each of them. A join of a shape with itself has other counts, but the same schema. -/
theorem join_agrees {a b c : Shape} (ha : a.WellFormed) (hb : b.WellFormed) (hc : c.WellFormed) :
    (a.join b).agrees (b.join a) ∧
      ((a.join b).join c).agrees (a.join (b.join c)) ∧
      (a.join bottom).agrees a ∧ (bottom.join a).agrees a ∧
      (∀ xs ys : List Value, (∀ v ∈ xs ++ ys, v.WellFormed) →
        (Inference.start.observeAll (xs ++ ys)).shape.agrees
            ((Inference.start.observeAll xs).shape.join (Inference.start.observeAll ys).shape) ∧
          (Inference.start.observeAll (xs ++ ys)).samples =
            (Inference.start.observeAll xs).samples + (Inference.start.observeAll ys).samples) ∧
      (a.join a).lower = a.lower ∧
      ∃ v : Value, v.WellFormed ∧ ((observe v).join (observe v)).agrees (observe v) = false := by
  have habc := wellFormed_join ha (wellFormed_join hb hc)
  refine ⟨agrees_join_comm ha hb, ?_, ?_, ?_, ?_, lower_join_self ha, ?_⟩
  · rw [join_assoc]
    exact agrees_refl habc
  · rw [join_bottom]
    exact agrees_refl ha
  · rw [bottom_join]
    exact agrees_refl ha
  · intro xs ys h
    have hparts : Inference.start.observeAll (xs ++ ys) =
        ⟨(Inference.start.observeAll xs).shape.join (Inference.start.observeAll ys).shape,
          (Inference.start.observeAll xs).samples + (Inference.start.observeAll ys).samples⟩ := by
      simp only [observeAll_eq, Inference.start, bottom_join, List.map_append, joinAll_append,
        List.length_append, Nat.zero_add]
    rw [hparts]
    refine ⟨agrees_refl ?_, rfl⟩
    have hwf := wellFormed_of_summarizes (summarizes_observeAll_start h)
    rw [hparts] at hwf
    exact hwf
  · -- A second object doubles the count of objects.
    exact ⟨.object [], ⟨List.nodup_nil, trivial⟩, rfl⟩

/-- Two records whose joins list their fields in two orders, and a string. -/
theorem join_agrees_records_and_string :
    ∃ a b c : Shape,
      a = observe (.object [("x", .number (.integer 1)), ("y", .array [.bool true])]) ∧
      b = observe (.object [("z", .null), ("x", .number (.float (.zero false)))]) ∧
      c = observe (.string "s") ∧
      (a.join b).agrees (b.join a) ∧ ((a.join b).join c).agrees (a.join (b.join c)) ∧
      (a.join bottom).agrees a ∧ (a.join a).lower = a.lower := by
  have hwf : ∀ v : Value, v.WellFormed → (observe v).WellFormed := by
    intro v hv
    exact wellFormed_of_summarizes (summarizes_observe v hv)
  obtain ⟨hcomm, hassoc, hbottom, -, -, hself, -⟩ := join_agrees
    (hwf (.object [("x", .number (.integer 1)), ("y", .array [.bool true])])
      (by simp [Value.WellFormed, Value.FieldsWellFormed, Value.ItemsWellFormed]))
    (hwf (.object [("z", .null), ("x", .number (.float (.zero false)))])
      (by simp [Value.WellFormed, Value.FieldsWellFormed]))
    (hwf (.string "s") trivial)
  exact ⟨_, _, _, rfl, rfl, rfl, hcomm, hassoc, hbottom, hself⟩

end Shape
end DocShape
