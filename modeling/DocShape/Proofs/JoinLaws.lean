import DocShape.Proofs.Summary

/-!
Laws of joined shapes.

A join keeps fields in the order in which they were seen first. So where three shapes are joined it
makes no difference which two come first, not even to the order of fields.

* `bottom_join`, `join_bottom`: nothing seen adds nothing.
* `join_assoc`: how joins are grouped makes no difference.
* `joinAll_append`, `observeAll_eq`: samples observed in two parts are those of both parts joined.
-/

namespace DocShape

/-- A field with what else was seen under its key. -/
def FieldShape.joinFound : FieldShape Shape → Option (FieldShape Shape) → FieldShape Shape
  | f, none => f
  | ⟨n, s⟩, some ⟨m, t⟩ => ⟨n + m, s.join t⟩

namespace Shape

variable {fs gs hs : List (String × FieldShape Shape)} {key : String}

theorem joinFields_eq_map (fs gs : List (String × FieldShape Shape)) :
    joinFields fs gs = fs.map fun e => (e.1, e.2.joinFound (gs.lookup e.1)) := by
  induction fs with
  | nil => rfl
  | cons e rest ih =>
    obtain ⟨k, n, s⟩ := e
    rw [joinFields, ih, List.map_cons]
    cases gs.lookup k <;> rfl

theorem joinFields_cons (k : String) (f : FieldShape Shape)
    (rest gs : List (String × FieldShape Shape)) :
    joinFields ((k, f) :: rest) gs = (k, f.joinFound (gs.lookup k)) :: joinFields rest gs := by
  simp only [joinFields_eq_map, List.map_cons]

theorem joinFields_append (fs fs' gs : List (String × FieldShape Shape)) :
    joinFields (fs ++ fs') gs = joinFields fs gs ++ joinFields fs' gs := by
  simp only [joinFields_eq_map, List.map_append]

/-- Fields picked by their keys are joined like all. -/
theorem joinFields_filter (p : String → Bool) (fs gs : List (String × FieldShape Shape)) :
    joinFields (fs.filter fun e => p e.1) gs = (joinFields fs gs).filter fun e => p e.1 := by
  rw [joinFields_eq_map, joinFields_eq_map, List.filter_map]
  rfl

theorem contains_joinedFields :
    Entries.contains (joinedFields fs gs) key =
      (Entries.contains fs key || Entries.contains gs key) := by
  rw [Bool.eq_iff_iff, Bool.or_eq_true]
  simp only [Entries.contains_iff]
  exact mem_keys_joined

theorem lookup_joinedFields :
    (joinedFields fs gs).lookup key =
      match fs.lookup key with
      | some f => some (f.joinFound (gs.lookup key))
      | none => gs.lookup key := by
  have hjoined : (joinFields fs gs).lookup key =
      (fs.lookup key).map (·.joinFound (gs.lookup key)) := by
    rw [joinFields_eq_map]
    exact Entries.lookup_map (fun k f => f.joinFound (gs.lookup k)) fs key
  rw [joinedFields, List.lookup_append, hjoined,
    Entries.lookup_filter (fun k => !Entries.contains fs k)]
  cases hl : fs.lookup key with
  | some f => rfl
  | none =>
    have hnew : Entries.contains fs key = false := by
      rw [← Bool.not_eq_true, Entries.contains_iff]
      exact Entries.lookup_eq_none_iff_notMem.mp hl
    simp [hnew]

/-! ### Nothing seen -/

theorem nil_joinedFields (gs : List (String × FieldShape Shape)) : joinedFields [] gs = gs := by
  rw [joinedFields, joinFields, List.nil_append, List.filter_eq_self]
  intro g _
  rfl

theorem joinedFields_nil (fs : List (String × FieldShape Shape)) : joinedFields fs [] = fs := by
  rw [joinedFields, joinFields_eq_map, List.filter_nil, List.append_nil]
  exact List.map_id fs

theorem bottom_join (s : Shape) : bottom.join s = s := by
  obtain ⟨k, i, r⟩ := s
  rfl

theorem join_bottom (s : Shape) : s.join bottom = s := by
  obtain ⟨k, i, r⟩ := s
  have hk : k.union {} = k := by
    simp [ScalarKinds.union]
  have hi : joinItems i none = i := by
    cases i <;> rfl
  have hr : joinRecords r none = r := by
    cases r <;> rfl
  rw [bottom, join, hk, hi, hr]

/-! ### Three shapes -/

theorem union_assoc (a b c : ScalarKinds) : (a.union b).union c = a.union (b.union c) := by
  simp [ScalarKinds.union, Bool.or_assoc]

/-- A field is joined with what was seen in two more records, given that its shape is. -/
theorem joinFound_joinFound {f : FieldShape Shape}
    (h : ∀ t u, (f.shape.join t).join u = f.shape.join (t.join u))
    (g g' : Option (FieldShape Shape)) :
    (f.joinFound g).joinFound g' =
      f.joinFound (match g with
        | some g => some (g.joinFound g')
        | none => g') := by
  obtain ⟨n, s⟩ := f
  cases g with
  | none => rfl
  | some g =>
    obtain ⟨m, t⟩ := g
    cases g' with
    | none => rfl
    | some g' =>
      obtain ⟨l, u⟩ := g'
      simp only [FieldShape.joinFound, Nat.add_assoc, h t u]

/-- Where fields are joined alike however they are grouped, the new ones come in the same order. -/
theorem joinedFields_assoc
    (h : joinFields (joinFields fs gs) hs = joinFields fs (joinedFields gs hs)) :
    joinedFields (joinedFields fs gs) hs = joinedFields fs (joinedFields gs hs) := by
  have hnew : (hs.filter fun e => !Entries.contains (joinedFields fs gs) e.1) =
      (hs.filter fun e => !Entries.contains gs e.1).filter fun e => !Entries.contains fs e.1 := by
    simp only [contains_joinedFields, List.filter_filter, Bool.not_or]
  calc joinedFields (joinedFields fs gs) hs
      = joinFields (joinFields fs gs) hs ++
          (joinFields gs hs).filter (fun e => !Entries.contains fs e.1) ++
          (hs.filter fun e => !Entries.contains gs e.1).filter fun e =>
            !Entries.contains fs e.1 := by
        rw [joinedFields, hnew, joinedFields, joinFields_append,
          joinFields_filter (fun k => !Entries.contains fs k)]
    _ = joinFields fs (joinedFields gs hs) ++
          (joinedFields gs hs).filter fun e => !Entries.contains fs e.1 := by
        rw [h, joinedFields, List.filter_append, List.append_assoc]

mutual
/-- How joins are grouped makes no difference. -/
theorem join_assoc : ∀ a b c : Shape, (a.join b).join c = a.join (b.join c)
  | .mk k i r, .mk k' i' r', .mk k'' i'' r'' => by
    rw [join, join, join, join, union_assoc, joinItems_assoc i i' i'',
      joinRecords_assoc r r' r'']

theorem joinItems_assoc : ∀ a b c : Option Shape,
    joinItems (joinItems a b) c = joinItems a (joinItems b c)
  | none, _, _ => rfl
  | some _, none, _ => rfl
  | some _, some _, none => rfl
  | some a, some b, some c => congrArg some (join_assoc a b c)

theorem joinRecords_assoc : ∀ a b c : Option (RecordShape Shape),
    joinRecords (joinRecords a b) c = joinRecords a (joinRecords b c)
  | none, _, _ => rfl
  | some ⟨_, _⟩, none, _ => rfl
  | some ⟨_, _⟩, some ⟨_, _⟩, none => rfl
  | some ⟨n, fs⟩, some ⟨m, gs⟩, some ⟨l, hs⟩ => by
    rw [joinRecords_some, joinRecords_some, joinRecords_some, joinRecords_some, Nat.add_assoc,
      joinedFields_assoc (joinFields_assoc fs gs hs)]

theorem joinFields_assoc : ∀ fs gs hs : List (String × FieldShape Shape),
    joinFields (joinFields fs gs) hs = joinFields fs (joinedFields gs hs)
  | [], _, _ => rfl
  | (k, ⟨n, s⟩) :: rest, gs, hs => by
    have hfield := joinFound_joinFound (f := ⟨n, s⟩) (fun t u => join_assoc s t u) (gs.lookup k)
      (hs.lookup k)
    rw [joinFields_cons, joinFields_cons, joinFields_cons, lookup_joinedFields, hfield,
      joinFields_assoc rest gs hs]
end

/-! ### All samples -/

theorem foldl_join (shapes : List Shape) (s : Shape) :
    shapes.foldl join s = s.join (joinAll shapes) := by
  induction shapes generalizing s with
  | nil => exact (join_bottom s).symm
  | cons t rest ih =>
    have hrest : joinAll (t :: rest) = t.join (joinAll rest) := by
      rw [joinAll, List.foldl_cons, bottom_join, ih]
    rw [List.foldl_cons, ih, hrest, join_assoc]

theorem joinAll_append (xs ys : List Shape) :
    joinAll (xs ++ ys) = (joinAll xs).join (joinAll ys) := by
  rw [joinAll, List.foldl_append, foldl_join]
  rfl

theorem joinAll_singleton (s : Shape) : joinAll [s] = s :=
  bottom_join s

theorem joinAll_cons (s : Shape) (rest : List Shape) :
    joinAll (s :: rest) = s.join (joinAll rest) := by
  rw [← List.singleton_append, joinAll_append, joinAll_singleton]

/-- The state after some samples joins the state before with the shape of the samples. -/
theorem observeAll_eq (i : Inference) (samples : List Value) :
    i.observeAll samples =
      ⟨i.shape.join (joinAll (samples.map observe)), i.samples + samples.length⟩ := by
  induction samples generalizing i with
  | nil =>
    rw [List.map_nil, joinAll, List.foldl_nil, join_bottom]
    rfl
  | cons v rest ih =>
    have hrest : i.observeAll (v :: rest) = (i.observe v).observeAll rest := rfl
    rw [hrest, ih, List.map_cons, joinAll_cons, ← join_assoc, Inference.observe, List.length_cons,
      Nat.add_assoc, Nat.add_comm 1]

end Shape
end DocShape
