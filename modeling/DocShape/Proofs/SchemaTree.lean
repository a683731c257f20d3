import DocShape.Proofs.EntryLaws
import DocShape.Schema.Modifier

/-!
The nodes of a schema. `Schema.EachNode` says something of a schema and of all that are inside it,
and `Schema.induct` is induction over them.

* `WellFormed`: no object in the schema declares a key twice. The constructors and the modifiers
  lead from well-formed schemas to well-formed ones: `wellFormed_ofKind`, `wellFormed_arrayOf`,
  `wellFormed_objectOf`, `wellFormed_modifyAll`.
* `uncoerced`: the schema that converts nothing, which differs in its rules only.
-/

namespace DocShape

namespace Schema

mutual
/-- Whether something holds of each node of a schema. -/
def EachNode (p : Schema → Prop) : Schema → Prop
  | .leaf kind r => p (.leaf kind r)
  | .array element r => p (.array element r) ∧ EachNode p element
  | .object shape isOpen r => p (.object shape isOpen r) ∧ EachField p shape
termination_by structural s => s

def EachField (p : Schema → Prop) : List (String × Schema) → Prop
  | [] => True
  | (_, s) :: rest => EachNode p s ∧ EachField p rest
termination_by structural shape => shape
end

/-- What holds of leaves, and of arrays and objects where it holds of all inside, holds of
schemas. -/
theorem induct {p : Schema → Prop} (leaf : ∀ kind r, p (.leaf kind r))
    (array : ∀ element r, p element → p (.array element r))
    (object : ∀ shape isOpen r, (∀ e ∈ shape, p e.2) → p (.object shape isOpen r)) (s : Schema) :
    p s :=
  @Schema.rec p (fun shape => ∀ e ∈ shape, p e.2) (fun e => p e.2) leaf array object
    (List.forall_mem_nil _) (fun _ _ he hrest => List.forall_mem_cons.mpr ⟨he, hrest⟩)
    (fun _ _ hs => hs) s

section EachNode

variable {p : Schema → Prop}

theorem EachNode.root {s : Schema} (h : EachNode p s) : p s := by
  cases s with
  | leaf kind r => exact h
  | array element r => exact h.1
  | object shape isOpen r => exact h.1

theorem eachField_iff {shape : List (String × Schema)} :
    EachField p shape ↔ ∀ e ∈ shape, EachNode p e.2 := by
  induction shape with
  | nil => simp [EachField]
  | cons e rest ih => simp [EachField, ih]

end EachNode

/-! ### Well-formed schemas -/

/-- Whether a node declares each key once. -/
def DeclaresOnce : Schema → Prop
  | .object shape _ _ => (Entries.keys shape).Nodup
  | _ => True

/-- No object in the schema declares a key twice. -/
def WellFormed (s : Schema) : Prop :=
  s.EachNode DeclaresOnce

theorem wellFormed_object_iff {shape : List (String × Schema)} {isOpen : Bool} {r : Rules} :
    (object shape isOpen r).WellFormed ↔
      (Entries.keys shape).Nodup ∧ ∀ e ∈ shape, e.2.WellFormed := by
  unfold WellFormed
  rw [EachNode, eachField_iff]
  rfl

theorem wellFormed_ofKind (kind : LeafKind) : (ofKind kind).WellFormed :=
  trivial

theorem wellFormed_arrayOf {element : Schema} (h : element.WellFormed) :
    (arrayOf element).WellFormed :=
  ⟨trivial, h⟩

/-- However often a key is declared, the object declares it once. -/
theorem wellFormed_objectOf {fields : List (String × Schema)} (h : ∀ e ∈ fields, e.2.WellFormed) :
    (objectOf fields).WellFormed := by
  rw [objectOf, wellFormed_object_iff]
  exact ⟨Entries.nodup_keys_ofList fields, fun e he => h e (Entries.mem_of_mem_ofList he)⟩

theorem wellFormed_modify {s : Schema} (h : s.WellFormed) (m : Modifier) :
    (s.modify m).WellFormed := by
  have hrules : ∀ f : Rules → Rules, (s.mapRules f).WellFormed := by
    intro f
    cases s <;> exact h
  cases m with
  | bound side b => cases side <;> exact hrules _
  | pattern p =>
    cases s with
    | leaf kind r => cases kind <;> exact h
    | _ => exact h
  | isOpen b => cases s <;> exact h
  | _ => exact hrules _

theorem wellFormed_modifyAll {s : Schema} (h : s.WellFormed) (ms : List Modifier) :
    (s.modifyAll ms).WellFormed := by
  induction ms generalizing s with
  | nil => exact h
  | cons m rest ih => exact ih (wellFormed_modify h m)

end Schema

/-! ### Schemas without conversions -/

/-- The rules without the request for conversions. -/
def Rules.uncoerced (r : Rules) : Rules :=
  { r with coerces := false }

@[simp] theorem Rules.default_uncoerced (r : Rules) : r.uncoerced.default = r.default := rfl

namespace Schema

mutual
/-- The schema without any request for conversions. -/
def uncoerced : Schema → Schema
  | .leaf kind r => .leaf kind r.uncoerced
  | .array element r => .array element.uncoerced r.uncoerced
  | .object shape isOpen r => .object (uncoercedFields shape) isOpen r.uncoerced
termination_by structural s => s

def uncoercedFields : List (String × Schema) → List (String × Schema)
  | [] => []
  | (k, s) :: rest => (k, s.uncoerced) :: uncoercedFields rest
termination_by structural shape => shape
end

@[simp] theorem rules_uncoerced (s : Schema) : s.uncoerced.rules = s.rules.uncoerced := by
  cases s <;> rfl

theorem uncoercedFields_eq_map (shape : List (String × Schema)) :
    uncoercedFields shape = shape.map fun e => (e.1, e.2.uncoerced) := by
  induction shape with
  | nil => rfl
  | cons e rest ih => rw [uncoercedFields, ih, List.map_cons]

@[simp] theorem keys_uncoercedFields (shape : List (String × Schema)) :
    Entries.keys (uncoercedFields shape) = Entries.keys shape := by
  rw [uncoercedFields_eq_map]
  simp [Entries.keys]

end Schema
end DocShape
