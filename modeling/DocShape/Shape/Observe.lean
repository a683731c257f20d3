import DocShape.Schema.Modifier
import DocShape.Shape
import DocShape.Tag

/-!
Observing samples one after the other, and the schema that accepts what was seen.
-/

namespace DocShape

namespace Shape

mutual
/-- The shape of one sample. -/
def observe : Value → Shape
  | .null => .mk { null := true } none none
  | .bool _ => .mk { boolean := true } none none
  | .number n =>
    .mk (if (Value.number n).tag = .integer then { integer := true } else { float := true }) none
      none
  | .string _ => .mk { string := true } none none
  | .array items => .mk {} (some (joinAll (observeItems items))) none
  | .object fields => .mk {} none (some ⟨1, observeFields fields⟩)
termination_by structural v => v

def observeItems : List Value → List Shape
  | [] => []
  | v :: rest => observe v :: observeItems rest
termination_by structural items => items

def observeFields : List (String × Value) → List (String × FieldShape Shape)
  | [] => []
  | (k, v) :: rest => (k, ⟨1, observe v⟩) :: observeFields rest
termination_by structural fields => fields
end

theorem observeItems_eq_map (items : List Value) : observeItems items = items.map observe := by
  induction items with
  | nil => rfl
  | cons v rest ih => simp [observeItems, ih]

theorem observeFields_eq_map (fields : List (String × Value)) :
    observeFields fields = fields.map fun e => (e.1, ⟨1, observe e.2⟩) := by
  induction fields with
  | nil => rfl
  | cons e rest ih => simp [observeFields, ih]

mutual
/-- The narrowest schema that accepts what was seen. Samples of more than one kind, null aside,
leave any document possible. -/
def lower : Shape → Schema
  | .mk k i r =>
    let s : Schema :=
      if (Shape.mk k i r).kindCount ≠ 1 then .any
      else if k.boolean then .boolean
      else if k.float then .float
      else if k.integer then .integer
      else if k.string then .string
      else (lowerItems i).getD ((lowerRecord r).getD .any)
    if k.null then s.modify .nullable else s
termination_by structural s => s

def lowerItems : Option Shape → Option Schema
  | none => none
  | some s => some (.arrayOf (lower s))
termination_by structural s => s

def lowerRecord : Option (RecordShape Shape) → Option Schema
  | none => none
  | some ⟨seen, fields⟩ => some (.objectOf (lowerFields seen fields))
termination_by structural r => r

/-- A field that some of the objects lacked is optional. -/
def lowerFields (seen : Nat) : List (String × FieldShape Shape) → List (String × Schema)
  | [] => []
  | (k, ⟨presentIn, s⟩) :: rest =>
    (k, if presentIn < seen then (lower s).modify .isOptional else lower s) ::
      lowerFields seen rest
termination_by structural fields => fields
end

end Shape

/-- What was seen so far, and in how many samples. -/
structure Inference where
  shape : Shape
  samples : Nat

namespace Inference

/-- Before the first sample. -/
def start : Inference := ⟨.bottom, 0⟩

/-- After one more sample. -/
def observe (i : Inference) (v : Value) : Inference :=
  ⟨i.shape.join (Shape.observe v), i.samples + 1⟩

/-- After some samples, one by one. -/
def observeAll (i : Inference) (vs : List Value) : Inference :=
  vs.foldl observe i

/-- The schema of what was seen so far. -/
def solve (i : Inference) : Schema :=
  i.shape.lower

end Inference

/-- The schema of one sample. -/
def Schema.ofSample (v : Value) : Schema :=
  (Shape.observe v).lower

/-- The schema of some samples. -/
def Schema.ofSamples (vs : List Value) : Schema :=
  (Inference.start.observeAll vs).solve

end DocShape
