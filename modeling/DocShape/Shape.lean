import DocShape.Schema

/-!
Shapes: what was seen in samples. A shape records the kinds of nodes, the shape of all elements of
all arrays together, and for objects how many there were and what was seen under each key.

`Shape.join` puts together what was seen in two sets of samples, and `Shape.agrees` is equality up
to the order of keys.
-/

namespace DocShape

/-- The kinds of scalars that were seen. -/
structure ScalarKinds where
  null : Bool := false
  boolean : Bool := false
  integer : Bool := false
  float : Bool := false
  string : Bool := false
deriving DecidableEq

/-- The kinds in at least one of two sets. -/
def ScalarKinds.union (a b : ScalarKinds) : ScalarKinds where
  null := a.null || b.null
  boolean := a.boolean || b.boolean
  integer := a.integer || b.integer
  float := a.float || b.float
  string := a.string || b.string

/-- What was seen under a key: in how many objects, and the shape of its values. -/
structure FieldShape (α : Type) where
  presentIn : Nat
  shape : α

/-- What was seen of objects: how many there were, and their fields. -/
structure RecordShape (α : Type) where
  seen : Nat
  fields : List (String × FieldShape α)

/-- What was seen in samples. -/
inductive Shape where
  | mk (scalars : ScalarKinds) (items : Option Shape) (record : Option (RecordShape Shape))

namespace Shape

/-- Nothing was seen. -/
def bottom : Shape := .mk {} none none

def scalars : Shape → ScalarKinds
  | .mk scalars _ _ => scalars

/-- The shape of the elements of arrays, if there were arrays. -/
def items : Shape → Option Shape
  | .mk _ items _ => items

/-- What was seen of objects, if there were any. -/
def record : Shape → Option (RecordShape Shape)
  | .mk _ _ record => record

/-- Whether nothing was seen. -/
def isBottom (s : Shape) : Bool :=
  s.scalars == {} && s.items.isNone && s.record.isNone

/-- How many kinds were seen, null aside; the two kinds of numbers count as one. -/
def kindCount (s : Shape) : Nat :=
  ([s.scalars.boolean, s.scalars.integer || s.scalars.float, s.scalars.string, s.items.isSome,
    s.record.isSome].filter id).length

mutual
/-- What was seen in either of two sets of samples. -/
def join : Shape → Shape → Shape
  | .mk k i r, .mk k' i' r' => .mk (k.union k') (joinItems i i') (joinRecords r r')
termination_by structural a => a

def joinItems : Option Shape → Option Shape → Option Shape
  | none, b => b
  | some a, none => some a
  | some a, some b => some (a.join b)
termination_by structural a => a

def joinRecords : Option (RecordShape Shape) → Option (RecordShape Shape) →
    Option (RecordShape Shape)
  | none, b => b
  | some a, none => some a
  | some ⟨n, fs⟩, some ⟨m, gs⟩ =>
    some ⟨n + m, joinFields fs gs ++ gs.filter fun g => !Entries.contains fs g.1⟩
termination_by structural a => a

/-- The fields of the first list with what the second adds to them. -/
def joinFields : List (String × FieldShape Shape) → List (String × FieldShape Shape) →
    List (String × FieldShape Shape)
  | [], _ => []
  | (k, ⟨n, s⟩) :: rest, gs =>
    (match gs.lookup k with
      | some ⟨m, t⟩ => (k, ⟨n + m, s.join t⟩)
      | none => (k, ⟨n, s⟩)) :: joinFields rest gs
termination_by structural fs => fs
end

mutual
/-- Equality up to the order of keys. -/
def agrees : Shape → Shape → Bool
  | .mk k i r, .mk k' i' r' => k == k' && itemsAgree i i' && recordsAgree r r'
termination_by structural a => a

def itemsAgree : Option Shape → Option Shape → Bool
  | none, none => true
  | some a, some b => a.agrees b
  | _, _ => false
termination_by structural a => a

def recordsAgree : Option (RecordShape Shape) → Option (RecordShape Shape) → Bool
  | none, none => true
  | some ⟨n, fs⟩, some ⟨m, gs⟩ => n == m && fs.length == gs.length && fieldsAgree fs gs
  | _, _ => false
termination_by structural a => a

/-- Whether each field of the first list has an equal one in the second. -/
def fieldsAgree : List (String × FieldShape Shape) → List (String × FieldShape Shape) → Bool
  | [], _ => true
  | (k, ⟨n, s⟩) :: rest, gs =>
    (match gs.lookup k with
      | some ⟨m, t⟩ => n == m && s.agrees t
      | none => false) && fieldsAgree rest gs
termination_by structural fs => fs
end

/-- The shape of all samples together. -/
def joinAll (shapes : List Shape) : Shape :=
  shapes.foldl join bottom

end Shape
end DocShape
