import DocShape.Outcome
import DocShape.Schema.Failure

/-!
Schemas: what documents should look like. A schema is a leaf, an array of elements that look alike,
or an object with declared fields; each comes with rules that hold for every kind.
-/

namespace DocShape

/-- The kinds of schemas that have no schemas inside. -/
inductive LeafKind where
  | any
  | string (pattern : Option Pattern)
  | integer
  | float
  | boolean
  /-- The document has to look like the sample. -/
  | literal (sample : Value)
deriving DecidableEq

/-- Rules for a node, whatever its kind. -/
structure Rules where
  min : Option Bound := none
  max : Option Bound := none
  allowed : Option (List Value) := none
  coerces : Bool := false
  isOptional : Bool := false
  nullable : Bool := false
  default : Option Value := none
deriving DecidableEq

/-- A schema. The shape of an object lists its fields in the order of their checks. -/
inductive Schema where
  | leaf (kind : LeafKind) (rules : Rules)
  | array (element : Schema) (rules : Rules)
  | object (shape : List (String × Schema)) (isOpen : Bool) (rules : Rules)

namespace LeafKind

/-- The tag that a leaf checks for. -/
def tag? : LeafKind → Option Tag
  | .string _ => some .string
  | .integer => some .integer
  | .float => some .float
  | .boolean => some .boolean
  | .any | .literal _ => none

end LeafKind

namespace Rules

/-- Whether null is accepted. What may be absent, or has a default, may be null. -/
def acceptsNull (r : Rules) : Bool :=
  r.nullable || r.isOptional || r.default.isSome

/-- What becomes of a null that is accepted. -/
def onNull (r : Rules) : Outcome :=
  match r.default with
  | some d => .replaced d
  | none => .kept

end Rules

namespace Schema

/-- A leaf without rules. -/
def ofKind (kind : LeafKind) : Schema := .leaf kind {}

def any : Schema := ofKind .any

def string : Schema := ofKind (.string none)

def integer : Schema := ofKind .integer

def float : Schema := ofKind .float

def boolean : Schema := ofKind .boolean

/-- A schema by example. -/
def literal (sample : Value) : Schema := ofKind (.literal sample)

/-- Arrays of elements that look alike. -/
def arrayOf (element : Schema) : Schema := .array element {}

/-- Objects with declared fields and no others. Of a key that is declared again the first place and
the last schema count. -/
def objectOf (fields : List (String × Schema)) : Schema :=
  .object (Entries.ofList fields) false {}

/-- The rules of a schema. -/
def rules : Schema → Rules
  | .leaf _ r => r
  | .array _ r => r
  | .object _ _ r => r

/-- The schema with its rules changed. -/
def mapRules (f : Rules → Rules) : Schema → Schema
  | .leaf kind r => .leaf kind (f r)
  | .array element r => .array element (f r)
  | .object shape isOpen r => .object shape isOpen (f r)

/-- The tag that a schema checks for. -/
def tag? : Schema → Option Tag
  | .leaf kind _ => kind.tag?
  | .array _ _ => some .sequence
  | .object _ _ _ => some .mapping

def isOptional (s : Schema) : Bool := s.rules.isOptional

def isNullable (s : Schema) : Bool := s.rules.acceptsNull

@[simp] theorem rules_mapRules (f : Rules → Rules) (s : Schema) :
    (s.mapRules f).rules = f s.rules := by
  cases s <;> rfl

@[simp] theorem tag?_mapRules (f : Rules → Rules) (s : Schema) : (s.mapRules f).tag? = s.tag? := by
  cases s <;> rfl

theorem mapRules_mapRules (f g : Rules → Rules) (s : Schema) :
    (s.mapRules f).mapRules g = s.mapRules (g ∘ f) := by
  cases s <;> rfl

theorem mapRules_eq_self {f : Rules → Rules} {s : Schema} (h : f s.rules = s.rules) :
    s.mapRules f = s := by
  cases s <;> exact congrArg _ h

end Schema
end DocShape
