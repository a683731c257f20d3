import DocShape.Access.Target
import DocShape.Path.Syntax
import DocShape.Path.Walk

/-!
The family of lookups. They differ in what they do when the node at a place is missing or is not
of the wanted kind: stand in a default, answer nothing, or fail. The `cast` ones convert first.

A place is reached by key, by position, along a path, or is a node itself. Along a path the
asserting lookup tells a broken walk from a node of the wrong kind; all others take every failure,
a malformed path included, as a missing node.
-/

namespace DocShape

/-- Why a lookup fails. -/
inductive AccessError where
  | absent (location : String)
  | assertion (location : String) (expected : Tag) (found : Option Tag)
  | malformed (e : PathSyntaxError)
deriving DecidableEq

/-- What a report says of the failure. -/
def AccessError.message : AccessError → String
  | .absent location => "nothing at `" ++ location ++ "`"
  | .assertion location expected found =>
    "assertion failed at `" ++ location ++ "`: expected " ++ expected.name ++ ", found " ++
      (found.map Tag.name).getD "nothing"
  | .malformed e => e.message

/-- A place in a document: the node there, if there is one, and how reports name it. -/
structure Place where
  node : Option Value
  location : String

namespace Place

/-- A node itself. -/
def ofNode (v : Value) : Place := ⟨some v, "(value)"⟩

def optionalGet (t : Target) (p : Place) : Option t.Carrier :=
  p.node.bind t.asIs?

def tryGet (t : Target) (p : Place) : Option t.Carrier :=
  p.optionalGet t

def optionalCast (t : Target) (p : Place) : Option t.Carrier :=
  p.node.bind t.cast?

def ensureOr (t : Target) (fallback : t.Carrier) (p : Place) : t.Carrier :=
  (p.optionalGet t).getD fallback

def ensure (t : Target) (p : Place) : t.Carrier :=
  p.ensureOr t t.fallback

def ensureCastOr (t : Target) (fallback : t.Carrier) (p : Place) : t.Carrier :=
  (p.optionalCast t).getD fallback

def ensureCast (t : Target) (p : Place) : t.Carrier :=
  p.ensureCastOr t t.fallback

def assertGet (t : Target) (p : Place) : Except AccessError t.Carrier :=
  match p.optionalGet t with
  | some x => .ok x
  | none => .error (.assertion p.location t.tag (p.node.map Value.tag))

/-- The node if it carries a tag. -/
def getTagged (tag : Tag) (p : Place) : Option Value :=
  p.node.filter tag.carriedBy

/-- What becomes of the node when it should carry a tag. -/
def castTagged (tag : Tag) (p : Place) : Option Outcome :=
  p.node.bind (coerce · tag)

/-- A node that carries a tag: the converted one, or the default of the tag. -/
def ensureCastValue (tag : Tag) (p : Place) : Value :=
  (p.node.bind fun v => (coerce v tag).map (·.on v)).getD tag.defaultValue

end Place

/-- The place at a key. -/
def MapAccess.place (m : MapAccess) (key : String) : Place :=
  ⟨m.fields.lookup key, key⟩

/-- The place at a position. -/
def SeqAccess.place (s : SeqAccess) (position : Nat) : Place :=
  ⟨s.items[position]?, Path.text [.required (.index position)]⟩

/-- A path to walk along, or why its text is none. -/
abbrev PathArgument := Except PathSyntaxError Path

namespace PathArgument

/-- The node that the walk from a root finds, if any. -/
def find? (p : PathArgument) (root : Value) : Option Value :=
  match p with
  | .ok p => root.find? p
  | .error _ => none

/-- The node at the end of the walk, or nothing where an optional segment ended it. -/
def resolve (p : PathArgument) (root : Value) : Except AccessError (Option Value) :=
  match p with
  | .error e => .error (.malformed e)
  | .ok p =>
    match root.resolve p with
    | .ok found => .ok found
    | .error missing => .error (.absent (Path.text missing))

/-- The place at the end of the walk. -/
def place (p : PathArgument) (root : Value) : Place :=
  ⟨p.find? root, ((p.toOption).map Path.text).getD ""⟩

/-- The node at the end of the walk, taken out as it is. A walk that does not get there fails with
its own error, and a quiet end is an assertion failure. -/
def assertGet (t : Target) (p : PathArgument) (root : Value) : Except AccessError t.Carrier := do
  let path ← p.mapError .malformed
  let found ← p.resolve root
  match found.bind t.asIs? with
  | some x => .ok x
  | none => .error (.assertion (Path.text path) t.tag (found.map Value.tag))

end PathArgument
end DocShape
