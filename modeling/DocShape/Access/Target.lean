import DocShape.Coercion

/-!
What nodes are taken out as: each target stands for a tag and has a carrier, the type of what is
taken out. Mappings and sequences are taken out as accessors, which hold the fields or the items.

Main statements: `isSome_asIs?_iff`, a node is taken out as it is exactly when it carries the
tag, and `asIs?_fallback`, the fallback of a target is what its default node is taken out as.
-/

namespace DocShape

/-- Access to a mapping. -/
structure MapAccess where
  fields : List (String × Value)
deriving DecidableEq

/-- Access to a sequence. -/
structure SeqAccess where
  items : List Value
deriving DecidableEq

/-- The mapping that is accessed. -/
def MapAccess.toValue (m : MapAccess) : Value := .object m.fields

/-- The sequence that is accessed. -/
def SeqAccess.toValue (s : SeqAccess) : Value := .array s.items

/-- Access to a node if it is a mapping. -/
def MapAccess.ofValue? : Value → Option MapAccess
  | .object fields => some ⟨fields⟩
  | _ => none

/-- Access to a node if it is a sequence. -/
def SeqAccess.ofValue? : Value → Option SeqAccess
  | .array items => some ⟨items⟩
  | _ => none

/-- Access to a node, or to an empty mapping if it is none. -/
def MapAccess.of (v : Value) : MapAccess :=
  (MapAccess.ofValue? v).getD ⟨[]⟩

/-- Access to a node, or to an empty sequence if it is none. -/
def SeqAccess.of (v : Value) : SeqAccess :=
  (SeqAccess.ofValue? v).getD ⟨[]⟩

/-- What a node may be taken out as. -/
inductive Target where
  | string
  | integer
  | float
  | boolean
  | mapping
  | sequence
deriving DecidableEq

namespace Target

/-- The tag that a target stands for. -/
def tag : Target → Tag
  | .string => .string
  | .integer => .integer
  | .float => .float
  | .boolean => .boolean
  | .mapping => .mapping
  | .sequence => .sequence

/-- The type of what is taken out. -/
abbrev Carrier : Target → Type
  | .string => String
  | .integer => Int64
  | .float => Binary64
  | .boolean => Bool
  | .mapping => MapAccess
  | .sequence => SeqAccess

/-- What is taken out, as a node again. -/
def toValue : (t : Target) → t.Carrier → Value
  | .string, s => .string s
  | .integer, n => .number (.integer n)
  | .float, x => .number (.float x)
  | .boolean, b => .bool b
  | .mapping, m => m.toValue
  | .sequence, s => s.toValue

/-- A node taken out as it is; a large word is taken out as the nearest double. -/
def asIs? : (t : Target) → Value → Option t.Carrier
  | .string, .string s => some s
  | .integer, .number (.integer n) => some n
  | .float, .number (.large n) => some (.ofUInt64 n.word)
  | .float, .number (.float x) => some x
  | .boolean, .bool b => some b
  | .mapping, .object fields => some ⟨fields⟩
  | .sequence, .array items => some ⟨items⟩
  | _, _ => none

/-- What a conversion made of a node, taken out. Any number is taken out as a double here, and
access to a container is only given if the container was kept. -/
def converted? : (t : Target) → Value → Outcome → Option t.Carrier
  | .string, v, r => asIs? .string (r.on v)
  | .integer, v, r => asIs? .integer (r.on v)
  | .float, v, r =>
    match r.on v with
    | .number n => some n.toBinary64
    | _ => none
  | .boolean, v, r => asIs? .boolean (r.on v)
  | .mapping, v, .kept => asIs? .mapping v
  | .mapping, _, .replaced _ => none
  | .sequence, v, .kept => asIs? .sequence v
  | .sequence, _, .replaced _ => none

/-- A node taken out after conversion. -/
def cast? (t : Target) (v : Value) : Option t.Carrier :=
  (coerce v t.tag).bind (t.converted? v)

/-- What stands in when nothing can be taken out. -/
def fallback : (t : Target) → t.Carrier
  | .string => ""
  | .integer => (0 : Int64)
  | .float => Binary64.zero false
  | .boolean => false
  | .mapping => (⟨[]⟩ : MapAccess)
  | .sequence => (⟨[]⟩ : SeqAccess)

theorem isSome_asIs?_iff (t : Target) (v : Value) : (t.asIs? v).isSome ↔ v.tag = t.tag := by
  cases t <;> cases v <;> simp [asIs?, Value.tag, tag] <;> rename_i n <;> cases n <;> simp

theorem asIs?_fallback (t : Target) : t.asIs? t.tag.defaultValue = some t.fallback := by
  cases t <;> rfl

end Target
end DocShape
