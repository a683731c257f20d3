import DocShape.Access.Elements
import DocShape.Value.Outline

/-!
Sequences of lookups, each made on what an earlier one reached. An accessor wraps a mapping, a
sequence or any node; a call on it may yield an accessor again.

Main statements: `call?_lookup`, lookups are made at the place that an address leads to, and
`toValue_follow_find`, going on from a search shows the node that it found, if it found one.
-/

namespace DocShape

/-- What lookups are made on. -/
inductive Accessor where
  | mapping (m : MapAccess)
  | sequence (s : SeqAccess)
  | node (v : Value)
deriving DecidableEq

namespace Accessor

/-- The node that an accessor shows. -/
def toValue : Accessor → Value
  | .mapping m => m.toValue
  | .sequence s => s.toValue
  | .node v => v

/-- The name of the kind of accessor. -/
def kindName : Accessor → String
  | .mapping _ => "MapAccess"
  | .sequence _ => "SeqAccess"
  | .node _ => "ValueAccess"

/-- The outline of the node under the name of the accessor. -/
def outline (a : Accessor) : String :=
  a.kindName ++ "(" ++ a.toValue.outline ++ ")"

end Accessor

/-- Which node a lookup is about. -/
inductive Address where
  /-- The node that the accessor shows. -/
  | here
  | key (key : String)
  | index (position : Nat)
  | path (p : PathArgument)

/-- The place at an address that is no path; none when the accessor has no such addresses. -/
def Accessor.place? (a : Accessor) (address : Address) : Option Place :=
  match address, a with
  | .here, _ => some (.ofNode a.toValue)
  | .key k, .mapping m => some (m.place k)
  | .index i, .sequence s => some (s.place i)
  | .path p, _ => some (p.place a.toValue)
  | _, _ => none

/-- A lookup of the family with what it needs besides the place. -/
inductive Lookup (t : Target) where
  | ensure
  | ensureOr (fallback : t.Carrier)
  | ensureCast
  | ensureCastOr (fallback : t.Carrier)
  | optionalGet
  | tryGet
  | optionalCast
  | assertGet

/-- The answer of a lookup at a place, given what asserting would answer there. -/
def Lookup.answer {t : Target} (p : Place) (asserted : Except AccessError t.Carrier) :
    Lookup t → Except AccessError (Option t.Carrier)
  | .ensure => .ok (some (p.ensure t))
  | .ensureOr fallback => .ok (some (p.ensureOr t fallback))
  | .ensureCast => .ok (some (p.ensureCast t))
  | .ensureCastOr fallback => .ok (some (p.ensureCastOr t fallback))
  | .optionalGet => .ok (p.optionalGet t)
  | .tryGet => .ok (p.tryGet t)
  | .optionalCast => .ok (p.optionalCast t)
  | .assertGet => asserted.map some

/-- The answer of a lookup at a place. -/
def Lookup.atPlace {t : Target} (l : Lookup t) (p : Place) :
    Except AccessError (Option t.Carrier) :=
  l.answer p (p.assertGet t)

/-- The answer of a lookup along a path. -/
def Lookup.alongPath {t : Target} (l : Lookup t) (p : PathArgument) (root : Value) :
    Except AccessError (Option t.Carrier) :=
  l.answer (p.place root) (p.assertGet t root)

/-- A call that may reach another node. -/
inductive Call where
  | lookup (address : Address) (t : Target) (l : Lookup t)
  | get (address : Address)
  | find (p : PathArgument)
  | resolve (p : PathArgument)
  | nth (n : Nat)

/-- What a call reaches: a scalar that was taken out, or something to make further calls on. -/
inductive Yield where
  | scalar (v : Value)
  | accessor (a : Accessor)

/-- What a lookup took out. -/
def Yield.ofCarrier : (t : Target) → t.Carrier → Yield
  | .mapping, m => .accessor (.mapping m)
  | .sequence, s => .accessor (.sequence s)
  | t, x => .scalar (t.toValue x)

/-- What was reached, as a node. -/
def Yield.toValue : Yield → Value
  | .scalar v => v
  | .accessor a => a.toValue

/-- The answer of a call; none when the accessor has no such call. -/
def Accessor.call? (a : Accessor) : Call → Option (Except AccessError (Option Yield))
  | .lookup (.path p) t l =>
    some ((l.alongPath p a.toValue).map (·.map (Yield.ofCarrier t)))
  | .lookup address t l =>
    (a.place? address).map fun p => (l.atPlace p).map (·.map (Yield.ofCarrier t))
  | .get address =>
    (a.place? address).map fun p => .ok (p.node.map (.accessor ∘ .node))
  | .find p => some (.ok ((p.find? a.toValue).map (.accessor ∘ .node)))
  | .resolve p => some ((p.resolve a.toValue).map (·.map (.accessor ∘ .node)))
  | .nth n =>
    match a with
    | .sequence s => some (.ok ((s.elements.nth n).map (.accessor ∘ .node)))
    | _ => none

/-- The accessor for the calls that follow: the one that a call reached, else the one before. -/
def Accessor.after (a : Accessor) : Option Yield → Accessor
  | some (.accessor b) => b
  | _ => a

/-- The accessor after a call that goes on to what it reaches. -/
def Accessor.follow (a : Accessor) (c : Call) : Accessor :=
  match a.call? c with
  | some (.ok reached) => a.after reached
  | _ => a

/-- Only asserting tells a walk from the place where it ends. -/
theorem Lookup.alongPath_eq_atPlace {t : Target} {l : Lookup t} (h : l ≠ .assertGet)
    (p : PathArgument) (root : Value) : l.alongPath p root = l.atPlace (p.place root) := by
  cases l with
  | assertGet => exact absurd rfl h
  | _ => rfl

/-- Every address leads to a place, and but for asserting the lookup is made there. -/
theorem Accessor.call?_lookup {a : Accessor} {address : Address} {p : Place}
    (hp : a.place? address = some p) {t : Target} {l : Lookup t} (hl : l ≠ .assertGet) :
    a.call? (.lookup address t l) = some ((l.atPlace p).map (·.map (Yield.ofCarrier t))) := by
  cases address with
  | path path =>
    cases hp
    rw [call?, Lookup.alongPath_eq_atPlace hl]
  | _ => simp only [call?, hp, Option.map_some]

theorem Accessor.toValue_follow_find (a : Accessor) (p : PathArgument) :
    (a.follow (.find p)).toValue = (p.find? a.toValue).getD a.toValue := by
  simp only [follow, call?]
  cases p.find? a.toValue <;> rfl

end DocShape
