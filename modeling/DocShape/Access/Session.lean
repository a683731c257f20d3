import DocShape.Access.Call

/-!
Sessions: requests one after the other, each made on anything that was reached before. Besides the
calls there are the elements of a sequence, one by one or through an adaptor, and a node may be
wrapped anew.

Main statement: `follow_eq_head`, going on to what a call reaches is a turn of a session.
-/

namespace DocShape

/-- The containers that a node may be wrapped as. -/
inductive Container where
  | mapping
  | sequence
deriving DecidableEq

/-- The adaptors over elements. -/
inductive Adaptor where
  | ensureCast
  | ensure
  | optionalGet
  | optionalCast
  | assertGet
deriving DecidableEq

/-- What can be asked of an accessor. -/
inductive Request where
  | call (c : Call)
  /-- The node without what it is wrapped as. -/
  | node
  /-- The node as a container, or an empty one. -/
  | of (c : Container)
  /-- The node as a container, if it is one. -/
  | ofValue? (c : Container)
  /-- The elements that some moves leave. -/
  | elements (moves : List Move)
  /-- What an adaptor delivers of the elements that some moves leave. -/
  | each (moves : List Move) (t : Target) (a : Adaptor)

/-- A request, and the position of its receiver among all that was reached before. -/
structure Turn where
  receiver : Nat
  request : Request

/-- The accessor that was reached, if it is not a scalar. -/
def Yield.accessor? : Yield → Option Accessor
  | .scalar _ => none
  | .accessor a => some a

/-- What was taken out, if it is an accessor. -/
def Target.accessor? (t : Target) (x : t.Carrier) : Option Accessor :=
  (Yield.ofCarrier t x).accessor?

namespace Elements

/-- What an adaptor delivers. -/
def each (t : Target) (e : Elements) : Adaptor → Except AccessError (List (Option t.Carrier))
  | .ensureCast => .ok ((e.ensureCast t).map some)
  | .ensure => .ok ((e.ensure t).map some)
  | .optionalGet => .ok (e.optionalGet t)
  | .optionalCast => .ok (e.optionalCast t)
  | .assertGet => (e.assertGet t).map (·.map some)

/-- The elements that remain after some moves. -/
def moved (e : Elements) (moves : List Move) : Elements :=
  ((ElementWalk.start e).run moves).1.cursor

end Elements

namespace Accessor

def of : Container → Value → Accessor
  | .mapping, v => .mapping (.of v)
  | .sequence, v => .sequence (.of v)

def ofValue? : Container → Value → Option Accessor
  | .mapping, v => (MapAccess.ofValue? v).map .mapping
  | .sequence, v => (SeqAccess.ofValue? v).map .sequence

/-- The accessors that a request reaches. There are none where it fails or finds nothing, and none
when the accessor has no such calls. -/
def reach (a : Accessor) : Request → List Accessor
  | .call c =>
    ((a.call? c).bind fun answer => answer.toOption.join.bind Yield.accessor?).toList
  | .node => [.node a.toValue]
  | .of c => [.of c a.toValue]
  | .ofValue? c => (ofValue? c a.toValue).toList
  | .elements moves =>
    match a with
    | .sequence s => (s.elements.moved moves).remaining.map .node
    | _ => []
  | .each moves t adaptor =>
    match a with
    | .sequence s =>
      (((s.elements.moved moves).each t adaptor).toOption.getD []).filterMap (·.bind t.accessor?)
    | _ => []

/-- All that is reached after a turn, in order. -/
def turn (reached : List Accessor) (r : Turn) : List Accessor :=
  match reached[r.receiver]? with
  | some a => reached ++ a.reach r.request
  | none => reached

/-- All that is reached in a session, the document first. -/
def session (doc : Value) (turns : List Turn) : List Accessor :=
  turns.foldl turn [.node doc]

/-- To go on to what a call reaches is to take what the request reaches, or to stay. -/
theorem follow_eq_head (a : Accessor) (c : Call) :
    a.follow c = (a.reach (.call c)).head?.getD a := by
  rw [follow, reach]
  cases a.call? c with
  | none => rfl
  | some answer =>
    cases answer with
    | error e => rfl
    | ok found =>
      cases found with
      | none => rfl
      | some y => cases y <;> rfl

end Accessor
end DocShape
