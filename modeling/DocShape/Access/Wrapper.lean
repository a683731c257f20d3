import DocShape.Access.Session

/-!
Accessors that hold no more than a node. What a node is wrapped as does not tell what it is: a
wrapper gives out fields or items only if its node has them, and to ask for them otherwise is the
end of the program. `Accessor.call?` and `Accessor.session` are the same on accessors that hold the
fields or the items, see `Wrapper.call?_toWrapper` and `Wrapper.session_eq`.
-/

namespace DocShape

namespace Container

/-- Whether a node is such a container. -/
def includes : Container → Value → Bool
  | .mapping, .object _ => true
  | .sequence, .array _ => true
  | _, _ => false

def empty : Container → Value
  | .mapping => .object []
  | .sequence => .array []

end Container

/-- The container that a target stands for. -/
def Target.container? : Target → Option Container
  | .mapping => some .mapping
  | .sequence => some .sequence
  | _ => none

/-- The end of a program that took a node for a container that it is not. -/
structure Unreachable where
  container : Container
deriving DecidableEq

/-- What the program says of it. -/
def Unreachable.message (e : Unreachable) : String :=
  "internal error: entered unreachable code: " ++
    match e.container with
    | .mapping => "MapAccess always wraps a mapping"
    | .sequence => "SeqAccess always wraps a sequence"

/-- A node and the container that it is wrapped as, if any. -/
structure Wrapper where
  container : Option Container
  shown : Value
deriving DecidableEq

/-- What a lookup takes out: a scalar, or a node that is wrapped. -/
inductive Taken where
  | scalar (v : Value)
  | wrapper (w : Wrapper)

namespace Wrapper

/-- A node that is wrapped as no container. -/
def node (v : Value) : Wrapper := ⟨none, v⟩

/-- The node wrapped as a container, if it is one. -/
def ofValue? (c : Container) (v : Value) : Option Wrapper :=
  if c.includes v then some ⟨some c, v⟩ else none

/-- The empty container that stands in for a missing one. -/
def fallback (c : Container) : Wrapper := ⟨some c, c.empty⟩

/-- The node wrapped as a container, or an empty container if it is none. -/
def of (c : Container) (v : Value) : Wrapper :=
  (ofValue? c v).getD (fallback c)

/-- The fields of the node, which has to be a mapping. -/
def fields (w : Wrapper) : Except Unreachable (List (String × Value)) :=
  match w.shown with
  | .object fields => .ok fields
  | _ => .error ⟨.mapping⟩

/-- The items of the node, which has to be a sequence. -/
def items (w : Wrapper) : Except Unreachable (List Value) :=
  match w.shown with
  | .array items => .ok items
  | _ => .error ⟨.sequence⟩

/-- The place at an address; none when the wrapper has no such addresses. -/
def place? (w : Wrapper) : Address → Except Unreachable (Option Place)
  | .here => .ok (some (.ofNode w.shown))
  | .key k =>
    match w.container with
    | some .mapping => do return some ((MapAccess.mk (← w.fields)).place k)
    | _ => .ok none
  | .index i =>
    match w.container with
    | some .sequence => do return some ((SeqAccess.mk (← w.items)).place i)
    | _ => .ok none
  | .path p => .ok (some (p.place w.shown))

end Wrapper

namespace Taken

def wrapper? : Taken → Option Wrapper
  | .scalar _ => none
  | .wrapper w => some w

/-- A node taken out as it is. -/
def asIs? (t : Target) (v : Value) : Option Taken :=
  match t.container? with
  | some c => (Wrapper.ofValue? c v).map .wrapper
  | none => (t.asIs? v).map (.scalar ∘ t.toValue)

/-- What a conversion made of a node, taken out. -/
def converted? (t : Target) (v : Value) (o : Outcome) : Option Taken :=
  match t.container?, o with
  | some c, .kept => (Wrapper.ofValue? c v).map .wrapper
  | some _, .replaced _ => none
  | none, o => (t.converted? v o).map (.scalar ∘ t.toValue)

/-- A node taken out after conversion. -/
def cast? (t : Target) (v : Value) : Option Taken :=
  (coerce v t.tag).bind (converted? t v)

/-- What stands in when nothing can be taken out. -/
def fallback (t : Target) : Taken :=
  match t.container? with
  | some c => .wrapper (.fallback c)
  | none => .scalar (t.toValue t.fallback)

/-- A default that the caller gives, who has to wrap a container for that. -/
def given (t : Target) (x : t.Carrier) : Taken :=
  match t.container? with
  | some c => .wrapper (.of c (t.toValue x))
  | none => .scalar (t.toValue x)

/-- The node at a place, taken out as it is. -/
def assertAt (t : Target) (p : Place) : Except AccessError Taken :=
  match p.node.bind (asIs? t) with
  | some x => .ok x
  | none => .error (.assertion p.location t.tag (p.node.map Value.tag))

/-- The node at the end of a walk, taken out as it is. -/
def assertAlong (t : Target) (p : PathArgument) (root : Value) : Except AccessError Taken := do
  let path ← p.mapError .malformed
  let found ← p.resolve root
  match found.bind (asIs? t) with
  | some x => .ok x
  | none => .error (.assertion (Path.text path) t.tag (found.map Value.tag))

/-- The elements from position `i` on, taken out as they are. -/
def assertFrom (t : Target) (i : Nat) : List Value → Except AccessError (List Taken)
  | [] => .ok []
  | v :: rest => do
    let x ← assertAt t ⟨some v, Path.text [.required (.index i)]⟩
    let xs ← assertFrom t (i + 1) rest
    return x :: xs

/-- What an adaptor delivers. -/
def each (t : Target) (e : Elements) : Adaptor → Except AccessError (List (Option Taken))
  | .ensureCast => .ok ((e.remaining.filterMap (cast? t)).map some)
  | .ensure => .ok (e.remaining.map fun v => some ((asIs? t v).getD (fallback t)))
  | .optionalGet => .ok (e.remaining.map (asIs? t))
  | .optionalCast => .ok (e.remaining.map (cast? t))
  | .assertGet => (assertFrom t 0 e.remaining).map (·.map some)

end Taken

/-- The answer of a lookup about a node, given what asserting would answer. -/
def Lookup.taken {t : Target} (node : Option Value) (asserted : Except AccessError Taken) :
    Lookup t → Except AccessError (Option Taken)
  | .ensure => .ok (some ((node.bind (Taken.asIs? t)).getD (Taken.fallback t)))
  | .ensureOr default => .ok (some ((node.bind (Taken.asIs? t)).getD (Taken.given t default)))
  | .ensureCast => .ok (some ((node.bind (Taken.cast? t)).getD (Taken.fallback t)))
  | .ensureCastOr default => .ok (some ((node.bind (Taken.cast? t)).getD (Taken.given t default)))
  | .optionalGet | .tryGet => .ok (node.bind (Taken.asIs? t))
  | .optionalCast => .ok (node.bind (Taken.cast? t))
  | .assertGet => asserted.map some

namespace Wrapper

/-- The answer of a call; none when the wrapper has no such call. -/
def call? (w : Wrapper) :
    Call → Except Unreachable (Option (Except AccessError (Option Taken)))
  | .lookup (.path p) t l =>
    .ok (some (l.taken (p.find? w.shown) (Taken.assertAlong t p w.shown)))
  | .lookup address t l => do
    return (← w.place? address).map fun p => l.taken p.node (Taken.assertAt t p)
  | .get address => do
    return (← w.place? address).map fun p => .ok (p.node.map (.wrapper ∘ node))
  | .find p => .ok (some (.ok ((p.find? w.shown).map (.wrapper ∘ node))))
  | .resolve p => .ok (some ((p.resolve w.shown).map (·.map (.wrapper ∘ node))))
  | .nth n =>
    match w.container with
    | some .sequence => do
      return some (.ok (((SeqAccess.mk (← w.items)).elements.nth n).map (.wrapper ∘ node)))
    | _ => .ok none

/-- The wrappers that a request reaches. -/
def reach (w : Wrapper) : Request → Except Unreachable (List Wrapper)
  | .call c => do
    return ((← w.call? c).bind fun answer => answer.toOption.join.bind Taken.wrapper?).toList
  | .node => .ok [node w.shown]
  | .of c => .ok [of c w.shown]
  | .ofValue? c => .ok (ofValue? c w.shown).toList
  | .elements moves =>
    match w.container with
    | some .sequence => do
      return ((SeqAccess.mk (← w.items)).elements.moved moves).remaining.map node
    | _ => .ok []
  | .each moves t adaptor =>
    match w.container with
    | some .sequence => do
      let cursor := (SeqAccess.mk (← w.items)).elements.moved moves
      return ((Taken.each t cursor adaptor).toOption.getD []).filterMap (·.bind Taken.wrapper?)
    | _ => .ok []

/-- A key is looked up in whatever is wrapped as a mapping, and null has none. -/
example : reach ⟨some .mapping, .null⟩ (.call (.get (.key "name"))) = .error ⟨.mapping⟩ := rfl

/-- All that is reached after a turn, in order. -/
def turn (reached : List Wrapper) (r : Turn) : Except Unreachable (List Wrapper) :=
  match reached[r.receiver]? with
  | some w => do return reached ++ (← w.reach r.request)
  | none => .ok reached

/-- All that is reached in a session, beginning with the document. -/
def session (doc : Value) (turns : List Turn) : Except Unreachable (List Wrapper) :=
  turns.foldlM turn [node doc]

end Wrapper
end DocShape
