import DocShape.Coercion
import DocShape.Schema
import DocShape.Schema.Literal

/-!
Checking documents against schemas. A check fails with the first failure in a walk that goes depth
first and takes declared fields in the order of their declaration; a check that succeeds tells what
becomes of the document, since nodes may be converted and defaults filled in.

Main statements: `valid_iff_parse` and `error?_eq_some_iff_parse`, validity and parsing agree.
-/

namespace DocShape

/-- The node that is checked on, once its tag fits: a node with another tag is converted if the
rules say so, and integers always stand for floats. -/
def Rules.admit (r : Rules) (trail : Path) (expected : Option Tag) (v : Value) :
    Except Failure Outcome :=
  match expected with
  | none => .ok .kept
  | some expected =>
    if v.tag = expected then .ok .kept
    else
      let widens := expected = .float ∧ v.tag = .integer
      match if r.coerces ∨ widens then coerce v expected else none with
      | some w => .ok w
      | none => .error ⟨trail, .mismatch expected v.tag⟩

/-- Whether a node is one of those allowed. -/
def Rules.checkAllowed (r : Rules) (trail : Path) (v : Value) : Except Failure Unit :=
  match r.allowed with
  | none => .ok ()
  | some allowed =>
    if allowed.any (·.same v) then .ok () else .error ⟨trail, .unlisted allowed v⟩

/-- Whether a bound admits the measure of a node, if it has one. -/
def checkBound (trail : Path) (side : Side) (b : Option Bound) (v : Value) : Except Failure Unit :=
  match b, v.measure? with
  | some b, some x =>
    if b.admits side x then .ok () else .error ⟨trail, .outOfBound side b x⟩
  | _, _ => .ok ()

/-- Whether a node is allowed and within its bounds. -/
def Rules.restrict (r : Rules) (trail : Path) (v : Value) : Except Failure Unit := do
  r.checkAllowed trail v
  checkBound trail .min r.min v
  checkBound trail .max r.max v

namespace LeafKind

/-- Whether a string matches the pattern of its kind. -/
def checkPattern (kind : LeafKind) (trail : Path) (v : Value) : Except Failure Unit :=
  match kind, v with
  | .string (some p), .string s =>
    if p.matchesText s then .ok () else .error ⟨trail, .unmatched p s⟩
  | _, _ => .ok ()

/-- What becomes of a node that is checked against a leaf. -/
def check (kind : LeafKind) (r : Rules) (trail : Path) (v : Value) : Except Failure Outcome :=
  match kind with
  | .literal sample => do
    matchLiteral sample trail v
    return .kept
  | kind => do
    let admitted ← r.admit trail kind.tag? v
    r.restrict trail (admitted.on v)
    kind.checkPattern trail (admitted.on v)
    return admitted

end LeafKind

/-- The items checked one by one from position `i` on. -/
def checkItems (check : Path → Value → Except Failure Outcome) (trail : Path) :
    (i : Nat) → List Value → Except Failure (List Outcome)
  | _, [] => .ok []
  | i, v :: rest => do
    let r ← check (trail.atIndex i) v
    let rs ← checkItems check trail (i + 1) rest
    return r :: rs

/-- The copy of an array after one more of its items, which stands at position `i`. There is none
up to the first item that is replaced; it is begun there, with the items before. -/
def copyItem (items : List Value) (copy : Option (Array Value)) (i : Nat) (v : Value) :
    Outcome → Option (Array Value)
  | .kept => copy.map (·.push v)
  | .replaced w => some ((copy.getD (items.take i).toArray).push w)

/-- The copy of an array after its items from position `i` on. -/
def copyItems (items : List Value) : (copy : Option (Array Value)) → (i : Nat) →
    List (Value × Outcome) → Option (Array Value)
  | copy, _, [] => copy
  | copy, i, (v, r) :: rest => copyItems items (copyItem items copy i v r) (i + 1) rest

/-- An array is rebuilt when one of its items was replaced. -/
def rebuildItems (items : List Value) (rs : List Outcome) : Outcome :=
  match copyItems items none 0 (items.zip rs) with
  | none => .kept
  | some copy => .replaced (.array copy.toList)

/-- An object is rebuilt when one of its fields was replaced or filled in. -/
def rebuildFields (fields patches : List (String × Value)) : Outcome :=
  if patches.isEmpty then .kept else .replaced (.object (Entries.insertAll fields patches))

namespace Schema

mutual
/-- What becomes of a node that is checked against a schema, or the first failure. The trail is the
way from the root to the node. -/
def check : Schema → (trail : Path) → Value → Except Failure Outcome
  | .leaf kind r, trail, v =>
    if v.isNull && r.acceptsNull then .ok r.onNull else kind.check r trail v
  | .array element r, trail, v =>
    if v.isNull && r.acceptsNull then .ok r.onNull
    else
      match v with
      | .array items => do
        r.restrict trail v
        let rs ← checkItems (fun t w => check element t w) trail 0 items
        return rebuildItems items rs
      | v => .error ⟨trail, .mismatch .sequence v.tag⟩
  | .object shape isOpen r, trail, v =>
    if v.isNull && r.acceptsNull then .ok r.onNull
    else
      match v with
      | .object fields => do
        r.restrict trail v
        let patches ← checkFields shape trail fields
        if isOpen then .ok () else
          refuseUndeclared trail (Entries.keys shape) (Entries.keys fields)
        return rebuildFields fields patches
      | v => .error ⟨trail, .mismatch .mapping v.tag⟩
termination_by structural s => s

/-- The declared fields checked in order: what is to be put into the object, or the first
failure. -/
def checkFields : (shape : List (String × Schema)) → (trail : Path) →
    (fields : List (String × Value)) → Except Failure (List (String × Value))
  | [], _, _ => .ok []
  | (k, s) :: rest, trail, fields => do
    let patch ←
      match fields.lookup k with
      | some v => (check s (trail.atKey k) v).map Outcome.replacement?
      | none =>
        if s.isOptional then .ok s.rules.default else .error ⟨trail.atKey k, .missing k⟩
    let patches ← checkFields rest trail fields
    return (patch.map (k, ·)).toList ++ patches
termination_by structural shape => shape
end

/-- The first failure of a document, if there is one. -/
def error? (s : Schema) (v : Value) : Option Failure :=
  match s.check [] v with
  | .ok _ => none
  | .error f => some f

/-- Whether a document passes. -/
def valid (s : Schema) (v : Value) : Bool :=
  (s.error? v).isNone

/-- The document with conversions made and defaults filled in. -/
def parse (s : Schema) (v : Value) : Except Failure Value :=
  (s.check [] v).map (·.on v)

theorem valid_iff_parse {s : Schema} {v : Value} : s.valid v ↔ ∃ w, s.parse v = .ok w := by
  unfold valid error? parse
  cases s.check [] v <;> simp [Except.map]

theorem error?_eq_some_iff_parse {s : Schema} {v : Value} {f : Failure} :
    s.error? v = some f ↔ s.parse v = .error f := by
  unfold error? parse
  cases s.check [] v <;> simp [Except.map]

end Schema
end DocShape
