import DocShape.Schema.Check

/-!
Checks on one trail that they share. A step down puts its segment on the trail, and takes it off
again when the check of the node there is done, whether that fails or not; a failure holds a copy of
the trail. `Schema.check` is the same walk with a trail for each step, see
`SharedTrail.follows_run`.
-/

namespace DocShape

/-- A check on a trail, which it may change and which is left when it fails too. -/
abbrev SharedTrail (α : Type) := ExceptT Failure (StateM Path) α

namespace SharedTrail

variable {α : Type}

/-- What becomes of a check that begins with a trail, and the trail that it leaves. -/
def outcome (x : SharedTrail α) (trail : Path) : Except Failure α × Path :=
  Id.run ((ExceptT.run x).run trail)

/-- The failure of the node that the trail leads to. -/
def fail (cause : Cause) : SharedTrail α := do
  throw ⟨← get, cause⟩

/-- A check that only reads the trail. -/
def reading (check : Path → Except Failure α) : SharedTrail α := do
  check (← get)

/-- A check one step down. -/
def nested (step : Step) (x : SharedTrail α) : SharedTrail α := ExceptT.mk do
  modify fun trail => trail ++ [.required step]
  let out ← ExceptT.run x
  modify List.dropLast
  return out

/-- The first key that is not a declared one fails. -/
def refuseUndeclared (declared keys : List String) : SharedTrail Unit :=
  match keys.find? fun k => !declared.contains k with
  | some k => nested (.key k) (fail (.unexpected k))
  | none => pure ()

/-! ### Samples -/

mutual
/-- Whether a document looks like a sample. -/
def matchLiteral : (sample : Value) → Value → SharedTrail Unit
  | .object want, v =>
    match v with
    | .object fields => do
      matchFields want fields
      refuseUndeclared (Entries.keys want) (Entries.keys fields)
    | v => fail (.mismatch .mapping v.tag)
  | .array want, v =>
    match v with
    | .array items =>
      if want.length = items.length then matchItems want 0 items
      else fail (.lengths want.length items.length)
    | v => fail (.mismatch .sequence v.tag)
  | .null, v => reading fun trail => matchScalar .null trail v
  | .bool b, v => reading fun trail => matchScalar (.bool b) trail v
  | .number n, v => reading fun trail => matchScalar (.number n) trail v
  | .string s, v => reading fun trail => matchScalar (.string s) trail v
termination_by structural sample => sample

/-- Whether each field of the sample stands in the document. -/
def matchFields : (want fields : List (String × Value)) → SharedTrail Unit
  | [], _ => pure ()
  | (k, sample) :: rest, fields => do
    match fields.lookup k with
    | some v => nested (.key k) (matchLiteral sample v)
    | none => nested (.key k) (fail (.missing k))
    matchFields rest fields
termination_by structural want => want

/-- Whether the items from position `i` on look like those of the sample. -/
def matchItems : (want : List Value) → (i : Nat) → (items : List Value) → SharedTrail Unit
  | [], _, _ => pure ()
  | _ :: _, _, [] => pure ()
  | sample :: rest, i, v :: items => do
    nested (.index i) (matchLiteral sample v)
    matchItems rest (i + 1) items
termination_by structural want => want
end

/-! ### Schemas -/

/-- What becomes of a node that is checked against a leaf. -/
def checkLeaf (kind : LeafKind) (r : Rules) (v : Value) : SharedTrail Outcome :=
  match kind with
  | .literal sample => do
    matchLiteral sample v
    return .kept
  | kind => do
    let admitted ← reading fun trail => r.admit trail kind.tag? v
    reading fun trail => r.restrict trail (admitted.on v)
    reading fun trail => kind.checkPattern trail (admitted.on v)
    return admitted

/-- The items checked one by one from position `i` on. -/
def checkItems (check : Value → SharedTrail Outcome) :
    (i : Nat) → List Value → SharedTrail (List Outcome)
  | _, [] => pure []
  | i, v :: rest => do
    let r ← nested (.index i) (check v)
    let rs ← checkItems check (i + 1) rest
    return r :: rs

/-- What becomes of an array whose items are checked. -/
def checkArray (check : Value → SharedTrail Outcome) (items : List Value) :
    SharedTrail Outcome := do
  let rs ← checkItems check 0 items
  return rebuildItems items rs

/-- What becomes of an object once its declared fields are checked. -/
def finishObject (declared : List String) (isOpen : Bool) (fields patches : List (String × Value)) :
    SharedTrail Outcome := do
  if isOpen then pure () else refuseUndeclared declared (Entries.keys fields)
  return rebuildFields fields patches

mutual
/-- What becomes of a node that is checked against a schema, or the first failure. -/
def run : Schema → Value → SharedTrail Outcome
  | .leaf kind r, v =>
    if v.isNull && r.acceptsNull then pure r.onNull else checkLeaf kind r v
  | .array element r, v =>
    if v.isNull && r.acceptsNull then pure r.onNull
    else
      match v with
      | .array items => do
        reading fun trail => r.restrict trail v
        checkArray (fun w => run element w) items
      | v => fail (.mismatch .sequence v.tag)
  | .object shape isOpen r, v =>
    if v.isNull && r.acceptsNull then pure r.onNull
    else
      match v with
      | .object fields => do
        reading fun trail => r.restrict trail v
        let patches ← checkFields shape fields
        finishObject (Entries.keys shape) isOpen fields patches
      | v => fail (.mismatch .mapping v.tag)
termination_by structural s => s

/-- The declared fields checked in order: what is to be put into the object, or the first
failure. -/
def checkFields : (shape : List (String × Schema)) → (fields : List (String × Value)) →
    SharedTrail (List (String × Value))
  | [], _ => pure []
  | (k, s) :: rest, fields => do
    let patch ←
      match fields.lookup k with
      | some v => Outcome.replacement? <$> nested (.key k) (run s v)
      | none =>
        if s.isOptional then pure s.rules.default else nested (.key k) (fail (.missing k))
    let patches ← checkFields rest fields
    return (patch.map (k, ·)).toList ++ patches
termination_by structural shape => shape
end

/-- What becomes of an object whose fields are checked. -/
def checkObject (shape : List (String × Schema)) (isOpen : Bool)
    (fields : List (String × Value)) : SharedTrail Outcome := do
  let patches ← checkFields shape fields
  finishObject (Entries.keys shape) isOpen fields patches

end SharedTrail
end DocShape
