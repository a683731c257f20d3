import DocShape.Schema.Failure

/-!
Matching a document against a sample. The sample's fields are looked for in their order, then the
document's keys are looked through for one that the sample lacks; arrays are compared item by item.
-/

namespace DocShape

/-- The way to a key below a trail. -/
def Path.atKey (trail : Path) (key : String) : Path :=
  trail ++ [.required (.key key)]

/-- The way to a position below a trail. -/
def Path.atIndex (trail : Path) (position : Nat) : Path :=
  trail ++ [.required (.index position)]

/-- The first key that is not a declared one fails. -/
def refuseUndeclared (trail : Path) (declared keys : List String) : Except Failure Unit :=
  match keys.find? fun k => !declared.contains k with
  | some k => .error ⟨trail.atKey k, .unexpected k⟩
  | none => .ok ()

/-- Whether a document is the scalar of a sample; numbers compare across representations. -/
def matchScalar (sample : Value) (trail : Path) (v : Value) : Except Failure Unit :=
  if v.tag.isContainer then .error ⟨trail, .mismatch sample.tag v.tag⟩
  else if sample.same v then .ok ()
  else .error ⟨trail, .different sample v⟩

mutual
/-- Whether a document looks like a sample. -/
def matchLiteral : (sample : Value) → (trail : Path) → Value → Except Failure Unit
  | .object want, trail, v =>
    match v with
    | .object fields => do
      matchFields want trail fields
      refuseUndeclared trail (Entries.keys want) (Entries.keys fields)
    | v => .error ⟨trail, .mismatch .mapping v.tag⟩
  | .array want, trail, v =>
    match v with
    | .array items =>
      if want.length = items.length then matchItems want trail 0 items
      else .error ⟨trail, .lengths want.length items.length⟩
    | v => .error ⟨trail, .mismatch .sequence v.tag⟩
  | .null, trail, v => matchScalar .null trail v
  | .bool b, trail, v => matchScalar (.bool b) trail v
  | .number n, trail, v => matchScalar (.number n) trail v
  | .string s, trail, v => matchScalar (.string s) trail v
termination_by structural sample => sample

/-- Whether each field of the sample stands in the document. -/
def matchFields : (want : List (String × Value)) → (trail : Path) →
    (fields : List (String × Value)) → Except Failure Unit
  | [], _, _ => .ok ()
  | (k, sample) :: rest, trail, fields => do
    match fields.lookup k with
    | some v => matchLiteral sample (trail.atKey k) v
    | none => .error ⟨trail.atKey k, .missing k⟩
    matchFields rest trail fields
termination_by structural want => want

/-- Whether the items from position `i` on look like those of the sample. -/
def matchItems : (want : List Value) → (trail : Path) → (i : Nat) → (items : List Value) →
    Except Failure Unit
  | [], _, _, _ => .ok ()
  | _ :: _, _, _, [] => .ok ()
  | sample :: rest, trail, i, v :: items => do
    matchLiteral sample (trail.atIndex i) v
    matchItems rest trail (i + 1) items
termination_by structural want => want
end

end DocShape
