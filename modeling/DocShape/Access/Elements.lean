import DocShape.Access.Place

/-!
Walking the elements of a sequence from both ends. A cursor is the run of elements that remain,
and a walk keeps a stack of cursors that it may go back to.
-/

namespace DocShape

/-- The elements that a walk has not passed yet. -/
structure Elements where
  remaining : List Value
deriving DecidableEq

/-- A cursor over all elements of a sequence. -/
def SeqAccess.elements (s : SeqAccess) : Elements := ⟨s.items⟩

namespace Elements

/-- The element in front, and the cursor behind it. -/
def next (e : Elements) : Option Value × Elements :=
  (e.remaining.head?, ⟨e.remaining.tail⟩)

/-- The element at the back, and the cursor in front of it. -/
def nextBack (e : Elements) : Option Value × Elements :=
  (e.remaining.getLast?, ⟨e.remaining.dropLast⟩)

def length (e : Elements) : Nat :=
  e.remaining.length

/-- The element that follows `n` others. -/
def nth (e : Elements) (n : Nat) : Option Value :=
  e.remaining[n]?

/-- The elements that can be taken out after conversion; the others are left out. -/
def ensureCast (t : Target) (e : Elements) : List t.Carrier :=
  e.remaining.filterMap fun v => (Place.ofNode v).optionalCast t

def ensure (t : Target) (e : Elements) : List t.Carrier :=
  e.remaining.map fun v => (Place.ofNode v).ensure t

def optionalGet (t : Target) (e : Elements) : List (Option t.Carrier) :=
  e.remaining.map fun v => (Place.ofNode v).optionalGet t

def optionalCast (t : Target) (e : Elements) : List (Option t.Carrier) :=
  e.remaining.map fun v => (Place.ofNode v).optionalCast t

/-- The elements from position `i` on, taken out as they are, or the failure of the first that
cannot be; its location is its position. -/
def assertFrom (t : Target) (i : Nat) : List Value → Except AccessError (List t.Carrier)
  | [] => .ok []
  | v :: rest => do
    let x ← (⟨some v, Path.text [.required (.index i)]⟩ : Place).assertGet t
    let xs ← assertFrom t (i + 1) rest
    return x :: xs

def assertGet (t : Target) (e : Elements) : Except AccessError (List t.Carrier) :=
  assertFrom t 0 e.remaining

end Elements

/-- One move of a walk. -/
inductive Move where
  | next
  | back
  | length
  /-- Keeps the cursor for later. -/
  | save
  /-- Goes back to the cursor that was kept last. -/
  | restore
  | rest
  /-- The rest as integers, after conversion. -/
  | integers
deriving DecidableEq

/-- What a move answers. -/
inductive MoveAnswer where
  | element (v : Option Value)
  | count (n : Nat)
  | elements (vs : List Value)
deriving DecidableEq

/-- A walk: the cursor, and the cursors kept for later, the latest first. -/
structure ElementWalk where
  cursor : Elements
  kept : List Elements
deriving DecidableEq

namespace ElementWalk

/-- A walk that begins at a cursor. -/
def start (e : Elements) : ElementWalk := ⟨e, []⟩

/-- The walk after a move, and what the move answers. -/
def move (w : ElementWalk) : Move → ElementWalk × MoveAnswer
  | .next => ({ w with cursor := w.cursor.next.2 }, .element w.cursor.next.1)
  | .back => ({ w with cursor := w.cursor.nextBack.2 }, .element w.cursor.nextBack.1)
  | .length => (w, .count w.cursor.length)
  | .save => ({ w with kept := w.cursor :: w.kept }, .count (w.kept.length + 1))
  | .restore =>
    match w.kept with
    | [] => (w, .count 0)
    | e :: kept => (⟨e, kept⟩, .count kept.length)
  | .rest => (w, .elements w.cursor.remaining)
  | .integers => (w, .elements ((w.cursor.ensureCast .integer).map (Target.toValue .integer)))

/-- The walk after some moves, and what they answer in order. -/
def run (w : ElementWalk) : List Move → ElementWalk × List MoveAnswer
  | [] => (w, [])
  | m :: rest =>
    let (next, answer) := w.move m
    let (last, answers) := next.run rest
    (last, answer :: answers)

end ElementWalk
end DocShape
