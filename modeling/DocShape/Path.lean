import DocShape.Value

/-!
Paths into documents, such as `pets[0]?.name`: keys of mappings and positions in sequences, each
of which may be marked as optional.

Main statement: `chars_append`, the text of a path that continues another one, the first part not
being empty.
-/

namespace DocShape

/-- Where a segment goes from a node. -/
inductive Step where
  | key (name : String)
  | index (position : Nat)
deriving DecidableEq

/-- One segment of a path. -/
structure Segment where
  step : Step
  isOptional : Bool
deriving DecidableEq

/-- The segments from the root on. -/
abbrev Path := List Segment

/-- A segment that has to be there. -/
def Segment.required (s : Step) : Segment := ⟨s, false⟩

/-- The node that a step leads to. A key of a sequence and a position in a mapping lead nowhere. -/
def Step.lookup? : Step → Value → Option Value
  | .key name, .object fields => fields.lookup name
  | .index position, .array items => items[position]?
  | _, _ => none

/-- The node that a segment leads to, its mark aside. -/
def Segment.lookup? (s : Segment) (v : Value) : Option Value :=
  s.step.lookup? v

/-- The characters of a step without what sets it off. -/
def Step.chars : Step → List Char
  | .key name => name.toList
  | .index position => '[' :: Nat.toDigits 10 position ++ [']']

/-- The characters of a segment at the beginning of a path. -/
def Segment.chars (s : Segment) : List Char :=
  s.step.chars ++ if s.isOptional then ['?'] else []

/-- The characters of a segment after another one; a dot sets a key off. -/
def Segment.charsAfter (s : Segment) : List Char :=
  match s.step with
  | .key _ => '.' :: s.chars
  | .index _ => s.chars

namespace Path

/-- The characters of a path. -/
def chars : Path → List Char
  | [] => []
  | s :: rest => s.chars ++ rest.flatMap Segment.charsAfter

/-- The text of a path; the root has none. -/
def text (p : Path) : String :=
  String.ofList (chars p)

/-- The text of the first `n` segments. -/
def textOfFirst (p : Path) (n : Nat) : String :=
  text (p.take n)

theorem chars_append {p : Path} (h : p ≠ []) (q : Path) :
    chars (p ++ q) = chars p ++ q.flatMap Segment.charsAfter := by
  cases p with
  | nil => exact absurd rfl h
  | cons s rest => simp [chars, List.flatMap_append]

end Path
end DocShape
