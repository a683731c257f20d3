import DocShape.Pattern.Escape

/-!
Classes in brackets: characters, ranges, escapes, named classes and classes in brackets again,
with the set operations `&&`, `--` and `~~`, which group to the left and bind less than writing
side by side.
-/

namespace DocShape.Pattern

/-- An operation on classes. -/
inductive SetOperation where
  | inter
  | difference
  | symmetricDifference

/-- The class that an operation makes of two. -/
def SetOperation.apply : SetOperation → CharClass → CharClass → CharClass
  | .inter, c, d => .inter c d
  | .difference, c, d => c.difference d
  | .symmetricDifference, c, d => c.symmetricDifference d

/-- A bracket that is open: what stands on the left of the latest operation, and the items since. -/
structure OpenBracket where
  negated : Bool
  left : Option (SetOperation × CharClass)
  items : List CharClass

namespace OpenBracket

/-- The bracket with one more item. -/
def add (b : OpenBracket) (c : CharClass) : OpenBracket :=
  { b with items := b.items ++ [c] }

/-- Everything up to here as one class. -/
def soFar (b : OpenBracket) : CharClass :=
  match b.left with
  | none => .unions b.items
  | some (op, c) => op.apply c (.unions b.items)

/-- The bracket after an operation. -/
def operate (b : OpenBracket) (op : SetOperation) : OpenBracket :=
  { b with left := some (op, b.soFar), items := [] }

/-- The class of the bracket. Case is disregarded before the complement is taken. -/
def close (b : OpenBracket) (ignoreCase : Bool) : CharClass :=
  let c := if ignoreCase then .anyCase b.soFar else b.soFar
  if b.negated then .complement c else c

end OpenBracket

/-- The beginning of a bracket behind its opening mark: a caret negates, and dashes, or else one
closing mark, mean themselves here. -/
def openBracket (cs : List Char) : OpenBracket × List Char :=
  let (negated, cs) : Bool × List Char :=
    match cs with
    | '^' :: rest => (true, rest)
    | _ => (false, cs)
  let dashes := cs.takeWhile (· == '-')
  match dashes, cs.dropWhile (· == '-') with
  | [], ']' :: rest => (⟨negated, none, [.single ']']⟩, rest)
  | dashes, rest => (⟨negated, none, dashes.map .single⟩, rest)

/-- A named class such as `[:alpha:]` behind its opening mark. -/
def namedClass? (cs : List Char) : Option (CharClass × List Char) :=
  match cs with
  | ':' :: rest =>
    let (negated, rest) : Bool × List Char :=
      match rest with
      | '^' :: rest => (true, rest)
      | _ => (false, rest)
    match rest.dropWhile (· != ':') with
    | ':' :: ']' :: after =>
      (CharClass.named? (String.ofList (rest.takeWhile (· != ':')))).map fun c =>
        (if negated then .complement c else c, after)
    | _ => none
  | _ => none

/-- One character or escape in a bracket. -/
def bracketAtom? : List Char → Option (Atom × List Char)
  | [] => none
  | '\\' :: rest => escaped? rest
  | c :: rest => some (.literal c, rest)

/-- An item of a bracket: a range, whose ends are characters, or a character or a class alone. -/
def bracketItem? (cs : List Char) : Option (CharClass × List Char) :=
  (bracketAtom? cs).bind fun (first, rest) =>
    let alone : Option (CharClass × List Char) :=
      match first with
      | .literal c => some (.single c, rest)
      | .class c => some (c, rest)
      | .anchor _ => none
    match rest with
    | '-' :: ']' :: _ => alone
    | '-' :: '-' :: _ => alone
    | '-' :: after =>
      match first, bracketAtom? after with
      | .literal low, some (.literal high, rest) =>
        if low ≤ high then some (.range low high, rest) else none
      | _, _ => none
    | _ => alone

/-- The class of the outermost of the open brackets, and what follows it. Each step takes a
character at least, so there are no more of them than characters. -/
def bracketFrom (ignoreCase : Bool) :
    Nat → OpenBracket → List OpenBracket → List Char → Option (CharClass × List Char)
  | 0, _, _, _ => none
  | n + 1, inner, outer, cs =>
    match cs with
    | [] => none
    | '[' :: rest =>
      match namedClass? rest with
      | some (c, after) => bracketFrom ignoreCase n (inner.add c) outer after
      | none =>
        let (b, after) := openBracket rest
        bracketFrom ignoreCase n b (inner :: outer) after
    | ']' :: rest =>
      match outer with
      | [] => some (inner.close ignoreCase, rest)
      | b :: outer => bracketFrom ignoreCase n (b.add (inner.close ignoreCase)) outer rest
    | '&' :: '&' :: rest => bracketFrom ignoreCase n (inner.operate .inter) outer rest
    | '-' :: '-' :: rest => bracketFrom ignoreCase n (inner.operate .difference) outer rest
    | '~' :: '~' :: rest => bracketFrom ignoreCase n (inner.operate .symmetricDifference) outer rest
    | cs =>
      (bracketItem? cs).bind fun (c, after) => bracketFrom ignoreCase n (inner.add c) outer after

/-- A class in brackets behind its opening mark, and what follows it. -/
def bracket? (ignoreCase : Bool) (cs : List Char) : Option (CharClass × List Char) :=
  let (b, rest) := openBracket cs
  bracketFrom ignoreCase (cs.length + 1) b [] rest

end DocShape.Pattern
