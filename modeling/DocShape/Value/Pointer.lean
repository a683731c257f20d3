import DocShape.Number.Digits
import DocShape.Value

/-!
Pointers into documents: `/a/0/b` selects by keys and positions. In a key `~1` stands for a slash
and `~0` for a tilde. The empty pointer selects the whole document.
-/

namespace DocShape.Value

/-- The characters with `~1` read as a slash. -/
def readSlashes : List Char → List Char
  | '~' :: '1' :: rest => '/' :: readSlashes rest
  | c :: rest => c :: readSlashes rest
  | [] => []

/-- The characters with `~0` read as a tilde. -/
def readTildes : List Char → List Char
  | '~' :: '0' :: rest => '~' :: readTildes rest
  | c :: rest => c :: readTildes rest
  | [] => []

/-- The pieces of a text between its slashes. -/
def slashSeparated : List Char → List (List Char)
  | [] => [[]]
  | '/' :: rest => [] :: slashSeparated rest
  | c :: rest =>
    match slashSeparated rest with
    | piece :: pieces => (c :: piece) :: pieces
    | [] => [[c]]

/-- A position in an array: a word in decimal digits without leading zeros. -/
def position? (cs : List Char) : Option Nat :=
  if cs.head? = some '0' ∧ cs ≠ ['0'] then none
  else (digits? cs).filter (· < UInt64.size)

/-- One step of a pointer. -/
def pointerStep (v : Value) (token : List Char) : Option Value :=
  match v with
  | .object fields => fields.lookup (String.ofList (readTildes (readSlashes token)))
  | .array items => (position? (readTildes (readSlashes token))).bind (items[·]?)
  | _ => none

/-- The node that a pointer selects. -/
def pointer? (v : Value) (pointer : String) : Option Value :=
  match pointer.toList with
  | [] => some v
  | '/' :: rest => (slashSeparated rest).foldlM pointerStep v
  | _ :: _ => none

end DocShape.Value
