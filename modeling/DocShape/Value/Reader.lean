import DocShape.Value
import DocShape.Value.Token

/-!
Reading documents from their tokens. The reader is a machine with a stack of the containers that
are open; a document is read when one value is complete and nothing follows.

`Value.read?` accepts exactly one document with blanks around it, in which no more containers are
open at a time than it is told to allow.
-/

namespace DocShape

/-- A container that is being read: its items, the latest first, or its fields and the key whose
value comes next. -/
inductive OpenContainer where
  | array (reversed : List Value)
  | object (fields : List (String × Value)) (key : String)

/-- What may come next. -/
inductive Awaited where
  /-- A value. -/
  | value
  /-- A value, or the end of the array that just began. -/
  | firstItem
  /-- A key, or the end of the object that just began. -/
  | firstKey
  /-- A key. -/
  | key
  /-- The colon after a key. -/
  | colon
  /-- A comma, or the end of the innermost container with this value as its last one. -/
  | separator (last : Value)

/-- The containers that are open, innermost first, and what may come next. -/
structure Reader where
  stack : List OpenContainer
  awaited : Awaited

namespace Reader

/-- The reader at the beginning of a document. -/
def start : Reader := ⟨[], .value⟩

/-- The reader after a complete value. -/
def deliver (stack : List OpenContainer) (v : Value) : Reader :=
  ⟨stack, .separator v⟩

/-- The reader at a token that begins a value. -/
def begin (limit : Nat) (stack : List OpenContainer) : Token → Option Reader
  | .null => some (deliver stack .null)
  | .bool b => some (deliver stack (.bool b))
  | .number n => some (deliver stack (.number n))
  | .string s => some (deliver stack (.string s))
  | .openArray => if stack.length < limit then some ⟨.array [] :: stack, .firstItem⟩ else none
  | .openObject => if stack.length < limit then some ⟨.object [] "" :: stack, .firstKey⟩ else none
  | _ => none

/-- The reader after a token; none when the token may not come here. -/
def step (limit : Nat) (r : Reader) (t : Token) : Option Reader :=
  match r.awaited, r.stack, t with
  | .value, stack, t => begin limit stack t
  | .firstItem, .array _ :: stack, .closeArray => some (deliver stack (.array []))
  | .firstItem, stack, t => begin limit stack t
  | .firstKey, .object _ _ :: stack, .closeObject => some (deliver stack (.object []))
  | .firstKey, .object fields _ :: stack, .string k => some ⟨.object fields k :: stack, .colon⟩
  | .key, .object fields _ :: stack, .string k => some ⟨.object fields k :: stack, .colon⟩
  | .colon, stack, .colon => some ⟨stack, .value⟩
  | .separator v, .array reversed :: stack, .comma => some ⟨.array (v :: reversed) :: stack, .value⟩
  | .separator v, .array reversed :: stack, .closeArray =>
    some (deliver stack (.array (v :: reversed).reverse))
  | .separator v, .object fields k :: stack, .comma =>
    some ⟨.object (Entries.insert k v fields) "" :: stack, .key⟩
  | .separator v, .object fields k :: stack, .closeObject =>
    some (deliver stack (.object (Entries.insert k v fields)))
  | _, _, _ => none

/-- The document, if the reader is at its end. -/
def finish? (r : Reader) : Option Value :=
  match r.stack, r.awaited with
  | [], .separator v => some v
  | _, _ => none

end Reader

/-- The document that a text holds, with at most `limit` containers open at a time. Of a repeated
key the first place and the last value count. -/
def Value.read? (limit : Nat) (text : String) : Option Value := do
  let tokens ← Token.all? text.toList
  let reader ← tokens.foldlM (Reader.step limit) Reader.start
  reader.finish?

end DocShape
