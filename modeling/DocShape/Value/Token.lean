import DocShape.Number.Reading

/-!
The tokens of document text. The text is read one character at a time by a machine whose state is
`Scan`, so the tokens of a text are the fold of `Scan.step` over it.

Main statement: `Scan.run_append`, the tokens of a text in two parts are those of the first part
followed by those of the second from where the first one stopped.
-/

namespace DocShape

/-- A token of document text. -/
inductive Token where
  | openArray
  | closeArray
  | openObject
  | closeObject
  | comma
  | colon
  | null
  | bool (b : Bool)
  | number (n : Number)
  | string (s : String)
deriving DecidableEq

/-- Where in an escape sequence a string is. -/
inductive Escape where
  /-- In none. -/
  | outside
  /-- After a backslash. -/
  | started
  /-- In the four digits of a code unit: how many were read and what they are worth. `high` is the
  leading half of a pair when the unit has to be the trailing one. -/
  | unit (high : Option Nat) (count worth : Nat)
  /-- After the leading half of a pair: a backslash has to follow. -/
  | paired (high : Nat)
  /-- After that backslash: the letter of a code unit has to follow. -/
  | pairedStarted (high : Nat)

/-- What the characters read so far leave unfinished. The latest character comes first. -/
inductive Scan where
  | between
  | word (reversed : List Char)
  | text (reversed : List Char) (escape : Escape)

/-- The token of a run of characters that are neither blank nor punctuation. -/
def Token.ofWord? (cs : List Char) : Option Token :=
  if cs = "null".toList then some .null
  else if cs = "true".toList then some (.bool true)
  else if cs = "false".toList then some (.bool false)
  else (Number.ofText? cs).map .number

/-- The token of a punctuation mark. -/
def Token.ofMark? : Char → Option Token
  | '[' => some .openArray
  | ']' => some .closeArray
  | '\x7b' => some .openObject
  | '\x7d' => some .closeObject
  | ',' => some .comma
  | ':' => some .colon
  | _ => none

namespace Escape

/-- The character that a letter after a backslash stands for. -/
def simple? : Char → Option Char
  | '"' => some '"'
  | '\\' => some '\\'
  | '/' => some '/'
  | 'b' => some '\x08'
  | 'f' => some '\x0c'
  | 'n' => some '\n'
  | 'r' => some '\r'
  | 't' => some '\t'
  | _ => none

/-- The value of a hexadecimal digit. -/
def hexDigit? (c : Char) : Option Nat :=
  if c.isDigit then some (c.toNat - '0'.toNat)
  else if 'a' ≤ c ∧ c ≤ 'f' then some (c.toNat - 'a'.toNat + 10)
  else if 'A' ≤ c ∧ c ≤ 'F' then some (c.toNat - 'A'.toNat + 10)
  else none

def isLeading (n : Nat) : Bool := 0xD800 ≤ n && n ≤ 0xDBFF

def isTrailing (n : Nat) : Bool := 0xDC00 ≤ n && n ≤ 0xDFFF

/-- The state after the four digits of a code unit. Halves of pairs come in pairs only. -/
def finishUnit (reversed : List Char) (high : Option Nat) (worth : Nat) : Option Scan :=
  match high with
  | none =>
    if isLeading worth then some (.text reversed (.paired worth))
    else if isTrailing worth then none
    else some (.text (Char.ofNat worth :: reversed) .outside)
  | some h =>
    if isTrailing worth then
      some (.text (Char.ofNat (0x10000 + (h - 0xD800) * 0x400 + (worth - 0xDC00)) :: reversed)
        .outside)
    else none

end Escape

namespace Scan

/-- A character between tokens. -/
def start (c : Char) : Option (Scan × List Token) :=
  if c = ' ' ∨ c = '\t' ∨ c = '\n' ∨ c = '\r' then some (.between, [])
  else if c = '"' then some (.text [] .outside, [])
  else
    match Token.ofMark? c with
    | some t => some (.between, [t])
    | none => some (.word [c], [])

/-- Whether a character ends a word. -/
def endsWord (c : Char) : Bool :=
  c == ' ' || c == '\t' || c == '\n' || c == '\r' || c == '"' || (Token.ofMark? c).isSome

/-- A character of a string. -/
def stepText (reversed : List Char) (escape : Escape) (c : Char) :
    Option (Scan × List Token) :=
  match escape with
  | .outside =>
    if c = '"' then some (.between, [.string (String.ofList reversed.reverse)])
    else if c = '\\' then some (.text reversed .started, [])
    else if c.toNat < 0x20 then none
    else some (.text (c :: reversed) .outside, [])
  | .started =>
    if c = 'u' then some (.text reversed (.unit none 0 0), [])
    else (Escape.simple? c).map fun d => (.text (d :: reversed) .outside, [])
  | .unit high count worth =>
    (Escape.hexDigit? c).bind fun d =>
      if count = 3 then (Escape.finishUnit reversed high (16 * worth + d)).map (·, [])
      else some (.text reversed (.unit high (count + 1) (16 * worth + d)), [])
  | .paired high => if c = '\\' then some (.text reversed (.pairedStarted high), []) else none
  | .pairedStarted high =>
    if c = 'u' then some (.text reversed (.unit (some high) 0 0), []) else none

/-- The tokens that a state finishes with at the end of a text. -/
def finish? : Scan → Option (List Token)
  | .between => some []
  | .word reversed => (Token.ofWord? reversed.reverse).map ([·])
  | .text _ _ => none

/-- The state after a character, and the tokens that the character completes. -/
def step (s : Scan) (c : Char) : Option (Scan × List Token) :=
  match s with
  | .between => start c
  | .word reversed =>
    if endsWord c then do
      let token ← Token.ofWord? reversed.reverse
      let (next, tokens) ← start c
      return (next, token :: tokens)
    else some (.word (c :: reversed), [])
  | .text reversed escape => stepText reversed escape c

/-- The state after a text, and its tokens with the latest first. -/
def run (s : Scan) (acc : List Token) : List Char → Option (Scan × List Token)
  | [] => some (s, acc)
  | c :: rest =>
    match s.step c with
    | some (next, tokens) => run next (tokens.reverse ++ acc) rest
    | none => none

theorem run_append (s : Scan) (acc : List Token) (cs ds : List Char) :
    run s acc (cs ++ ds) = (run s acc cs).bind fun (s', acc') => run s' acc' ds := by
  induction cs generalizing s acc with
  | nil => rfl
  | cons c rest ih =>
    simp only [List.cons_append, run]
    split
    · exact ih _ _
    · rfl

end Scan

/-- The tokens of a text; none when a part of it is no token. -/
def Token.all? (cs : List Char) : Option (List Token) :=
  (Scan.run .between [] cs).bind fun (s, acc) => s.finish?.map (acc.reverse ++ ·)

end DocShape
