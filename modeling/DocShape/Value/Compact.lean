import DocShape.Value

/-!
The text of a document on one line, without spaces.
-/

namespace DocShape.Value

/-- Two hexadecimal digits of a small code point. -/
def hexPair (n : Nat) : List Char :=
  [Nat.digitChar (n / 16), Nat.digitChar (n % 16)]

/-- One character inside a string: quotes, backslashes and controls are escaped, no other. -/
def escapedChar (c : Char) : List Char :=
  if c = '"' then ['\\', '"']
  else if c = '\\' then ['\\', '\\']
  else if c = '\x08' then ['\\', 'b']
  else if c = '\x0c' then ['\\', 'f']
  else if c = '\n' then ['\\', 'n']
  else if c = '\r' then ['\\', 'r']
  else if c = '\t' then ['\\', 't']
  else if c.toNat < 0x20 then ['\\', 'u', '0', '0'] ++ hexPair c.toNat
  else [c]

/-- A string in a document. -/
def stringText (s : String) : String :=
  String.ofList ('"' :: s.toList.flatMap escapedChar ++ ['"'])

/-- The texts with a comma between each two. -/
def commaSeparated (texts : List String) : String :=
  ",".intercalate texts

mutual
/-- The compact text. -/
def compact : Value → String
  | .null => "null"
  | .bool b => if b then "true" else "false"
  | .number n => n.text
  | .string s => stringText s
  | .array items => "[" ++ commaSeparated (itemTexts items) ++ "]"
  | .object fields => "\x7b" ++ commaSeparated (fieldTexts fields) ++ "\x7d"
termination_by structural v => v

def itemTexts : List Value → List String
  | [] => []
  | v :: rest => v.compact :: itemTexts rest
termination_by structural a => a

def fieldTexts : List (String × Value) → List String
  | [] => []
  | (k, v) :: rest => (stringText k ++ ":" ++ v.compact) :: fieldTexts rest
termination_by structural a => a
end

theorem itemTexts_eq_map (items : List Value) : itemTexts items = items.map compact := by
  induction items with
  | nil => rfl
  | cons v rest ih => simp [itemTexts, ih]

theorem fieldTexts_eq_map (fields : List (String × Value)) :
    fieldTexts fields = fields.map fun e => stringText e.1 ++ ":" ++ e.2.compact := by
  induction fields with
  | nil => rfl
  | cons e rest ih => simp [fieldTexts, ih]

end DocShape.Value
