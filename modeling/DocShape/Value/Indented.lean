import DocShape.Value.Compact

/-!
The text of a document over several lines, two spaces further in at each level. Empty arrays and
objects stay on their line.
-/

namespace DocShape.Value

/-- A line break and the indentation of a level. -/
def lineBreak (level : Nat) : String :=
  String.ofList ('\n' :: List.replicate (2 * level) ' ')

/-- The entries of a container, each on a line of its own one level further in. -/
def block (opening closing : String) (level : Nat) : List String → String
  | [] => opening ++ closing
  | entries =>
    opening ++ lineBreak (level + 1) ++ ("," ++ lineBreak (level + 1)).intercalate entries ++
      lineBreak level ++ closing

mutual
/-- The text of a node that starts at a level of indentation. -/
def indentedAt (level : Nat) : Value → String
  | .array items => block "[" "]" level (indentedItems (level + 1) items)
  | .object fields => block "\x7b" "\x7d" level (indentedFields (level + 1) fields)
  | .null => compact .null
  | .bool b => compact (.bool b)
  | .number n => compact (.number n)
  | .string s => compact (.string s)
termination_by structural v => v

def indentedItems (level : Nat) : List Value → List String
  | [] => []
  | v :: rest => indentedAt level v :: indentedItems level rest
termination_by structural a => a

def indentedFields (level : Nat) : List (String × Value) → List String
  | [] => []
  | (k, v) :: rest => (stringText k ++ ": " ++ indentedAt level v) :: indentedFields level rest
termination_by structural a => a
end

/-- The indented text. -/
def indented (v : Value) : String :=
  indentedAt 0 v

end DocShape.Value
