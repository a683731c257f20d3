import DocShape.Text.Quoted
import DocShape.Value.Compact

/-!
The outline of a document: each node with the name of its kind, for inspection.
-/

namespace DocShape.Value

mutual
/-- The outline of a node. -/
def outline : Value → String
  | .null => "Null"
  | .bool b => "Bool(" ++ (if b then "true" else "false") ++ ")"
  | .number n => "Number(" ++ n.text ++ ")"
  | .string s => "String(" ++ Text.quoted s ++ ")"
  | .array items => "Array [" ++ ", ".intercalate (itemOutlines items) ++ "]"
  | .object fields => "Object \x7b" ++ ", ".intercalate (fieldOutlines fields) ++ "\x7d"
termination_by structural v => v

def itemOutlines : List Value → List String
  | [] => []
  | v :: rest => v.outline :: itemOutlines rest
termination_by structural a => a

def fieldOutlines : List (String × Value) → List String
  | [] => []
  | (k, v) :: rest => (Text.quoted k ++ ": " ++ v.outline) :: fieldOutlines rest
termination_by structural a => a
end

end DocShape.Value
