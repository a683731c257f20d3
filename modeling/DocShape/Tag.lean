import DocShape.Text.Blank
import DocShape.Value

/-!
Type tags: the seven kinds of nodes that lookups and schemas tell apart. Numbers have two tags by
their representation, so a number that is too large for a signed word counts as a float.

Main statements: `tag_defaultValue`, the default of a tag carries it, and `ofText_name`, each tag
is read from its own name.
-/

namespace DocShape

/-- The kind of a node. -/
inductive Tag where
  | string
  | integer
  | float
  | boolean
  | mapping
  | sequence
  | null
deriving DecidableEq

/-- The tag that a node carries. -/
def Value.tag : Value → Tag
  | .null => .null
  | .bool _ => .boolean
  | .number (.integer _) => .integer
  | .number (.large _) | .number (.float _) => .float
  | .string _ => .string
  | .array _ => .sequence
  | .object _ => .mapping

/-- A text that names no tag. -/
structure UnknownTag where
  text : String
deriving DecidableEq

/-- What a report says of the text. -/
def UnknownTag.message (e : UnknownTag) : String :=
  "unknown type tag `" ++ e.text ++ "`"

namespace Tag

/-- All tags, in the order in which they are listed. -/
def all : List Tag :=
  [.string, .integer, .float, .boolean, .mapping, .sequence, .null]

theorem mem_all (t : Tag) : t ∈ all := by
  cases t <;> decide

/-- The name of a tag. -/
def name : Tag → String
  | .string => "string"
  | .integer => "integer"
  | .float => "float"
  | .boolean => "boolean"
  | .mapping => "mapping"
  | .sequence => "sequence"
  | .null => "null"

/-- Whether a node carries the tag. -/
def carriedBy (t : Tag) (v : Value) : Bool :=
  v.tag = t

/-- The node that stands in for a missing one. -/
def defaultValue : Tag → Value
  | .string => .string ""
  | .integer => .number (.integer 0)
  | .float => .number (.float (.zero false))
  | .boolean => .bool false
  | .mapping => .object []
  | .sequence => .array []
  | .null => .null

theorem tag_defaultValue (t : Tag) : t.defaultValue.tag = t := by
  cases t <;> rfl

/-- Whether nodes with the tag hold other nodes. -/
def isContainer : Tag → Bool
  | .mapping | .sequence => true
  | _ => false

/-- The tag of a name in lower case; most tags have a second name or a third. -/
def ofName? : String → Option Tag
  | "string" | "str" => some .string
  | "integer" | "int" => some .integer
  | "float" | "number" => some .float
  | "boolean" | "bool" => some .boolean
  | "mapping" | "map" | "object" => some .mapping
  | "sequence" | "list" | "array" => some .sequence
  | "null" => some .null
  | _ => none

theorem ofName?_name (t : Tag) : ofName? t.name = some t := by
  cases t <;> rfl

/-- The characters in ASCII lower case, without the white space around them. -/
def normalized (text : String) : String :=
  String.ofList ((Text.trimmed text.toList).map Char.toLower)

/-- The tag that a text names, in any case and with white space around it. -/
def ofText (text : String) : Except UnknownTag Tag :=
  match ofName? (normalized text) with
  | some t => .ok t
  | none => .error ⟨text⟩

theorem normalized_name (t : Tag) : normalized t.name = t.name := by
  cases t <;> decide +kernel

theorem ofText_name (t : Tag) : ofText t.name = .ok t := by
  rw [ofText, normalized_name, ofName?_name]

end Tag
end DocShape
