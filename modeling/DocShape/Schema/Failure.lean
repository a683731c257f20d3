import DocShape.Path
import DocShape.Pattern
import DocShape.Schema.Bound
import DocShape.Tag
import DocShape.Text.Quoted
import DocShape.Value.Compact

/-!
Failures of checks: where a node failed and why. A report names the rule that failed and says what
was expected.
-/

namespace DocShape

/-- Why a node fails. -/
inductive Cause where
  | mismatch (expected found : Tag)
  | unlisted (allowed : List Value) (found : Value)
  | outOfBound (side : Side) (bound : Bound) (measured : Binary64)
  | unmatched (pattern : Pattern) (text : String)
  | missing (key : String)
  | unexpected (key : String)
  | lengths (expected found : Nat)
  | different (expected found : Value)
deriving DecidableEq

/-- The rules that a node may fail. -/
inductive Rule where
  | type
  | enum
  | min
  | max
  | pattern
  | required
  | additionalProperties
  | literalMismatch
deriving DecidableEq

/-- The name of a rule. -/
def Rule.name : Rule → String
  | .type => "type"
  | .enum => "enum"
  | .min => "min"
  | .max => "max"
  | .pattern => "pattern"
  | .required => "required"
  | .additionalProperties => "additionalProperties"
  | .literalMismatch => "literal-mismatch"

namespace Cause

/-- The rule that failed. -/
def rule : Cause → Rule
  | .mismatch _ _ => .type
  | .unlisted _ _ => .enum
  | .outOfBound .min _ _ => .min
  | .outOfBound .max _ _ => .max
  | .unmatched _ _ => .pattern
  | .missing _ => .required
  | .unexpected _ => .additionalProperties
  | .lengths _ _ => .literalMismatch
  | .different _ _ => .literalMismatch

/-- What a report says of the cause. -/
def message : Cause → String
  | .mismatch expected found => "expected " ++ expected.name ++ ", found " ++ found.name
  | .unlisted allowed found =>
    "expected one of [" ++ ", ".intercalate (allowed.map Value.compact) ++ "], found " ++
      found.compact
  | .outOfBound side bound measured =>
    "expected " ++ measured.text .message ++ " to be " ++ bound.relation side ++ " " ++
      bound.limit.text
  | .unmatched pattern text =>
    "expected " ++ Text.quoted text ++ " to match /" ++ pattern.source ++ "/"
  | .missing key => "missing required field `" ++ key ++ "`"
  | .unexpected key => "unexpected key `" ++ key ++ "`"
  | .lengths expected found =>
    "expected " ++ toString expected ++ " elements, found " ++ toString found
  | .different expected found => "expected " ++ expected.compact ++ ", found " ++ found.compact

end Cause

/-- A failure: the way from the root to the node at fault, and the cause. -/
structure Failure where
  trail : Path
  cause : Cause
deriving DecidableEq

namespace Failure

/-- The place as path text; the root has none. -/
def path (f : Failure) : String := Path.text f.trail

def rule (f : Failure) : Rule := f.cause.rule

def message (f : Failure) : String := f.cause.message

/-- The place as reports name it. -/
def location (f : Failure) : String :=
  if f.path.isEmpty then "(root)" else f.path

/-- The failure on one line. -/
def text (f : Failure) : String :=
  f.message ++ " at " ++ f.location ++ ": " ++ f.rule.name

/-- The failure as a document. -/
def toValue (f : Failure) : Value :=
  .object [("path", .string f.path), ("rule", .string f.rule.name), ("message", .string f.message)]

end Failure
end DocShape
