import DocShape.Value

/-!
Bounds on magnitudes and lengths. A limit is a double that need not be finite; an undefined limit
admits nothing.
-/

namespace DocShape

/-- The limit of a bound. -/
inductive Limit where
  | finite (x : Binary64)
  | infinite (negative : Bool)
  | undefined
deriving DecidableEq

namespace Limit

/-- The text of a limit in a report. -/
def text : Limit → String
  | .finite x => x.text .message
  | .infinite negative => if negative then "-inf" else "inf"
  | .undefined => "NaN"

/-- Where a number lies relative to a limit. -/
def place (x : Binary64) : Limit → Option Ordering
  | .finite y => some (compare x.units y.units)
  | .infinite negative => some (if negative then .gt else .lt)
  | .undefined => none

/-- The limit that a number is. -/
def ofNumber (n : Number) : Limit :=
  .finite n.toBinary64

/-- The limit after a detour through single precision, where large numbers become infinite. -/
def throughSingle : Limit → Limit
  | .finite x =>
    match x.throughSingle? with
    | some y => .finite y
    | none => .infinite x.negative
  | l => l

end Limit

/-- A limit that belongs to what is admitted or not. -/
structure Bound where
  limit : Limit
  inclusive : Bool
deriving DecidableEq

/-- Which end a bound is. -/
inductive Side where
  | min
  | max
deriving DecidableEq

namespace Bound

/-- Whether a bound admits a number. -/
def admits (b : Bound) (side : Side) (x : Binary64) : Bool :=
  match b.limit.place x, side with
  | some .eq, _ => b.inclusive
  | some .gt, .min => true
  | some .lt, .max => true
  | _, _ => false

/-- What the number should be to the limit. -/
def relation (b : Bound) : Side → String
  | .min => if b.inclusive then "greater than or equal to" else "greater than"
  | .max => if b.inclusive then "less than or equal to" else "less than"

end Bound

/-- What a bound measures: the magnitude of a number, the characters of a string, the items of an
array. Other nodes have no measure. -/
def Value.measure? : Value → Option Binary64
  | .number n => some n.toBinary64
  | .string s => Binary64.ofRatio? false s.length 1
  | .array items => Binary64.ofRatio? false items.length 1
  | _ => none

end DocShape
