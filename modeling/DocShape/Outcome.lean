import DocShape.Value

/-!
What becomes of a node that passes through a conversion or a check: it is kept, or something
stands in its place. A kept node need not be copied, and a container is rebuilt only when
something in it was replaced.
-/

namespace DocShape

/-- What becomes of a node. -/
inductive Outcome where
  | kept
  | replaced (w : Value)
deriving DecidableEq

namespace Outcome

/-- The node afterwards. -/
def on (v : Value) : Outcome → Value
  | .kept => v
  | .replaced w => w

def isKept : Outcome → Bool
  | .kept => true
  | .replaced _ => false

/-- The replacement, if there is one. -/
def replacement? : Outcome → Option Value
  | .kept => none
  | .replaced w => some w

@[simp] theorem on_kept (v : Value) : kept.on v = v := rfl

@[simp] theorem on_replaced (v w : Value) : (replaced w).on v = w := rfl

end Outcome
end DocShape
