import DocShape.Schema

/-!
Modifiers: the single changes that refine a schema. They leave what a schema checks for as it is
and change its rules, its pattern or its openness.

Main statement: `tag?_modify`.
-/

namespace DocShape

/-- A change to a schema. -/
inductive Modifier where
  | bound (side : Side) (b : Bound)
  | allow (values : List Value)
  | coerces
  | isOptional
  | nullable
  | default (v : Value)
  /-- Of use for strings only. -/
  | pattern (p : Pattern)
  /-- Whether an object may have fields that are not declared. -/
  | isOpen (b : Bool)

namespace Schema

/-- The schema with a pattern, if it is for strings. -/
def setPattern (p : Pattern) : Schema → Schema
  | .leaf (.string _) r => .leaf (.string (some p)) r
  | s => s

/-- The schema with other fields permitted or not, if it is for objects. -/
def setOpen (b : Bool) : Schema → Schema
  | .object shape _ r => .object shape b r
  | s => s

/-- The schema after a change. -/
def modify (s : Schema) : Modifier → Schema
  | .bound .min b => s.mapRules ({ · with min := some b })
  | .bound .max b => s.mapRules ({ · with max := some b })
  | .allow values => s.mapRules ({ · with allowed := some values })
  | .coerces => s.mapRules ({ · with coerces := true })
  | .isOptional => s.mapRules ({ · with isOptional := true })
  | .nullable => s.mapRules ({ · with nullable := true })
  | .default v => s.mapRules ({ · with default := some v })
  | .pattern p => s.setPattern p
  | .isOpen b => s.setOpen b

/-- The schema after some changes, from left to right. -/
def modifyAll (s : Schema) (ms : List Modifier) : Schema :=
  ms.foldl modify s

theorem tag?_setPattern (p : Pattern) (s : Schema) : (s.setPattern p).tag? = s.tag? := by
  cases s with
  | leaf kind r => cases kind <;> rfl
  | _ => rfl

theorem tag?_setOpen (b : Bool) (s : Schema) : (s.setOpen b).tag? = s.tag? := by
  cases s <;> rfl

theorem tag?_modify (s : Schema) (m : Modifier) : (s.modify m).tag? = s.tag? := by
  cases m with
  | bound side b => cases side <;> exact tag?_mapRules _ s
  | pattern p => exact tag?_setPattern p s
  | isOpen b => exact tag?_setOpen b s
  | _ => exact tag?_mapRules _ s

end Schema
end DocShape
