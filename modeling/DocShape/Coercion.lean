import DocShape.Number.Reading
import DocShape.Outcome
import DocShape.Tag

/-!
Conversions between nodes of different tags. The matrix `conversion?` lists ten pairs of scalar
tags; a node that carries the wanted tag already is kept.

Main statement: `coerce_eq_kept_iff`, a node is kept exactly when it carries the tag.
-/

namespace DocShape

namespace Coercion

/-- The spellings of true, in lower case. -/
def truthy : List String := ["true", "1", "yes", "y"]

/-- The spellings of false, in lower case. -/
def falsy : List String := ["false", "0", "no", "n"]

def integerToFloat : Value → Option Value
  | .number (.integer n) => some (.number (.float (.ofInt64 n)))
  | _ => none

/-- Drops the fraction. There is no integer below the least word, nor from the greatest word on,
which as a double is the first number beyond the words. -/
def floatToInteger : Value → Option Value
  | .number n =>
    let whole := n.toBinary64.whole
    if whole.units < (Binary64.ofInt64 .minValue).units ∨
        (Binary64.ofInt64 .maxValue).units ≤ whole.units then none
    else some (.number (.integer whole.toInt64))
  | _ => none

def numberToString : Value → Option Value
  | .number n => some (.string n.text)
  | _ => none

def stringToInteger : Value → Option Value
  | .string s => (readInt64? (Text.trimmed s.toList)).map (.number ∘ .integer)
  | _ => none

def stringToFloat : Value → Option Value
  | .string s => (readBinary64? (Text.trimmed s.toList)).map (.number ∘ .float)
  | _ => none

def booleanToInteger : Value → Option Value
  | .bool b => some (.number (.integer (if b then 1 else 0)))
  | _ => none

def integerToBoolean : Value → Option Value
  | .number (.integer n) => some (.bool (n != 0))
  | .number _ => some (.bool true)
  | _ => none

def booleanToString : Value → Option Value
  | .bool b => some (.string (if b then "true" else "false"))
  | _ => none

def stringToBoolean : Value → Option Value
  | .string s =>
    let word := Tag.normalized s
    if word ∈ truthy then some (.bool true)
    else if word ∈ falsy then some (.bool false)
    else none
  | _ => none

/-- The conversions that there are, by the tag they start from and the tag they deliver. -/
def conversion? : (origin target : Tag) → Option (Value → Option Value)
  | .integer, .float => some integerToFloat
  | .float, .integer => some floatToInteger
  | .integer, .string => some numberToString
  | .float, .string => some numberToString
  | .string, .integer => some stringToInteger
  | .string, .float => some stringToFloat
  | .boolean, .integer => some booleanToInteger
  | .integer, .boolean => some integerToBoolean
  | .boolean, .string => some booleanToString
  | .string, .boolean => some stringToBoolean
  | _, _ => none

end Coercion

/-- What becomes of a node that should carry a tag: it is kept if it does, else converted; none
when there is no conversion or it fails on this node. -/
def coerce (v : Value) (target : Tag) : Option Outcome :=
  if v.tag = target then some .kept
  else (Coercion.conversion? v.tag target).bind fun convert => (convert v).map .replaced

theorem coerce_eq_kept_iff {v : Value} {target : Tag} :
    coerce v target = some .kept ↔ v.tag = target := by
  unfold coerce
  split
  · simp_all
  · rename_i h
    cases Coercion.conversion? v.tag target with
    | none => simp [h]
    | some convert => cases convert v <;> simp [h]

end DocShape
