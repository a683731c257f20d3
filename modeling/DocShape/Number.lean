import DocShape.Number.Layout

/-!
The numbers of documents. A number keeps the representation it was written in: a signed word, an
unsigned word that is too large to be a signed one, or a double.

Main statement: `signedWord?_eq_some_iff`, the signed word of an integer.
-/

namespace DocShape

/-- The signed word that `n` is, if there is one. -/
def signedWord? (n : Int) : Option Int64 :=
  if -0x8000000000000000 ≤ n ∧ n < 0x8000000000000000 then some (Int64.ofInt n) else none

/-- It is the only signed word that denotes `n`. -/
theorem signedWord?_eq_some_iff {n : Int} {word : Int64} :
    signedWord? n = some word ↔ word.toInt = n := by
  unfold signedWord?
  split
  · rename_i h
    rw [Option.some.injEq]
    constructor
    · rintro rfl
      exact Int64.toInt_ofInt_of_le h.1 h.2
    · rintro rfl
      exact Int64.ofInt_toInt word
  · rename_i h
    refine iff_of_false nofun ?_
    rintro rfl
    exact h ⟨word.le_toInt, word.toInt_lt⟩

theorem signedWord?_eq_none_iff {n : Int} :
    signedWord? n = none ↔ ¬ (-0x8000000000000000 ≤ n ∧ n < 0x8000000000000000) := by
  unfold signedWord?
  split <;> simp_all

/-- An unsigned word beyond the signed ones. -/
structure LargeWord where
  word : UInt64
  large : 0x8000000000000000 ≤ word.toNat
deriving DecidableEq

/-- A number in one of three representations. -/
inductive Number where
  | integer (n : Int64)
  | large (n : LargeWord)
  | float (x : Binary64)
deriving DecidableEq

namespace Number

/-- Equality within a representation; numbers of two representations differ. -/
def equals : Number → Number → Bool
  | .integer n, .integer m => n == m
  | .large n, .large m => n == m
  | .float x, .float y => x.equals y
  | _, _ => false

/-- The nearest double. -/
def toBinary64 : Number → Binary64
  | .integer n => .ofInt64 n
  | .large n => .ofUInt64 n.word
  | .float x => x

def isFloat : Number → Bool
  | .float _ => true
  | _ => false

/-- Equality across representations: a double equals what converts to an equal double. -/
def same (a b : Number) : Bool :=
  if a.isFloat || b.isFloat then a.toBinary64.equals b.toBinary64 else a.equals b

/-- The integer `n`, if it is a signed word. -/
def ofInt? (n : Int) : Option Number :=
  (signedWord? n).map .integer

/-- The number written as `n`, with a minus sign or without: a word if one can hold it. Minus zero
is a double. -/
def ofWhole? (negative : Bool) (n : Nat) : Option Number :=
  if negative then if n = 0 then none else ofInt? (-n)
  else if h : 0x8000000000000000 ≤ n ∧ n < UInt64.size then
    some (.large ⟨UInt64.ofNatLT n h.2, by rw [UInt64.toNat_ofNatLT]; exact h.1⟩)
  else ofInt? n

/-- The text of a number in a document. -/
def text : Number → String
  | .integer n => toString n.toInt
  | .large n => toString n.word.toNat
  | .float x => x.text .document

end Number
end DocShape
