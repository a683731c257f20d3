import DocShape.Pattern.CharClass

/-!
What patterns say, and where they match. A set of positions in a text is kept as the bits of a
number; an expression takes the positions where a match may begin to those where it may end.

Main statement: `testBit_bits`, which positions a set holds.
-/

namespace DocShape

/-- A condition on the place between two characters. -/
inductive Anchor where
  | textStart
  | textEnd
  | lineStart
  | lineEnd
  | wordBoundary
  | noWordBoundary
  | wordStart
  | wordEnd
  | wordStartHalf
  | wordEndHalf
deriving DecidableEq

/-- What a pattern says. -/
inductive Expression where
  | empty
  | one (c : CharClass)
  | anchor (a : Anchor)
  | sequence (e f : Expression)
  | choice (e f : Expression)
  /-- At least so many times, and at most so many when there is a limit. -/
  | repetition (e : Expression) (least : Nat) (most : Option Nat)
deriving DecidableEq

namespace Anchor

/-- Whether the condition holds between the character before and the one after. -/
def holds (a : Anchor) (before after : Option Char) : Bool :=
  let wordBefore := before.any Text.isWord
  let wordAfter := after.any Text.isWord
  match a with
  | .textStart => before.isNone
  | .textEnd => after.isNone
  | .lineStart => before.isNone || before == some '\n'
  | .lineEnd => after.isNone || after == some '\n'
  | .wordBoundary => wordBefore != wordAfter
  | .noWordBoundary => wordBefore == wordAfter
  | .wordStart => !wordBefore && wordAfter
  | .wordEnd => wordBefore && !wordAfter
  | .wordStartHalf => !wordBefore
  | .wordEndHalf => !wordAfter

end Anchor

namespace Expression

/-- The number whose bits are the given ones, the lowest first. -/
def bits : List Bool → Nat
  | [] => 0
  | b :: rest => b.toNat + 2 * bits rest

theorem testBit_bits (bs : List Bool) (i : Nat) : (bits bs).testBit i = bs[i]?.getD false := by
  induction bs generalizing i with
  | nil => simp [bits]
  | cons b rest ih =>
    cases i with
    | zero => cases b <;> simp [bits, Nat.testBit_zero, Nat.add_mod]
    | succ i =>
      have hb := b.toNat_le
      have h : (b.toNat + 2 * bits rest) / 2 = bits rest := by omega
      simp [bits, Nat.testBit_succ, h, ih]

/-- The positions before a character of the class. -/
def positionsOf (c : CharClass) (text : List Char) : Nat :=
  bits (text.map c.contains)

/-- The positions where a condition holds; `before` is the character in front of the text. -/
def anchored (a : Anchor) : (before : Option Char) → (text : List Char) → List Bool
  | before, [] => [a.holds before none]
  | before, c :: rest => a.holds before (some c) :: anchored a (some c) rest

/-- The positions that `f` reaches from `s` in exactly so many steps. -/
def steps (f : Nat → Nat) : Nat → Nat → Nat
  | 0, s => s
  | n + 1, s => steps f n (f s)

/-- `seen` and the positions that `f` reaches from `s` in at most so many steps. Nothing new is
reached once a step stays within what was seen. -/
def reach (f : Nat → Nat) : Nat → (seen s : Nat) → Nat
  | 0, seen, _ => seen
  | n + 1, seen, s =>
    let next := f s
    if seen ||| next = seen then seen else reach f n (seen ||| next) next

/-- The positions where a match may end when it begins at one of `starts`. Repeating an expression
without a limit reaches nothing new after as many times as the text has characters. -/
def ends (text : List Char) : Expression → (starts : Nat) → Nat
  | .empty, s => s
  | .one c, s => (s &&& positionsOf c text) <<< 1
  | .anchor a, s => s &&& bits (anchored a none text)
  | .sequence e f, s => ends text f (ends text e s)
  | .choice e f, s => ends text e s ||| ends text f s
  | .repetition e least most, s =>
    let begun := steps (ends text e) least s
    let further :=
      match most with
      | some most => most - least
      | none => text.length + 1
    reach (ends text e) further begun begun

/-- Whether the expression matches somewhere in the text. -/
def matchesIn (e : Expression) (text : List Char) : Bool :=
  ends text e (bits (List.replicate (text.length + 1) true)) != 0

/-- The expressions one after the other. -/
def sequences (es : List Expression) : Expression :=
  es.foldr .sequence .empty

/-- About how many states the expression takes when each repetition is written out. Groups, and the
joints of alternatives and repetitions, are not counted. -/
def weight : Expression → Nat
  | .empty => 0
  | .one c => c.weight
  | .anchor _ => 1
  | .sequence e f => e.weight + f.weight
  | .choice e f => e.weight + f.weight
  | .repetition e least most => e.weight * max 1 (max least (most.getD 0))

end Expression
end DocShape
