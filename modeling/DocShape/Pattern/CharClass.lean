import DocShape.Text.Blank
import DocShape.Text.Folding
import DocShape.Text.Letters

/-!
Classes of characters in patterns: what they contain, and how much they weigh in a pattern.
-/

namespace DocShape

/-- A class of characters. -/
inductive CharClass where
  | empty
  /-- From one character to another, both included. -/
  | range (low high : Char)
  | digit
  | blank
  | word
  | complement (c : CharClass)
  | union (c d : CharClass)
  | inter (c d : CharClass)
  /-- The characters of a class and all that differ from one of them in case only. -/
  | anyCase (c : CharClass)
deriving DecidableEq

namespace CharClass

/-- Whether a character belongs to a class. -/
def contains : CharClass → Char → Bool
  | .empty, _ => false
  | .range low high, x => low ≤ x && x ≤ high
  | .digit, x => Text.isDigit x
  | .blank, x => Text.isBlank x
  | .word, x => Text.isWord x
  | .complement c, x => !c.contains x
  | .union c d, x => c.contains x || d.contains x
  | .inter c d, x => c.contains x && d.contains x
  | .anyCase c, x => (Text.caseVariants x).any c.contains

/-- A single character. -/
def single (x : Char) : CharClass := .range x x

/-- The characters of the first class that are not in the second. -/
def difference (c d : CharClass) : CharClass := .inter c (.complement d)

/-- The characters of exactly one of two classes. -/
def symmetricDifference (c d : CharClass) : CharClass :=
  .union (c.difference d) (d.difference c)

/-- All classes together. -/
def unions (cs : List CharClass) : CharClass :=
  cs.foldl .union .empty

/-- The classes of ASCII characters that have names. -/
def named? : String → Option CharClass
  | "alnum" => some (unions [.range '0' '9', .range 'A' 'Z', .range 'a' 'z'])
  | "alpha" => some (unions [.range 'A' 'Z', .range 'a' 'z'])
  | "ascii" => some (.range '\x00' '\x7f')
  | "blank" => some (unions [.single '\t', .single ' '])
  | "cntrl" => some (unions [.range '\x00' '\x1f', .single '\x7f'])
  | "digit" => some (.range '0' '9')
  | "graph" => some (.range '!' '~')
  | "lower" => some (.range 'a' 'z')
  | "print" => some (.range ' ' '~')
  | "punct" =>
    some (unions [.range '!' '/', .range ':' '@', .range '[' '\x60', .range '\x7b' '~'])
  | "space" => some (unions [.range '\t' '\r', .single ' '])
  | "upper" => some (.range 'A' 'Z')
  | "word" => some (unions [.range '0' '9', .range 'A' 'Z', .single '_', .range 'a' 'z'])
  | "xdigit" => some (unions [.range '0' '9', .range 'A' 'F', .range 'a' 'f'])
  | _ => none

/-- About how many states a class takes in an automaton that reads UTF-8: one for each byte of a
character or of a range, two for each range of a table, and thirty for the characters that a
complement is taken from. The other case of a class is taken for one more character. -/
def weight : CharClass → Nat
  | .empty => 1
  | .range _ high => high.utf8Size
  | .digit => 2 * Text.digitRanges.length
  | .blank => 2 * Text.blankRanges.length
  | .word => 2 * Text.wordRanges.length
  | .complement c => c.weight + 30
  | .union c d => c.weight + d.weight
  | .inter c d => c.weight + d.weight
  | .anyCase c => c.weight + 1

end CharClass
end DocShape
