/-!
Patterns for file names. A question mark stands for one character, an asterisk for any number, and
brackets for one of a choice of characters or ranges, negated by an exclamation mark. Two asterisks
make up a whole component and stand for any number of folders.
-/

namespace DocShape

/-- A choice within brackets. -/
inductive NameRange where
  | one (c : Char)
  | range (low high : Char)
deriving DecidableEq

/-- A piece of a file name pattern. -/
inductive NameToken where
  | char (c : Char)
  | anyChar
  | anyNumber
  | anyFolders
  | oneOf (negated : Bool) (ranges : List NameRange)
deriving DecidableEq

/-- What is wrong with a pattern. -/
inductive WildcardFault where
  | tooManyStars
  | starsInName
  | badRange
deriving DecidableEq

/-- A pattern that is refused: the position in characters, and what is wrong. -/
structure WildcardError where
  position : Nat
  fault : WildcardFault
deriving DecidableEq

/-- What a report says of the pattern. -/
def WildcardError.message (e : WildcardError) : String :=
  "Pattern syntax error near position " ++ toString e.position ++ ": " ++
    match e.fault with
    | .tooManyStars => "wildcards are either regular `*` or recursive `**`"
    | .starsInName => "recursive wildcards must form a single path component"
    | .badRange => "invalid range pattern"

namespace NameRange

def contains (c : Char) : NameRange → Bool
  | .one d => c == d
  | .range low high => low ≤ c && c ≤ high

/-- The choices that stand within brackets. -/
def ofChars : List Char → List NameRange
  | low :: '-' :: high :: rest => .range low high :: ofChars rest
  | c :: rest => .one c :: ofChars rest
  | [] => []

end NameRange

namespace NameToken

/-- Whether a single character fits; the tokens for many fit none. -/
def fits (c : Char) : NameToken → Bool
  | .char d => c == d
  | .anyChar => true
  | .oneOf negated ranges => ranges.any (·.contains c) != negated
  | .anyNumber | .anyFolders => false

/-- The character that a token writes out. -/
def char? : NameToken → Option Char
  | .char c => some c
  | _ => none

/-- The brackets that come first, with an exclamation mark or without: at least one character
stands in them, also a closing mark. -/
def brackets? (cs : List Char) : Option (NameToken × List Char) :=
  let closed (negated : Bool) (first : Char) (rest : List Char) : Option (NameToken × List Char) :=
    match rest.dropWhile (· != ']') with
    | _ :: after =>
      some (.oneOf negated (NameRange.ofChars (first :: rest.takeWhile (· != ']'))), after)
    | [] => none
  match cs with
  | '!' :: first :: rest => closed true first rest
  | '!' :: [] => none
  | first :: rest => closed false first rest
  | [] => none

end NameToken

/-- The pieces of a pattern from a position on. The character before the rest tells whether two
asterisks begin a component. Each step takes a character at least. -/
def NameToken.allFrom : (steps : Nat) → (position : Nat) → (before : Option Char) → List Char →
    Except WildcardError (List NameToken)
  | _, _, _, [] => .ok []
  | 0, _, _, _ :: _ => .ok []
  | n + 1, i, before, c :: rest =>
    match c with
    | '?' => (allFrom n (i + 1) (some c) rest).map (.anyChar :: ·)
    | '*' =>
      let stars := 1 + (rest.takeWhile (· == '*')).length
      let after := rest.dropWhile (· == '*')
      if stars = 1 then (allFrom n (i + 1) (some c) rest).map (.anyNumber :: ·)
      else if 2 < stars then .error ⟨i + 2, .tooManyStars⟩
      else if before.isSome && before != some '/' then .error ⟨i - 1, .starsInName⟩
      else
        match after with
        | [] => .ok [.anyFolders]
        | '/' :: rest => (allFrom n (i + 3) (some '/') rest).map (.anyFolders :: ·)
        | _ :: _ => .error ⟨i + 2, .starsInName⟩
    | '[' =>
      match brackets? rest with
      | some (token, after) =>
        let i := i + 1 + (rest.length - after.length)
        (allFrom n i (some ']') after).map (token :: ·)
      | none => .error ⟨i, .badRange⟩
    | c => (allFrom n (i + 1) (some c) rest).map (.char c :: ·)

/-- The pieces of a pattern. -/
def NameToken.ofText (cs : List Char) : Except WildcardError (List NameToken) :=
  allFrom cs.length 0 none cs

/-- The text and all that is left when characters are dropped from its front. -/
def suffixes : List Char → List (List Char)
  | [] => [[]]
  | c :: rest => (c :: rest) :: suffixes rest

/-- Whether a name fits the pieces of a pattern. -/
def fitsAll : List NameToken → List Char → Bool
  | [], cs => cs.isEmpty
  | .anyNumber :: ts, cs => (suffixes cs).any (fitsAll ts)
  | .anyFolders :: ts, cs => (suffixes cs).any (fitsAll ts)
  | _ :: _, [] => false
  | t :: ts, c :: cs => t.fits c && fitsAll ts cs

/-- One component of a pattern for paths. -/
structure NamePattern where
  tokens : List NameToken
deriving DecidableEq

namespace NamePattern

/-- Whether the component stands for any number of folders. -/
def isRecursive (p : NamePattern) : Bool :=
  p.tokens.contains .anyFolders

/-- The name that the component is, if nothing in it is a wildcard. -/
def literal? (p : NamePattern) : Option String :=
  (p.tokens.mapM NameToken.char?).map String.ofList

def fits (p : NamePattern) (name : String) : Bool :=
  fitsAll p.tokens name.toList

/-- Whether the component begins with a dot that is written out. -/
def beginsWithDot (p : NamePattern) : Bool :=
  p.tokens.head? == some (.char '.')

end NamePattern
end DocShape
