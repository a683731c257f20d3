import DocShape.Number.Digits
import DocShape.Pattern.Expression

/-!
Escape sequences of patterns: a backslash and what follows it stands for a character, a class or an
anchor. Back-references do not exist, and letters without a meaning are refused.
-/

namespace DocShape.Pattern

/-- What a character or an escape sequence stands for. -/
inductive Atom where
  | literal (c : Char)
  | class (c : CharClass)
  | anchor (a : Anchor)

/-- The value of hexadecimal digits; none when there is another character. -/
def hexValue? (cs : List Char) : Option Nat :=
  cs.foldlM (fun n c =>
    if c.isDigit then some (16 * n + (c.toNat - '0'.toNat))
    else if 'a' ≤ c ∧ c ≤ 'f' then some (16 * n + (c.toNat - 'a'.toNat + 10))
    else if 'A' ≤ c ∧ c ≤ 'F' then some (16 * n + (c.toNat - 'A'.toNat + 10))
    else none) 0

/-- The character of a code point. -/
def charOf? (n : Nat) : Option Char :=
  if h : n.isValidChar then some (Char.ofNatAux n h) else none

/-- A code point in hexadecimal: so many digits, or any number of them in braces. -/
def codePoint? (digits : Nat) (cs : List Char) : Option (Char × List Char) :=
  match cs with
  | '\x7b' :: rest =>
    let inside := rest.takeWhile (· != '\x7d')
    match rest.dropWhile (· != '\x7d') with
    | _ :: after =>
      if inside.isEmpty then none
      else ((hexValue? inside).bind charOf?).map (·, after)
    | [] => none
  | _ =>
    if cs.length < digits then none
    else ((hexValue? (cs.take digits)).bind charOf?).map (·, cs.drop digits)

/-- The kinds of word boundaries that have names in braces. -/
def namedBoundary? (cs : List Char) : Option Anchor :=
  if cs = "start".toList then some .wordStart
  else if cs = "end".toList then some .wordEnd
  else if cs = "start-half".toList then some .wordStartHalf
  else if cs = "end-half".toList then some .wordEndHalf
  else none

/-- The rest of a word boundary. A brace with a letter or a dash behind it begins a name, any other
one is left for a repetition. -/
def boundary? (cs : List Char) : Option (Anchor × List Char) :=
  let isNamed (c : Char) : Bool := c.isAlpha || c == '-'
  match cs with
  | ['\x7b'] => none
  | '\x7b' :: c :: rest =>
    if isNamed c then
      match (c :: rest).dropWhile isNamed with
      | '\x7d' :: after =>
        (namedBoundary? ((c :: rest).takeWhile isNamed)).map (·, after)
      | _ => none
    else some (.wordBoundary, cs)
  | _ => some (.wordBoundary, cs)

/-- The characters with a meaning in patterns. -/
def special : List Char :=
  ['\\', '.', '+', '*', '?', '(', ')', '|', '[', ']', '\x7b', '\x7d', '^', '$', '#', '&', '-', '~']

/-- Whether a backslash may stand before a character that then means itself. -/
def escapable (c : Char) : Bool :=
  special.contains c || (c.toNat < 0x80 && !c.isAlphanum && c != '<' && c != '>')

/-- What follows a backslash, and the text behind it. -/
def escaped? : List Char → Option (Atom × List Char)
  | [] => none
  | 'x' :: rest => (codePoint? 2 rest).map fun (c, after) => (.literal c, after)
  | 'u' :: rest => (codePoint? 4 rest).map fun (c, after) => (.literal c, after)
  | 'U' :: rest => (codePoint? 8 rest).map fun (c, after) => (.literal c, after)
  | 'b' :: rest => (boundary? rest).map fun (a, after) => (.anchor a, after)
  | c :: rest =>
    (match c with
      | 'd' => some (.class .digit)
      | 'D' => some (.class (.complement .digit))
      | 's' => some (.class .blank)
      | 'S' => some (.class (.complement .blank))
      | 'w' => some (.class .word)
      | 'W' => some (.class (.complement .word))
      | 'a' => some (.literal '\x07')
      | 'f' => some (.literal '\x0c')
      | 't' => some (.literal '\t')
      | 'n' => some (.literal '\n')
      | 'r' => some (.literal '\r')
      | 'v' => some (.literal '\x0b')
      | 'A' => some (.anchor .textStart)
      | 'z' => some (.anchor .textEnd)
      | 'B' => some (.anchor .noWordBoundary)
      | '<' => some (.anchor .wordStart)
      | '>' => some (.anchor .wordEnd)
      | c => if escapable c then some (.literal c) else none : Option Atom).map (·, rest)

end DocShape.Pattern
