import DocShape.Pattern.Bracket

/-!
Patterns for strings: regular expressions that match anywhere in a text. There are classes, groups,
alternatives, repetitions, anchors and switches such as `(?i)`; there is no look-around and there
are no back-references.
-/

namespace DocShape

/-- A pattern: its text, for reports, and what it says. -/
structure Pattern where
  source : String
  expression : Expression
deriving DecidableEq

namespace Pattern

/-- The switches in force. -/
structure Switches where
  ignoreCase : Bool
  multiLine : Bool
  dotAll : Bool

/-- What stands in an alternative. Switches are not something that can be repeated. -/
inductive Item where
  | expression (e : Expression)
  | switches

/-- A group that is open: its alternatives and the items of the latest one, latest first. -/
structure Group where
  choices : List Expression
  items : List Item

namespace Group

def start : Group := ⟨[], []⟩

/-- The alternative that is being read. -/
def alternative (g : Group) : Expression :=
  .sequences (g.items.reverse.filterMap fun
    | .expression e => some e
    | .switches => none)

/-- The whole group. -/
def close (g : Group) : Expression :=
  g.choices.foldl (fun e c => .choice c e) g.alternative

def push (g : Group) (i : Item) : Group :=
  { g with items := i :: g.items }

/-- The group with its latest item repeated; none when there is nothing to repeat. -/
def repeatLast? (g : Group) (least : Nat) (most : Option Nat) : Option Group :=
  match g.items with
  | .expression e :: rest => some { g with items := .expression (.repetition e least most) :: rest }
  | _ => none

end Group

/-- A pattern that is being read: the innermost group, the outer ones with the switches to return
to, the switches in force, and the names of groups. -/
structure Reading where
  inner : Group
  outer : List (Group × Switches)
  switches : Switches
  names : List (List Char)

namespace Reading

def start : Reading := ⟨.start, [], ⟨false, false, false⟩, []⟩

def push (r : Reading) (i : Item) : Reading :=
  { r with inner := r.inner.push i }

/-- The reading in a new group. -/
def openGroup (r : Reading) (switches : Switches) : Reading :=
  { r with inner := .start, outer := (r.inner, r.switches) :: r.outer, switches := switches }

/-- The reading after the end of the innermost group. -/
def closeGroup? (r : Reading) : Option Reading :=
  match r.outer with
  | [] => none
  | (g, switches) :: outer =>
    some { r with inner := g.push (.expression r.inner.close), outer := outer,
                  switches := switches }

/-- A character, in any case when case is disregarded. -/
def literal (s : Switches) (c : Char) : Expression :=
  .one (if s.ignoreCase then .anyCase (.single c) else .single c)

/-- What a character or an escape stands for. -/
def atom (s : Switches) : Atom → Expression
  | .literal c => literal s c
  | .class c => .one c
  | .anchor a => .anchor a

/-- The dot: any character but a line feed, or really any. -/
def dot (s : Switches) : Expression :=
  .one (if s.dotAll then .complement .empty else .complement (.single '\n'))

end Reading

/-- Switches turned on or off one by one; none when one is unknown or comes twice, or when a dash
has nothing behind it. Greed does not decide whether a pattern matches. -/
def readSwitches? (seen : List Char) (on : Bool) (s : Switches) : List Char → Option Switches
  | [] => if !on && seen.head? == some '-' then none else some s
  | c :: rest =>
    if seen.contains c then none
    else
      match c with
      | '-' => readSwitches? ('-' :: seen) false s rest
      | 'i' => readSwitches? ('i' :: seen) on { s with ignoreCase := on } rest
      | 'm' => readSwitches? ('m' :: seen) on { s with multiLine := on } rest
      | 's' => readSwitches? ('s' :: seen) on { s with dotAll := on } rest
      | 'U' => readSwitches? ('U' :: seen) on s rest
      | _ => none

/-- Whether a character may stand in the name of a group, at its beginning or further on. -/
def isNameChar (isFirst : Bool) (c : Char) : Bool :=
  c == '_' || (Text.isWord c && !Text.isDigit c) ||
    (!isFirst && (Text.isDigit c || c == '.' || c == '[' || c == ']'))

/-- The name of a group up to its closing mark, and what follows it. -/
def groupName? (names : List (List Char)) (cs : List Char) : Option (List Char × List Char) :=
  let name := cs.takeWhile (· != '>')
  match name, cs.dropWhile (· != '>') with
  | c :: more, _ :: rest =>
    if isNameChar true c && more.all (isNameChar false) && !names.contains name then
      some (name, rest)
    else none
  | _, _ => none

/-- A group, or switches, behind an opening parenthesis. -/
def group? (r : Reading) (cs : List Char) : Option (Reading × List Char) :=
  let named (rest : List Char) : Option (Reading × List Char) :=
    (groupName? r.names rest).map fun (name, after) =>
      ({ r.openGroup r.switches with names := name :: r.names }, after)
  match cs with
  | '?' :: '=' :: _ | '?' :: '!' :: _ | '?' :: '<' :: '=' :: _ | '?' :: '<' :: '!' :: _ => none
  | '?' :: 'P' :: '<' :: rest => named rest
  | '?' :: '<' :: rest => named rest
  | '?' :: rest =>
    let letters := rest.takeWhile fun c => c != ':' && c != ')'
    match rest.dropWhile fun c => c != ':' && c != ')' with
    | ':' :: after =>
      (readSwitches? [] true r.switches letters).map fun s => (r.openGroup s, after)
    | _ :: after =>
      if letters.isEmpty then none
      else
        (readSwitches? [] true r.switches letters).map fun s =>
          ({ r.push .switches with switches := s }, after)
    | [] => none
  | _ => some (r.openGroup r.switches, cs)

/-- A count with blanks around it, and what follows it. -/
def count? (cs : List Char) : Option (Nat × List Char) :=
  let cs := cs.dropWhile Text.isBlank
  ((digits? (cs.takeWhile Char.isDigit)).filter (· < UInt32.size)).map
    (·, (cs.dropWhile Char.isDigit).dropWhile Text.isBlank)

/-- The counts of a repetition behind an opening brace, and what follows them. -/
def counts? (cs : List Char) : Option ((Nat × Option Nat) × List Char) :=
  (count? cs).bind fun (least, rest) =>
    match rest with
    | '\x7d' :: after => some ((least, some least), after)
    | ',' :: '\x7d' :: after => some ((least, none), after)
    | ',' :: rest =>
      match count? rest with
      | some (most, '\x7d' :: after) =>
        if least ≤ most then some ((least, some most), after) else none
      | _ => none
    | _ => none

/-- The text behind a repetition; a question mark there concerns greed alone. -/
def afterRepetition : List Char → List Char
  | '?' :: rest => rest
  | rest => rest

/-- The latest item repeated. -/
def repeated? (r : Reading) (least : Nat) (most : Option Nat) (rest : List Char) :
    Option (Reading × List Char) :=
  (r.inner.repeatLast? least most).map fun g => ({ r with inner := g }, afterRepetition rest)

/-- The reading after the construct that a character begins, and what follows it. -/
def step? (r : Reading) (c : Char) (rest : List Char) : Option (Reading × List Char) :=
  match c with
  | '(' => group? r rest
  | ')' => r.closeGroup?.map (·, rest)
  | '|' =>
    some ({ r with inner := ⟨r.inner.alternative :: r.inner.choices, []⟩ }, rest)
  | '[' =>
    (bracket? r.switches.ignoreCase rest).map fun (c, after) =>
      (r.push (.expression (.one c)), after)
  | '?' => repeated? r 0 (some 1) rest
  | '*' => repeated? r 0 none rest
  | '+' => repeated? r 1 none rest
  | '\x7b' => (counts? rest).bind fun ((least, most), after) => repeated? r least most after
  | '\\' =>
    (escaped? rest).map fun (a, after) => (r.push (.expression (Reading.atom r.switches a)), after)
  | '.' => some (r.push (.expression (Reading.dot r.switches)), rest)
  | '^' =>
    some (r.push (.expression (.anchor (if r.switches.multiLine then .lineStart else .textStart))),
      rest)
  | '$' =>
    some (r.push (.expression (.anchor (if r.switches.multiLine then .lineEnd else .textEnd))),
      rest)
  | c => some (r.push (.expression (Reading.literal r.switches c)), rest)

/-- The reading after a text. Each step takes a character at least, so there are no more of them
than characters. -/
def readFrom : Nat → Reading → List Char → Option Reading
  | _, r, [] => some r
  | 0, _, _ :: _ => none
  | n + 1, r, c :: rest => (step? r c rest).bind fun (r, after) => readFrom n r after

/-- The most states that a pattern may take, which is ten mebibytes at 32 bytes a state. States are
counted roughly, so a pattern that comes near the limit may be refused although it would just fit,
and the other way round. -/
def weightLimit : Nat := 327680

/-- The pattern that a text writes; none when it is refused. -/
def ofText? (source : String) : Option Pattern :=
  let cs := source.toList
  (readFrom cs.length .start cs).bind fun r =>
    let e := r.inner.close
    if r.outer.isEmpty && e.weight ≤ weightLimit then some ⟨source, e⟩ else none

/-- Whether the pattern matches somewhere in a text. -/
def matchesText (p : Pattern) (s : String) : Bool :=
  p.expression.matchesIn s.toList

/-- The text of the pattern of mail addresses. -/
def emailSource : String :=
  "^[a-zA-Z0-9_.+-]+@[a-zA-Z0-9-]+\\.[a-zA-Z0-9-.]+$"

/-- Mail addresses: a name, an at sign, and a domain with a dot in it. -/
def email : Pattern :=
  (ofText? emailSource).get (by decide +kernel)

theorem ofText?_emailSource : ofText? emailSource = some email :=
  (Option.some_get _).symm

end Pattern
end DocShape
