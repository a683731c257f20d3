import DocShape.Number.Digits
import DocShape.Path

/-!
Reading paths. Segments are taken off the front of the text one at a time: a name, set off by a dot
unless it comes first, or a position in brackets, with a dot in front or without, and an optional
mark behind.

Main statement: `length_of_takeSegment`, each segment takes characters, which bounds the reading.
-/

namespace DocShape

/-- Why a text is no path. -/
inductive PathFault where
  | emptyPath
  | emptySegment
  | unmatchedOpen
  | unmatchedClose
  | misplacedMark
  | unexpectedCharacter
  | noIndex
  | noSeparator
deriving DecidableEq

/-- What a report says of the fault. -/
def PathFault.reason : PathFault → String
  | .emptyPath => "empty path"
  | .emptySegment => "empty segment"
  | .unmatchedOpen => "unmatched `[`"
  | .unmatchedClose => "unmatched `]`"
  | .misplacedMark => "misplaced `?`"
  | .unexpectedCharacter => "unexpected character"
  | .noIndex => "index must be a non-negative integer"
  | .noSeparator => "expected `.` or `[` between segments"

/-- A text that is no path. The offset of the segment at fault is in bytes. -/
structure PathSyntaxError where
  text : String
  offset : Nat
  fault : PathFault
deriving DecidableEq

/-- What a report says of the text. -/
def PathSyntaxError.message (e : PathSyntaxError) : String :=
  "malformed path `" ++ e.text ++ "` at offset " ++ toString e.offset ++ ": " ++ e.fault.reason

namespace Path

/-- Whether a character may stand in a name. -/
def isNameChar (c : Char) : Bool :=
  c != '.' && c != '[' && c != ']' && c != '?'

/-- Whether a dot comes first, and what follows it. -/
def splitDot : List Char → Bool × List Char
  | '.' :: rest => (true, rest)
  | cs => (false, cs)

/-- Whether an optional mark comes first, and what follows it. -/
def splitMark : List Char → Bool × List Char
  | '?' :: rest => (true, rest)
  | cs => (false, cs)

/-- What stands in the brackets that come first, and what follows them. -/
def splitBrackets? : List Char → Option (List Char × List Char)
  | '[' :: rest =>
    if ']' ∈ rest then some (rest.takeWhile (· != ']'), (rest.dropWhile (· != ']')).drop 1)
    else none
  | _ => none

/-- A position: decimal digits that make up a word, with a plus sign or without. -/
def index? (cs : List Char) : Option Nat :=
  let digits :=
    match cs with
    | '+' :: rest => rest
    | _ => cs
  (digits? digits).filter (· < UInt64.size)

/-- Why no segment begins here. -/
def faultAt (cs : List Char) : PathFault :=
  let (dotted, body) := splitDot cs
  match body.head?, dotted with
  | none, true | some '.', true | some '?', true => .emptySegment
  | some '[', _ => .unmatchedOpen
  | some ']', _ => .unmatchedClose
  | some '?', _ => .misplacedMark
  | _, _ => .unexpectedCharacter

/-- The step that comes first, as the beginning of a path or after another one, and what follows
it. -/
def takeStep (isFirst : Bool) (cs : List Char) : Except PathFault (Step × List Char) :=
  let (dotted, body) := splitDot cs
  match splitBrackets? body with
  | some (inside, rest) =>
    if isFirst && dotted then .error .emptySegment
    else
      match index? inside with
      | some position => .ok (.index position, rest)
      | none => .error .noIndex
  | none =>
    let name := body.takeWhile isNameChar
    if name.isEmpty then .error (faultAt cs)
    else if isFirst && dotted then .error .emptySegment
    else if !isFirst && !dotted then .error .noSeparator
    else .ok (.key (String.ofList name), body.dropWhile isNameChar)

/-- The segment that comes first, and what follows it. -/
def takeSegment (isFirst : Bool) (cs : List Char) : Except PathFault (Segment × List Char) :=
  match takeStep isFirst cs with
  | .ok (step, rest) => .ok (⟨step, (splitMark rest).1⟩, (splitMark rest).2)
  | .error fault => .error fault

theorem length_splitDot (cs : List Char) : (splitDot cs).2.length ≤ cs.length := by
  unfold splitDot
  split <;> simp

theorem length_splitMark (cs : List Char) : (splitMark cs).2.length ≤ cs.length := by
  unfold splitMark
  split <;> simp

theorem length_of_splitBrackets? {cs inside rest : List Char}
    (h : splitBrackets? cs = some (inside, rest)) : rest.length < cs.length := by
  unfold splitBrackets? at h
  split at h
  · rename_i tail
    split at h
    · simp only [Option.some.injEq, Prod.mk.injEq] at h
      obtain ⟨_, rfl⟩ := h
      have := (List.dropWhile_sublist (· != ']') (l := tail)).length_le
      simp only [List.length_drop, List.length_cons]
      omega
    · simp at h
  · simp at h

theorem length_dropWhile_lt {p : Char → Bool} {cs : List Char} (h : (cs.takeWhile p) ≠ []) :
    (cs.dropWhile p).length < cs.length := by
  have hlen := congrArg List.length (List.takeWhile_append_dropWhile (p := p) (l := cs))
  have hpos := List.length_pos_iff.2 h
  simp only [List.length_append] at hlen
  omega

/-- A segment takes at least one character. -/
theorem length_of_takeSegment {isFirst : Bool} {cs rest : List Char} {s : Segment}
    (h : takeSegment isFirst cs = .ok (s, rest)) : rest.length < cs.length := by
  unfold takeSegment at h
  split at h
  · rename_i step rest' hstep
    simp only [Except.ok.injEq, Prod.mk.injEq] at h
    obtain ⟨_, rfl⟩ := h
    refine Nat.lt_of_le_of_lt (length_splitMark _) ?_
    have hdot := length_splitDot cs
    simp only [takeStep] at hstep
    split at hstep
    · rename_i inside tail hb
      have := length_of_splitBrackets? hb
      split at hstep
      · simp at hstep
      · split at hstep
        · simp only [Except.ok.injEq, Prod.mk.injEq] at hstep
          obtain ⟨_, rfl⟩ := hstep
          omega
        · simp at hstep
    · split at hstep
      · simp at hstep
      · rename_i hname
        have := length_dropWhile_lt (by simpa using hname)
        split at hstep
        · simp at hstep
        · split at hstep
          · simp at hstep
          · simp only [Except.ok.injEq, Prod.mk.injEq] at hstep
            obtain ⟨_, rfl⟩ := hstep
            omega
  · simp at h

/-- The segments of a text. An error comes with the text that is left where it arises. -/
def segments (isFirst : Bool) (cs : List Char) : Except (PathFault × List Char) Path :=
  match cs with
  | [] => .ok []
  | c :: rest =>
    match _h : takeSegment isFirst (c :: rest) with
    | .error fault => .error (fault, c :: rest)
    | .ok (s, left) =>
      match segments false left with
      | .error e => .error e
      | .ok p => .ok (s :: p)
termination_by cs.length
decreasing_by exact length_of_takeSegment (by assumption)

/-- The number of bytes that the characters take in UTF-8. -/
def byteLength : List Char → Nat
  | [] => 0
  | c :: rest => c.utf8Size + byteLength rest

/-- The path that a text writes. -/
def parse (text : String) : Except PathSyntaxError Path :=
  if text.isEmpty then .error ⟨text, 0, .emptyPath⟩
  else
    match segments true text.toList with
    | .ok p => .ok p
    | .error (fault, left) => .error ⟨text, byteLength text.toList - byteLength left, fault⟩

end Path
end DocShape
