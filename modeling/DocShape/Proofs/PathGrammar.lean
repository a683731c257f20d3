import DocShape.Path.Syntax

/-!
The grammar of paths, and that reading a path is reading along the grammar.

A derivation is a tree of the grammar

    path  := first step*
    first := name '?'? | '[' idx ']' '?'?
    step  := '.' name '?'? | '.'? '[' idx ']' '?'?

Its nodes carry the conditions on names and positions with them, so every tree writes a path.

* `takeStep_append`: where a step was written, one is read that is no shorter.
* `takeSegment_chars`, `segments_flatMap_chars`: what steps write is read as their segments.
* `exists_hop_of_takeSegment`, `exists_steps_of_segments`: what is read was written by steps.
* `append_chars_inj`: a text starts with what one step writes at most.
* `parse_eq_ok_iff_derivation`: a text parses to a path exactly when a derivation of the path writes
  it, and no two derivations write the same text.
-/

namespace DocShape.PathGrammar

/-! ### Derivations -/

/-- A name has characters, and none that set steps off. -/
@[ext] structure Name where
  chars : List Char
  ne_nil : chars ≠ []
  plain : ∀ c ∈ chars, c ≠ '.' ∧ c ≠ '[' ∧ c ≠ ']' ∧ c ≠ '?'

/-- A position is written with decimal digits, with a plus sign or without, and is below the
`2 ^ 64` of a word. -/
@[ext] structure Numeral where
  plus : Bool
  digits : List Char
  ne_nil : digits ≠ []
  decimal : ∀ c ∈ digits, c.isDigit
  small : Nat.ofDigitChars 10 digits 0 < UInt64.size

/-- Where a step goes. -/
inductive Hop where
  | name (n : Name)
  | position (i : Numeral)

/-- The step at the beginning. -/
@[ext] structure FirstStep where
  hop : Hop
  marked : Bool

/-- A step after another one. A dot comes before a name, and may come before a position. -/
@[ext] structure LaterStep where
  dotted : Bool
  hop : Hop
  marked : Bool
  dotted_of_name : ∀ n, hop = .name n → dotted = true

/-- A tree of the grammar. -/
@[ext] structure Derivation where
  first : FirstStep
  later : List LaterStep

/-- A character that may be there. -/
def optional (c : Char) (present : Bool) : List Char :=
  if present then [c] else []

/-- The characters of a position inside its brackets. -/
def Numeral.chars (i : Numeral) : List Char :=
  optional '+' i.plus ++ i.digits

/-- The position that a numeral stands for. -/
def Numeral.value (i : Numeral) : Nat :=
  Nat.ofDigitChars 10 i.digits 0

namespace Hop

def chars : Hop → List Char
  | name n => n.chars
  | position i => '[' :: (i.chars ++ [']'])

def step : Hop → Step
  | name n => .key (String.ofList n.chars)
  | position i => .index i.value

end Hop

def FirstStep.chars (s : FirstStep) : List Char :=
  s.hop.chars ++ optional '?' s.marked

def FirstStep.segment (s : FirstStep) : Segment :=
  ⟨s.hop.step, s.marked⟩

def LaterStep.chars (s : LaterStep) : List Char :=
  optional '.' s.dotted ++ (s.hop.chars ++ optional '?' s.marked)

def LaterStep.segment (s : LaterStep) : Segment :=
  ⟨s.hop.step, s.marked⟩

namespace Derivation

/-- The text of a derivation. -/
def chars (d : Derivation) : List Char :=
  d.first.chars ++ d.later.flatMap LaterStep.chars

/-- The path of a derivation: the key or the position of each step, optional where it is marked. -/
def path (d : Derivation) : Path :=
  d.first.segment :: d.later.map LaterStep.segment

end Derivation

/-! ### Characters at the front -/

section Front

variable {p : Char → Bool} {xs rest : List Char}

/-- Characters of one class are cut off before the first one that is not of the class. -/
theorem takeWhile_dropWhile_append (hxs : ∀ c ∈ xs, p c)
    (hrest : ∀ c, rest.head? = some c → p c = false) :
    (xs ++ rest).takeWhile p = xs ∧ (xs ++ rest).dropWhile p = rest := by
  induction xs with
  | nil =>
    cases rest with
    | nil => exact ⟨rfl, rfl⟩
    | cons c rest =>
      have hc : ¬ p c := by simp [hrest c rfl]
      exact ⟨List.takeWhile_cons_of_neg hc, List.dropWhile_cons_of_neg hc⟩
  | cons c xs ih =>
    rw [List.forall_mem_cons] at hxs
    obtain ⟨htake, hdrop⟩ := ih hxs.2
    rw [List.cons_append, List.takeWhile_cons_of_pos hxs.1, List.dropWhile_cons_of_pos hxs.1, htake]
    exact ⟨rfl, hdrop⟩

end Front

theorem splitDot_optional {dotted : Bool} {rest : List Char} (h : rest.head? ≠ some '.') :
    Path.splitDot (optional '.' dotted ++ rest) = (dotted, rest) := by
  cases dotted with
  | true => rfl
  | false =>
    change Path.splitDot rest = (false, rest)
    unfold Path.splitDot
    split
    · exact absurd rfl h
    · rfl

theorem splitMark_optional {marked : Bool} {rest : List Char} (h : rest.head? ≠ some '?') :
    Path.splitMark (optional '?' marked ++ rest) = (marked, rest) := by
  cases marked with
  | true => rfl
  | false =>
    change Path.splitMark rest = (false, rest)
    unfold Path.splitMark
    split
    · exact absurd rfl h
    · rfl

theorem optional_splitDot (cs : List Char) :
    optional '.' (Path.splitDot cs).1 ++ (Path.splitDot cs).2 = cs := by
  unfold Path.splitDot
  split <;> rfl

theorem optional_splitMark (cs : List Char) :
    optional '?' (Path.splitMark cs).1 ++ (Path.splitMark cs).2 = cs := by
  unfold Path.splitMark
  split <;> rfl

theorem isNameChar_iff {c : Char} :
    Path.isNameChar c ↔ c ≠ '.' ∧ c ≠ '[' ∧ c ≠ ']' ∧ c ≠ '?' := by
  simp [Path.isNameChar, and_assoc]

/-! ### Positions -/

namespace Numeral

theorem notMem_chars_of_not_isDigit {i : Numeral} {c : Char} (hplus : c ≠ '+')
    (hdigit : c.isDigit = false) : c ∉ i.chars := by
  intro hc
  rcases List.mem_append.mp hc with hc | hc
  · unfold optional at hc
    split at hc
    · exact hplus (List.mem_singleton.mp hc)
    · cases hc
  · have := i.decimal c hc
    rw [hdigit] at this
    cases this

theorem index?_chars (i : Numeral) : Path.index? i.chars = some i.value := by
  have hdigits : digits? i.digits = some i.value :=
    digits?_eq_some_iff.mpr ⟨⟨i.ne_nil, i.decimal⟩, rfl⟩
  have hsmall : i.value < UInt64.size := i.small
  have hindex : Path.index? i.chars = (digits? i.digits).filter (· < UInt64.size) := by
    unfold Path.index? chars
    cases hplus : i.plus with
    | true => rfl
    | false =>
      dsimp only [optional]
      split
      · -- A sign would be one of the digits.
        rename_i rest heq
        have hsign := i.decimal '+' (by simp [show i.digits = '+' :: rest from heq])
        cases hsign
      · rfl
  rw [hindex, hdigits]
  simp [hsmall]

end Numeral

theorem exists_numeral_of_index? {cs : List Char} {n : Nat} (h : Path.index? cs = some n) :
    ∃ i : Numeral, i.chars = cs ∧ i.value = n := by
  -- The digits after the sign.
  have hread : ∀ plus digits, (digits? digits).filter (· < UInt64.size) = some n →
      ∃ i : Numeral, i.chars = optional '+' plus ++ digits ∧ i.value = n := by
    intro plus digits hd
    obtain ⟨hd, hsmall⟩ := Option.filter_eq_some_iff.mp hd
    obtain ⟨⟨hne, hdecimal⟩, hvalue⟩ := digits?_eq_some_iff.mp hd
    have hbound : Nat.ofDigitChars 10 digits 0 < UInt64.size := by
      rw [hvalue]
      exact of_decide_eq_true hsmall
    exact ⟨⟨plus, digits, hne, hdecimal, hbound⟩, rfl, hvalue⟩
  unfold Path.index? at h
  dsimp only at h
  split at h
  · exact hread true _ h
  · exact hread false _ h

/-- What stands between the brackets ends with the first one that closes them. -/
theorem splitBrackets?_append {inside rest : List Char} (h : ']' ∉ inside) :
    Path.splitBrackets? ('[' :: (inside ++ ']' :: rest)) = some (inside, rest) := by
  have hinside : ∀ c ∈ inside, (c != ']') = true := by
    intro c hc
    rw [bne_iff_ne]
    rintro rfl
    exact h hc
  have hclose : ∀ c, (']' :: rest).head? = some c → (c != ']') = false := by
    intro c hc
    cases hc
    rfl
  obtain ⟨htake, hdrop⟩ := takeWhile_dropWhile_append hinside hclose
  rw [Path.splitBrackets?, if_pos (by simp), htake, hdrop]
  rfl

theorem eq_of_splitBrackets? {cs inside rest : List Char}
    (h : Path.splitBrackets? cs = some (inside, rest)) : cs = '[' :: (inside ++ ']' :: rest) := by
  cases cs with
  | nil => cases h
  | cons c tail =>
    by_cases hopen : c = '[' ∧ ']' ∈ tail
    · obtain ⟨rfl, hmem⟩ := hopen
      obtain ⟨before, after, rfl, hnot⟩ := List.eq_append_cons_of_mem hmem
      rw [splitBrackets?_append hnot] at h
      cases h
      rfl
    · unfold Path.splitBrackets? at h
      split at h
      · rename_i heq
        cases heq
        rw [if_neg fun hmem => hopen ⟨rfl, hmem⟩] at h
        cases h
      · cases h

theorem splitBrackets?_eq_none {cs : List Char} (h : cs.head? ≠ some '[') :
    Path.splitBrackets? cs = none := by
  unfold Path.splitBrackets?
  split
  · exact absurd rfl h
  · rfl

/-! ### One step -/

/-- Whether a dot, or none, may come before a step at the beginning or after another one. -/
def Hop.Follows (isFirst dotted : Bool) : Hop → Prop
  | .name _ => dotted = !isFirst
  | .position _ => (isFirst && dotted) = false

theorem FirstStep.follows (s : FirstStep) : s.hop.Follows true false := by
  cases s.hop <;> rfl

theorem LaterStep.follows (s : LaterStep) : s.hop.Follows false s.dotted := by
  cases h : s.hop with
  | name n => exact s.dotted_of_name n h
  | position i => rfl

theorem Name.head?_append (n : Name) (rest : List Char) :
    ∃ c, (n.chars ++ rest).head? = some c ∧ Path.isNameChar c := by
  cases h : n.chars with
  | nil => exact absurd h n.ne_nil
  | cons c cs => exact ⟨c, rfl, isNameChar_iff.mpr (n.plain c (by simp [h]))⟩

theorem Hop.head?_append_ne_dot (hop : Hop) (rest : List Char) :
    (hop.chars ++ rest).head? ≠ some '.' := by
  cases hop with
  | name n =>
    obtain ⟨c, hc, hplain⟩ := n.head?_append rest
    rw [Hop.chars, hc]
    rintro ⟨rfl⟩
    cases hplain
  | position i => simp [Hop.chars]

/-- What is left after a step of the grammar: nothing that could still belong to a name. -/
def EndsName (rest : List Char) : Prop :=
  ∀ c, rest.head? = some c → Path.isNameChar c = false

/-- What is read where a step was written, and what is left then: a name goes on for as long as
there are characters of names. -/
def Hop.readBefore : Hop → List Char → Step × List Char
  | name n, rest =>
    (.key (String.ofList (n.chars ++ rest.takeWhile Path.isNameChar)),
      rest.dropWhile Path.isNameChar)
  | position i, rest => (.index i.value, rest)

theorem Hop.readBefore_of_endsName {rest : List Char} (h : EndsName rest) (hop : Hop) :
    hop.readBefore rest = (hop.step, rest) := by
  cases hop with
  | name n =>
    obtain ⟨htake, hdrop⟩ := takeWhile_dropWhile_append (List.forall_mem_nil _) h
    rw [List.nil_append] at htake hdrop
    rw [readBefore, htake, hdrop, List.append_nil]
    rfl
  | position i => rfl

/-- Where a step was written, one is read, whatever follows. -/
theorem takeStep_append {isFirst dotted : Bool} {hop : Hop} (h : hop.Follows isFirst dotted)
    (rest : List Char) :
    Path.takeStep isFirst (optional '.' dotted ++ (hop.chars ++ rest)) =
      .ok (hop.readBefore rest) := by
  unfold Path.takeStep
  rw [splitDot_optional (hop.head?_append_ne_dot rest)]
  cases hop with
  | name n =>
    have hplain : ∀ c ∈ n.chars, Path.isNameChar c := fun c hc =>
      isNameChar_iff.mpr (n.plain c hc)
    have hbrackets : Path.splitBrackets? (n.chars ++ rest) = none := by
      refine splitBrackets?_eq_none ?_
      obtain ⟨c, hc, hplain⟩ := n.head?_append rest
      rw [hc]
      rintro ⟨rfl⟩
      cases hplain
    have hne : (n.chars ++ rest.takeWhile Path.isNameChar).isEmpty = false := by simp [n.ne_nil]
    rw [Hop.Follows] at h
    simp only [Hop.chars, Hop.readBefore, hbrackets, List.takeWhile_append_of_pos hplain,
      List.dropWhile_append_of_pos hplain, hne, h]
    cases isFirst <;> rfl
  | position i =>
    have hclose : ']' ∉ i.chars := Numeral.notMem_chars_of_not_isDigit (by decide) (by decide)
    have hbrackets :
        Path.splitBrackets? ((Hop.position i).chars ++ rest) = some (i.chars, rest) := by
      rw [Hop.chars, List.cons_append, List.append_assoc]
      exact splitBrackets?_append hclose
    rw [Hop.Follows] at h
    simp only [hbrackets, h, i.index?_chars]
    rfl

/-- What a step writes is taken off the front. -/
theorem takeStep_chars {isFirst dotted : Bool} {hop : Hop} (h : hop.Follows isFirst dotted)
    {rest : List Char} (hrest : EndsName rest) :
    Path.takeStep isFirst (optional '.' dotted ++ (hop.chars ++ rest)) = .ok (hop.step, rest) := by
  rw [takeStep_append h, hop.readBefore_of_endsName hrest]

/-- A step is taken off the front because brackets with a position come first, or a name does. -/
theorem takeStep_cases {isFirst : Bool} {cs rest : List Char} {step : Step}
    (h : Path.takeStep isFirst cs = .ok (step, rest)) :
    ∃ dotted body, optional '.' dotted ++ body = cs ∧
      ((isFirst && dotted) = false ∧
          (∃ inside position, Path.splitBrackets? body = some (inside, rest) ∧
            Path.index? inside = some position ∧ step = .index position) ∨
        dotted = (!isFirst) ∧ body.takeWhile Path.isNameChar ≠ [] ∧
          step = .key (String.ofList (body.takeWhile Path.isNameChar)) ∧
          rest = body.dropWhile Path.isNameChar) := by
  have hcs := optional_splitDot cs
  unfold Path.takeStep at h
  generalize Path.splitDot cs = parts at h hcs
  obtain ⟨dotted, body⟩ := parts
  refine ⟨dotted, body, hcs, ?_⟩
  dsimp only at h
  cases hbrackets : Path.splitBrackets? body with
  | some e =>
    obtain ⟨inside, rest'⟩ := e
    rw [hbrackets] at h
    dsimp only at h
    cases hdot : isFirst && dotted with
    | true =>
      rw [hdot] at h
      cases h
    | false =>
      rw [hdot] at h
      cases hindex : Path.index? inside with
      | none =>
        rw [hindex] at h
        cases h
      | some position =>
        rw [hindex] at h
        cases h
        exact .inl ⟨rfl, inside, position, rfl, hindex, rfl⟩
  | none =>
    rw [hbrackets] at h
    dsimp only at h
    by_cases hname : body.takeWhile Path.isNameChar = []
    · rw [hname] at h
      cases h
    · have hne : (body.takeWhile Path.isNameChar).isEmpty = false := by simp [hname]
      rw [hne] at h
      right
      cases isFirst <;> cases dotted <;> cases h
      · exact ⟨rfl, hname, rfl, rfl⟩
      · exact ⟨rfl, hname, rfl, rfl⟩

/-- What is taken off the front was written by a step. -/
theorem exists_hop_of_takeStep {isFirst : Bool} {cs rest : List Char} {step : Step}
    (h : Path.takeStep isFirst cs = .ok (step, rest)) :
    ∃ dotted hop, Hop.Follows isFirst dotted hop ∧
      optional '.' dotted ++ (hop.chars ++ rest) = cs ∧ hop.step = step := by
  obtain ⟨dotted, body, rfl, hposition | hname⟩ := takeStep_cases h
  · obtain ⟨hdot, inside, position, hbrackets, hindex, rfl⟩ := hposition
    obtain ⟨i, rfl, rfl⟩ := exists_numeral_of_index? hindex
    refine ⟨dotted, .position i, hdot, ?_, rfl⟩
    rw [eq_of_splitBrackets? hbrackets, Hop.chars, List.cons_append, List.append_assoc]
    rfl
  · obtain ⟨hdot, hne, rfl, rfl⟩ := hname
    have hplain : ∀ c ∈ body.takeWhile Path.isNameChar,
        c ≠ '.' ∧ c ≠ '[' ∧ c ≠ ']' ∧ c ≠ '?' := by
      intro c hc
      exact isNameChar_iff.mp (List.all_eq_true.mp List.all_takeWhile c hc)
    refine ⟨dotted, .name ⟨_, hne, hplain⟩, hdot, ?_, rfl⟩
    rw [Hop.chars, List.takeWhile_append_dropWhile]

/-! ### One segment -/

/-- What may stand behind a step: nothing, or what sets off another step. -/
def EndsStep (rest : List Char) : Prop :=
  ∀ c, rest.head? = some c → c = '.' ∨ c = '['

theorem EndsStep.nil : EndsStep [] := by
  intro c hc
  cases hc

theorem EndsStep.endsName {rest : List Char} (h : EndsStep rest) (marked : Bool) :
    EndsName (optional '?' marked ++ rest) := by
  intro c hc
  cases marked with
  | true =>
    cases hc
    rfl
  | false =>
    rcases h c hc with rfl | rfl
    · rfl
    · rfl

theorem EndsStep.head?_ne_mark {rest : List Char} (h : EndsStep rest) : rest.head? ≠ some '?' := by
  intro hc
  rcases h _ hc with h | h
  · cases h
  · cases h

/-- What a step writes, with its mark, is taken off the front. -/
theorem takeSegment_chars {isFirst dotted : Bool} {hop : Hop} (h : hop.Follows isFirst dotted)
    (marked : Bool) {rest : List Char} (hrest : EndsStep rest) :
    Path.takeSegment isFirst
        (optional '.' dotted ++ (hop.chars ++ (optional '?' marked ++ rest))) =
      .ok (⟨hop.step, marked⟩, rest) := by
  rw [Path.takeSegment, takeStep_chars h (hrest.endsName marked)]
  dsimp only
  rw [splitMark_optional hrest.head?_ne_mark]

/-- What is taken off the front was written by a step and its mark. -/
theorem exists_hop_of_takeSegment {isFirst : Bool} {cs rest : List Char} {s : Segment}
    (h : Path.takeSegment isFirst cs = .ok (s, rest)) :
    ∃ dotted hop marked, Hop.Follows isFirst dotted hop ∧
      optional '.' dotted ++ (hop.chars ++ (optional '?' marked ++ rest)) = cs ∧
      s = ⟨hop.step, marked⟩ := by
  unfold Path.takeSegment at h
  split at h
  · rename_i step left hstep
    cases h
    obtain ⟨dotted, hop, hfollows, hchars, rfl⟩ := exists_hop_of_takeStep hstep
    refine ⟨dotted, hop, _, hfollows, ?_, rfl⟩
    rw [optional_splitMark, hchars]
  · cases h

theorem Hop.chars_ne_nil (hop : Hop) : hop.chars ≠ [] := by
  cases hop with
  | name n => exact n.ne_nil
  | position i => exact List.cons_ne_nil _ _

/-- A later step begins with what sets it off. -/
theorem LaterStep.endsStep_append (s : LaterStep) (rest : List Char) :
    EndsStep (s.chars ++ rest) := by
  intro c hc
  unfold LaterStep.chars at hc
  cases hdot : s.dotted with
  | true =>
    rw [hdot] at hc
    cases hc
    exact .inl rfl
  | false =>
    rw [hdot] at hc
    cases hhop : s.hop with
    | name n =>
      have hdotted := s.dotted_of_name n hhop
      rw [hdot] at hdotted
      cases hdotted
    | position i =>
      rw [hhop] at hc
      cases hc
      exact .inr rfl

theorem endsStep_flatMap (steps : List LaterStep) : EndsStep (steps.flatMap LaterStep.chars) := by
  cases steps with
  | nil => exact EndsStep.nil
  | cons s rest =>
    rw [List.flatMap_cons]
    exact s.endsStep_append _

theorem LaterStep.chars_append (s : LaterStep) (rest : List Char) :
    s.chars ++ rest =
      optional '.' s.dotted ++ (s.hop.chars ++ (optional '?' s.marked ++ rest)) := by
  rw [LaterStep.chars, List.append_assoc, List.append_assoc]

theorem FirstStep.chars_append (s : FirstStep) (rest : List Char) :
    s.chars ++ rest = optional '.' false ++ (s.hop.chars ++ (optional '?' s.marked ++ rest)) := by
  rw [FirstStep.chars, List.append_assoc]
  rfl

/-! ### Whole paths -/

theorem segments_of_takeSegment {isFirst : Bool} {cs left : List Char} {s : Segment}
    (h : Path.takeSegment isFirst cs = .ok (s, left)) :
    Path.segments isFirst cs = (Path.segments false left).map (s :: ·) := by
  cases cs with
  | nil => cases isFirst <;> cases h
  | cons c rest =>
    rw [Path.segments]
    split
    · rename_i fault heq
      rw [h] at heq
      cases heq
    · rename_i s' left' heq
      rw [h] at heq
      cases heq
      cases Path.segments false left <;> rfl

theorem exists_takeSegment_of_segments {isFirst : Bool} {cs : List Char} {p : Path} (hne : cs ≠ [])
    (h : Path.segments isFirst cs = .ok p) :
    ∃ s left q, Path.takeSegment isFirst cs = .ok (s, left) ∧ Path.segments false left = .ok q ∧
      p = s :: q := by
  cases htake : Path.takeSegment isFirst cs with
  | error fault =>
    cases cs with
    | nil => exact absurd rfl hne
    | cons c rest =>
      rw [Path.segments] at h
      split at h
      · cases h
      · rename_i heq
        rw [htake] at heq
        cases heq
  | ok e =>
    obtain ⟨s, left⟩ := e
    rw [segments_of_takeSegment htake] at h
    cases hq : Path.segments false left with
    | error e =>
      rw [hq] at h
      cases h
    | ok q =>
      rw [hq] at h
      cases h
      exact ⟨s, left, q, rfl, hq, rfl⟩

/-- What later steps write reads as their segments. -/
theorem segments_flatMap_chars (steps : List LaterStep) :
    Path.segments false (steps.flatMap LaterStep.chars) =
      .ok (steps.map LaterStep.segment) := by
  induction steps with
  | nil => rw [List.flatMap_nil, Path.segments, List.map_nil]
  | cons s rest ih =>
    have htake := takeSegment_chars s.follows s.marked (endsStep_flatMap rest)
    rw [List.flatMap_cons, s.chars_append, segments_of_takeSegment htake, ih]
    rfl

/-- What reads as segments was written by later steps. The induction is on the length of what is
left, which each segment shortens. -/
theorem exists_steps_of_segments (n : Nat) : ∀ (cs : List Char) (p : Path), cs.length ≤ n →
    Path.segments false cs = .ok p →
      ∃ steps : List LaterStep, steps.flatMap LaterStep.chars = cs ∧
        steps.map LaterStep.segment = p := by
  induction n with
  | zero =>
    intro cs p hlen h
    obtain rfl := List.eq_nil_of_length_eq_zero (Nat.le_zero.mp hlen)
    rw [Path.segments] at h
    cases h
    exact ⟨[], rfl, rfl⟩
  | succ n ih =>
    intro cs p hlen h
    by_cases hne : cs = []
    · subst hne
      exact ih [] p (Nat.zero_le n) h
    · obtain ⟨s, left, q, htake, hq, rfl⟩ := exists_takeSegment_of_segments hne h
      have hshorter := Path.length_of_takeSegment htake
      obtain ⟨steps, rfl, rfl⟩ := ih left q (by omega) hq
      obtain ⟨dotted, hop, marked, hfollows, rfl, rfl⟩ := exists_hop_of_takeSegment htake
      have hdotted : ∀ n, hop = .name n → dotted = true := by
        rintro n rfl
        exact hfollows
      refine ⟨⟨dotted, hop, marked, hdotted⟩ :: steps, ?_, rfl⟩
      rw [List.flatMap_cons, LaterStep.chars_append]

theorem Derivation.segments_chars (d : Derivation) : Path.segments true d.chars = .ok d.path := by
  have htake := takeSegment_chars d.first.follows d.first.marked (endsStep_flatMap d.later)
  rw [Derivation.chars, d.first.chars_append, segments_of_takeSegment htake,
    segments_flatMap_chars]
  rfl

theorem exists_derivation_of_segments {cs : List Char} {p : Path} (hne : cs ≠ [])
    (h : Path.segments true cs = .ok p) : ∃ d : Derivation, d.chars = cs ∧ d.path = p := by
  obtain ⟨s, left, q, htake, hq, rfl⟩ := exists_takeSegment_of_segments hne h
  obtain ⟨steps, rfl, rfl⟩ := exists_steps_of_segments left.length left q (Nat.le_refl _) hq
  obtain ⟨dotted, hop, marked, hfollows, rfl, rfl⟩ := exists_hop_of_takeSegment htake
  have hdotted : dotted = false := by
    cases hop <;> exact hfollows
  subst hdotted
  refine ⟨⟨⟨hop, marked⟩, steps⟩, ?_, rfl⟩
  rw [Derivation.chars, FirstStep.chars_append]

theorem parse_eq_ok_iff_segments {text : String} {p : Path} :
    Path.parse text = .ok p ↔ text.toList ≠ [] ∧ Path.segments true text.toList = .ok p := by
  unfold Path.parse
  by_cases hempty : text.isEmpty
  · have hnil : text.toList = [] := by simpa using hempty
    rw [if_pos hempty, hnil]
    simp
  · have hne : text.toList ≠ [] := by simpa using hempty
    rw [if_neg hempty]
    cases Path.segments true text.toList with
    | ok q => simp [hne]
    | error e => simp

/-! ### Uniqueness -/

/-- The digits and the sign of a numeral can be read off its characters. -/
theorem Numeral.chars_inj {i j : Numeral} (h : i.chars = j.chars) : i = j := by
  have hplus : ∀ i : Numeral, i.plus = true ↔ '+' ∈ i.chars := by
    intro i
    have hdigits : '+' ∉ i.digits := by
      intro hmem
      cases i.decimal _ hmem
    cases hp : i.plus <;> simp [Numeral.chars, hp, optional, hdigits]
  have hsame : i.plus = j.plus := by
    rw [Bool.eq_iff_iff, hplus, hplus, h]
  have hdigits : i.digits = j.digits := by
    rw [Numeral.chars, Numeral.chars, hsame] at h
    exact List.append_cancel_left h
  exact Numeral.ext hsame hdigits

theorem Hop.append_chars_inj {hop hop' : Hop} {rest rest' : List Char} (hrest : EndsName rest)
    (hrest' : EndsName rest') (h : hop.chars ++ rest = hop'.chars ++ rest') :
    hop = hop' ∧ rest = rest' := by
  have hplain : ∀ n : Name, ∀ c ∈ n.chars, Path.isNameChar c := fun n c hc =>
    isNameChar_iff.mpr (n.plain c hc)
  have hopen : ∀ (n : Name) (i : Numeral) {r r' : List Char},
      n.chars ++ r ≠ (Hop.position i).chars ++ r' := by
    intro n i r r' heq
    obtain ⟨c, hc, hname⟩ := n.head?_append r
    rw [heq] at hc
    cases hc
    cases hname
  cases hop with
  | name n =>
    cases hop' with
    | name n' =>
      rw [Hop.chars, Hop.chars] at h
      obtain ⟨htake, hdrop⟩ := takeWhile_dropWhile_append (hplain n) hrest
      obtain ⟨htake', hdrop'⟩ := takeWhile_dropWhile_append (hplain n') hrest'
      have hname : n = n' := Name.ext (by rw [← htake, ← htake', h])
      exact ⟨congrArg Hop.name hname, by rw [← hdrop, ← hdrop', h]⟩
    | position i' => exact absurd h (hopen n i')
  | position i =>
    cases hop' with
    | name n' => exact absurd h.symm (hopen n' i)
    | position i' =>
      have hclose : ∀ i : Numeral, ']' ∉ i.chars := fun i =>
        Numeral.notMem_chars_of_not_isDigit (by decide) (by decide)
      have hbrackets : ∀ (i : Numeral) (r : List Char),
          Path.splitBrackets? ((Hop.position i).chars ++ r) = some (i.chars, r) := by
        intro i r
        rw [Hop.chars, List.cons_append, List.append_assoc]
        exact splitBrackets?_append (hclose i)
      have hsame := hbrackets i rest
      rw [h, hbrackets i' rest'] at hsame
      obtain ⟨hchars, hrests⟩ := Prod.mk.inj (Option.some.inj hsame)
      exact ⟨congrArg Hop.position (Numeral.chars_inj hchars.symm), hrests.symm⟩

/-- A text starts with what one step writes at most. -/
theorem append_chars_inj {dotted dotted' marked marked' : Bool} {hop hop' : Hop}
    {rest rest' : List Char} (hrest : EndsStep rest) (hrest' : EndsStep rest')
    (h : optional '.' dotted ++ (hop.chars ++ (optional '?' marked ++ rest)) =
      optional '.' dotted' ++ (hop'.chars ++ (optional '?' marked' ++ rest'))) :
    dotted = dotted' ∧ hop = hop' ∧ marked = marked' ∧ rest = rest' := by
  have hdot := congrArg Path.splitDot h
  rw [splitDot_optional (hop.head?_append_ne_dot _),
    splitDot_optional (hop'.head?_append_ne_dot _)] at hdot
  obtain ⟨hdotted, hbody⟩ := Prod.mk.inj hdot
  obtain ⟨hhop, htail⟩ :=
    Hop.append_chars_inj (hrest.endsName marked) (hrest'.endsName marked') hbody
  have hmark := congrArg Path.splitMark htail
  rw [splitMark_optional hrest.head?_ne_mark, splitMark_optional hrest'.head?_ne_mark] at hmark
  obtain ⟨hmarked, hrests⟩ := Prod.mk.inj hmark
  exact ⟨hdotted, hhop, hmarked, hrests⟩

theorem LaterStep.chars_ne_nil (s : LaterStep) : s.chars ≠ [] := by
  intro h
  exact s.hop.chars_ne_nil
    (List.append_eq_nil_iff.mp (List.append_eq_nil_iff.mp h).2).1

theorem flatMap_chars_inj {steps steps' : List LaterStep}
    (h : steps.flatMap LaterStep.chars = steps'.flatMap LaterStep.chars) : steps = steps' := by
  induction steps generalizing steps' with
  | nil =>
    cases steps' with
    | nil => rfl
    | cons s' rest' =>
      rw [List.flatMap_cons] at h
      exact absurd (List.append_eq_nil_iff.mp h.symm).1 s'.chars_ne_nil
  | cons s rest ih =>
    cases steps' with
    | nil =>
      rw [List.flatMap_cons] at h
      exact absurd (List.append_eq_nil_iff.mp h).1 s.chars_ne_nil
    | cons s' rest' =>
      rw [List.flatMap_cons, List.flatMap_cons, s.chars_append, s'.chars_append] at h
      obtain ⟨hdotted, hhop, hmarked, hrests⟩ :=
        append_chars_inj (endsStep_flatMap rest) (endsStep_flatMap rest') h
      rw [LaterStep.ext hdotted hhop hmarked, ih hrests]

/-- No two derivations write the same text. -/
theorem Derivation.chars_inj {d d' : Derivation} (h : d.chars = d'.chars) : d = d' := by
  rw [Derivation.chars, Derivation.chars, d.first.chars_append, d'.first.chars_append] at h
  obtain ⟨-, hhop, hmarked, hrests⟩ :=
    append_chars_inj (endsStep_flatMap d.later) (endsStep_flatMap d'.later) h
  exact Derivation.ext (FirstStep.ext hhop hmarked) (flatMap_chars_inj hrests)

theorem Derivation.chars_ne_nil (d : Derivation) : d.chars ≠ [] := by
  intro h
  exact d.first.hop.chars_ne_nil
    (List.append_eq_nil_iff.mp (List.append_eq_nil_iff.mp h).1).1

/-- A text parses to a path exactly when a derivation of the path writes the text, and there is no
other derivation of the text. -/
theorem parse_eq_ok_iff_derivation (text : String) (p : Path) :
    (Path.parse text = .ok p ↔ ∃ d : Derivation, d.chars = text.toList ∧ d.path = p) ∧
      ∀ d d' : Derivation, d.chars = text.toList → d'.chars = text.toList → d = d' := by
  constructor
  · rw [parse_eq_ok_iff_segments]
    constructor
    · rintro ⟨hne, hsegments⟩
      exact exists_derivation_of_segments hne hsegments
    · rintro ⟨d, hchars, rfl⟩
      rw [← hchars]
      exact ⟨d.chars_ne_nil, d.segments_chars⟩
  · intro d d' h h'
    exact Derivation.chars_inj (h.trans h'.symm)

end DocShape.PathGrammar
