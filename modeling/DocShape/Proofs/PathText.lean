import DocShape.Proofs.PathConcatenation

/-!
Path text reads back.

The text of a path does not tell every path: the keys are written as they are, so a key with a dot
reads as two keys, and the empty key cannot be read at all. Where the keys are plain and the
positions are those of a word, the text of a path is one that the grammar derives, from the very
steps of the path. Only such paths are ever read: a derivation keeps names and positions of no other
kind. So to read a text and to write the path again puts the text into a standard form, without the
dots and signs that a writer may add.

* `Step.Plain`, `Path.Readable`: the condition on a step, and on a path.
* `exists_derivation_of_plain`: a derivation writes the text of a path of plain steps.
* `parse_text`: such a text parses to the path, marks included.
* `readable_of_parse`: what is parsed is readable.
* `textOfFirst_isPrefix`: the text of the first segments stands in front.
* `parse_text_round_trip`: all of this for texts, paths and their first segments.
-/

namespace DocShape

/-- Whether a key reads back as itself: it has characters, and none that set steps off. -/
def PlainKey (key : String) : Prop :=
  key.toList ≠ [] ∧ ∀ c ∈ key.toList, c ≠ '.' ∧ c ≠ '[' ∧ c ≠ ']' ∧ c ≠ '?'

instance (key : String) : Decidable (PlainKey key) :=
  inferInstanceAs (Decidable (_ ∧ _))

/-- Whether a step reads back as itself. A position has to be below the `2 ^ 64` of a word. -/
def Step.Plain : Step → Prop
  | .key name => PlainKey name
  | .index position => position < UInt64.size

instance : DecidablePred Step.Plain
  | .key name => inferInstanceAs (Decidable (PlainKey name))
  | .index position => inferInstanceAs (Decidable (position < UInt64.size))

/-- Whether a path reads back from its text. -/
def Path.Readable (p : Path) : Prop :=
  p ≠ [] ∧ ∀ s ∈ p, s.step.Plain

instance (p : Path) : Decidable p.Readable :=
  inferInstanceAs (Decidable (_ ∧ _))

namespace PathGrammar

/-! ### Derivations of paths -/

/-- The numeral of a position, without a sign. -/
theorem exists_numeral_of_lt {n : Nat} (h : n < UInt64.size) :
    ∃ i : Numeral, i.chars = Nat.toDigits 10 n ∧ i.value = n := by
  obtain ⟨⟨hne, hdecimal⟩, hvalue⟩ := digits?_eq_some_iff.mp (digits?_toDigits n)
  have hsmall : Nat.ofDigitChars 10 (Nat.toDigits 10 n) 0 < UInt64.size := by
    rw [hvalue]
    exact h
  exact ⟨⟨false, _, hne, hdecimal, hsmall⟩, rfl, hvalue⟩

/-- A plain step is one of the grammar. -/
theorem exists_hop_of_plain {s : Step} (h : s.Plain) :
    ∃ hop : Hop, hop.chars = s.chars ∧ hop.step = s := by
  cases s with
  | key name =>
    obtain ⟨hne, hplain⟩ := h
    refine ⟨.name ⟨name.toList, hne, hplain⟩, rfl, ?_⟩
    rw [Hop.step, String.ofList_toList]
  | index position =>
    obtain ⟨i, hchars, hvalue⟩ := exists_numeral_of_lt h
    refine ⟨.position i, ?_, ?_⟩
    · rw [Hop.chars, hchars]
      rfl
    · rw [Hop.step, hvalue]

theorem exists_firstStep_of_plain {s : Segment} (h : s.step.Plain) :
    ∃ first : FirstStep, first.chars = s.chars ∧ first.segment = s := by
  obtain ⟨hop, hchars, hstep⟩ := exists_hop_of_plain h
  refine ⟨⟨hop, s.isOptional⟩, ?_, ?_⟩
  · rw [FirstStep.chars, hchars]
    rfl
  · rw [FirstStep.segment, hstep]

/-- After another step a dot is written before a key, and none before a position. -/
theorem exists_laterStep_of_plain {s : Segment} (h : s.step.Plain) :
    ∃ later : LaterStep, later.chars = s.charsAfter ∧ later.segment = s := by
  obtain ⟨hop, hchars, hstep⟩ := exists_hop_of_plain h
  obtain ⟨step, marked⟩ := s
  dsimp only at hchars hstep
  cases hop with
  | name n =>
    refine ⟨⟨true, .name n, marked, fun _ _ => rfl⟩, ?_, ?_⟩
    · rw [LaterStep.chars, hchars, ← hstep]
      rfl
    · rw [LaterStep.segment, hstep]
  | position i =>
    have hdotted : ∀ n, Hop.position i = .name n → false = true := by
      intro n h
      cases h
    refine ⟨⟨false, .position i, marked, hdotted⟩, ?_, ?_⟩
    · rw [LaterStep.chars, hchars, ← hstep]
      rfl
    · rw [LaterStep.segment, hstep]

theorem exists_laterSteps_of_plain {p : Path} (h : ∀ s ∈ p, s.step.Plain) :
    ∃ later : List LaterStep, later.flatMap LaterStep.chars = p.flatMap Segment.charsAfter ∧
      later.map LaterStep.segment = p := by
  induction p with
  | nil => exact ⟨[], rfl, rfl⟩
  | cons s rest ih =>
    rw [List.forall_mem_cons] at h
    obtain ⟨step, hchars, hsegment⟩ := exists_laterStep_of_plain h.1
    obtain ⟨later, hlater, hsegments⟩ := ih h.2
    refine ⟨step :: later, ?_, ?_⟩
    · rw [List.flatMap_cons, List.flatMap_cons, hchars, hlater]
    · rw [List.map_cons, hsegment, hsegments]

/-- A derivation writes the text of a path of plain steps. -/
theorem exists_derivation_of_plain {p : Path} (hne : p ≠ []) (h : ∀ s ∈ p, s.step.Plain) :
    ∃ d : Derivation, d.chars = p.chars ∧ d.path = p := by
  cases p with
  | nil => exact absurd rfl hne
  | cons s rest =>
    rw [List.forall_mem_cons] at h
    obtain ⟨first, hfirst, hsegment⟩ := exists_firstStep_of_plain h.1
    obtain ⟨later, hlater, hsegments⟩ := exists_laterSteps_of_plain h.2
    refine ⟨⟨first, later⟩, ?_, ?_⟩
    · rw [Derivation.chars, hfirst, hlater]
      rfl
    · rw [Derivation.path, hsegment, hsegments]

/-! ### Paths of derivations -/

theorem Hop.plain_step (hop : Hop) : hop.step.Plain := by
  cases hop with
  | name n =>
    rw [Hop.step, Step.Plain, PlainKey, String.toList_ofList]
    exact ⟨n.ne_nil, n.plain⟩
  | position i => exact i.small

theorem Derivation.readable_path (d : Derivation) : d.path.Readable := by
  refine ⟨List.cons_ne_nil _ _, ?_⟩
  rw [Derivation.path, List.forall_mem_cons, List.forall_mem_map]
  exact ⟨d.first.hop.plain_step, fun later _ => later.hop.plain_step⟩

end PathGrammar

namespace Path

/-! ### Reading back -/

/-- The text of a path of plain steps parses to the path. The root has no text that could be
parsed. -/
theorem parse_text {p : Path} (hne : p ≠ []) (h : ∀ s ∈ p, s.step.Plain) :
    parse (text p) = .ok p := by
  obtain ⟨d, hchars, rfl⟩ := PathGrammar.exists_derivation_of_plain hne h
  apply parse_of_derivation
  rw [hchars, text, String.toList_ofList]

/-- No other path is ever read. -/
theorem readable_of_parse {text : String} {p : Path} (h : parse text = .ok p) : p.Readable := by
  obtain ⟨d, -, rfl⟩ := exists_derivation_of_parse h
  exact d.readable_path

/-! ### The first segments -/

theorem Readable.take {p : Path} (h : p.Readable) {n : Nat} (hn : 1 ≤ n) :
    Readable (p.take n) := by
  refine ⟨?_, fun s hs => h.2 s (List.mem_of_mem_take hs)⟩
  rw [ne_eq, List.take_eq_nil_iff, not_or]
  exact ⟨Nat.one_le_iff_ne_zero.mp hn, h.1⟩

/-- The text of the first segments stands in front of the text of the path, since how a segment is
written depends only on whether another one is before it. -/
theorem textOfFirst_isPrefix (p : Path) (n : Nat) :
    (p.textOfFirst n).toList <+: (text p).toList := by
  rw [textOfFirst, text, text, String.toList_ofList, String.toList_ofList]
  by_cases hfirst : p.take n = []
  · rw [hfirst]
    exact List.nil_prefix
  · have hchars := chars_append hfirst (p.drop n)
    rw [List.take_append_drop] at hchars
    rw [hchars]
    exact List.prefix_append _ _

/-- A readable path is read from its text, and its first segments from theirs, which is the front of
it. Every path that is read from some text is readable, and the text that it is written as stays
what it is when it is read and written again. -/
theorem parse_text_round_trip :
    (∀ p : Path, p.Readable → parse (text p) = .ok p ∧
      ∀ n, (p.textOfFirst n).toList <+: (text p).toList ∧
        (1 ≤ n → parse (p.textOfFirst n) = .ok (p.take n))) ∧
    ∀ (t : String) (p : Path), parse t = .ok p →
      p.Readable ∧ parse (text p) = .ok p ∧ (parse (text p)).map text = .ok (text p) := by
  have hreads : ∀ p : Path, p.Readable → parse (text p) = .ok p := fun p hp => parse_text hp.1 hp.2
  constructor
  · intro p hp
    refine ⟨hreads p hp, fun n => ⟨p.textOfFirst_isPrefix n, fun hn => ?_⟩⟩
    exact hreads _ (hp.take hn)
  · intro t p ht
    have hp := readable_of_parse ht
    have hsame := hreads p hp
    exact ⟨hp, hsame, by rw [hsame]; rfl⟩

/-- `pets.[+0]?.name` is read, and written as `pets[0]?.name`, of which `pets[0]?` is the front. -/
theorem parse_text_round_trip_pets :
    (parse "pets.[+0]?.name").map text = .ok "pets[0]?.name" ∧
      parse "pets[0]?.name" = parse "pets.[+0]?.name" ∧
      parse "pets[0]?" = .ok [⟨.key "pets", false⟩, ⟨.index 0, true⟩] := by
  have hread : parse "pets.[+0]?.name" =
      .ok [⟨.key "pets", false⟩, ⟨.index 0, true⟩, ⟨.key "name", false⟩] :=
    PathArgument.eq_ok_of_toOption (by decide +kernel)
  obtain ⟨hreadable, hback, -⟩ := parse_text_round_trip.2 _ _ hread
  have hfirst := ((parse_text_round_trip.1 _ hreadable).2 2).2 (by decide)
  rw [hread]
  exact ⟨rfl, hback, hfirst⟩

end Path

end DocShape
