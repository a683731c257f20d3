import DocShape.Proofs.PathConcatenation
import Mathlib.Control.Monad.Basic
import Mathlib.Data.List.Infix

/-!
Where a syntax error points.

Reading takes steps off the front until the text ends or no step begins. What was taken up to there
is a path of its own. No longer part of the text is one: a path that the text begins with is written
by steps, and reading takes each of them, the last one perhaps with characters that follow it in the
text. So an error is at the end of the longest path that the text begins with, or at offset 0 if it
begins with none.

* `exists_steps_of_segments_error`: what comes before an error was written by steps.
* `suffix_of_segments_error`: an error is not before the end of steps that the text begins with.
* `Stops.fault_ne`: where text is left and no step begins, one of the other reasons applies.
* `Path.IsLongestFront`, `exists_isLongestFront`: the longest path in front, and that errors are at
  its end.
* `parse_error_at_longest_front`: all of this said of path texts.
-/

namespace DocShape

namespace PathGrammar

open DocShape.Path (takeStep takeSegment segments)

/-! ### Where reading stops -/

/-- Whether there is text left and no segment can be taken off it. -/
def Stops (isFirst : Bool) (left : List Char) (fault : PathFault) : Prop :=
  left ≠ [] ∧ takeSegment isFirst left = .error fault

/-- Behind a segment that was taken off, an error is one of what is left. -/
theorem segments_eq_error_of_takeSegment {isFirst : Bool} {cs rest : List Char} {s : Segment}
    {e : PathFault × List Char} (htake : takeSegment isFirst cs = .ok (s, rest))
    (h : segments isFirst cs = .error e) : segments false rest = .error e := by
  rw [segments_of_takeSegment htake] at h
  cases hrest : segments false rest with
  | ok p =>
    rw [hrest] at h
    cases h
  | error e' =>
    rw [hrest] at h
    cases h
    rfl

/-- Reading stops where no segment can be taken off, or behind the first segment. -/
theorem segments_error_cases {isFirst : Bool} {cs left : List Char} {fault : PathFault}
    (h : segments isFirst cs = .error (fault, left)) :
    (left = cs ∧ Stops isFirst cs fault) ∨
      ∃ s rest, takeSegment isFirst cs = .ok (s, rest) ∧ rest.length < cs.length ∧
        segments false rest = .error (fault, left) := by
  cases htake : takeSegment isFirst cs with
  | ok e =>
    obtain ⟨s, rest⟩ := e
    have hrest := segments_eq_error_of_takeSegment htake h
    exact .inr ⟨s, rest, rfl, Path.length_of_takeSegment htake, hrest⟩
  | error fault' =>
    cases cs with
    | nil =>
      rw [segments] at h
      cases h
    | cons c rest =>
      rw [segments] at h
      split at h
      · rename_i heq
        rw [htake] at heq
        cases heq
        cases h
        exact .inl ⟨rfl, List.cons_ne_nil c rest, htake⟩
      · rename_i heq
        rw [htake] at heq
        cases heq

/-- Reading behind another step stops at the end of some steps. The induction is on the length of
what is left to be read. -/
theorem exists_steps_of_segments_error (n : Nat) : ∀ (cs left : List Char) (fault : PathFault),
    cs.length ≤ n → segments false cs = .error (fault, left) →
      Stops false left fault ∧
        ∃ steps : List LaterStep, cs = steps.flatMap LaterStep.chars ++ left := by
  induction n with
  | zero =>
    intro cs left fault hlen h
    obtain rfl := List.eq_nil_of_length_eq_zero (Nat.le_zero.mp hlen)
    rw [segments] at h
    cases h
  | succ n ih =>
    intro cs left fault hlen h
    rcases segments_error_cases h with ⟨rfl, hstops⟩ | ⟨s, rest, htake, hshorter, hrest⟩
    · exact ⟨hstops, [], rfl⟩
    · obtain ⟨hstops, steps, rfl⟩ := ih rest left fault (by omega) hrest
      obtain ⟨dotted, hop, marked, hfollows, rfl, -⟩ := exists_hop_of_takeSegment htake
      have hdotted : ∀ n, hop = .name n → dotted = true := by
        rintro n rfl
        exact hfollows
      refine ⟨hstops, ⟨dotted, hop, marked, hdotted⟩ :: steps, ?_⟩
      rw [List.flatMap_cons, List.append_assoc, LaterStep.chars_append]

/-- Reading stops at the beginning, or at the end of a path. -/
theorem exists_derivation_of_segments_error {cs left : List Char} {fault : PathFault}
    (h : segments true cs = .error (fault, left)) :
    (∃ isFirst, Stops isFirst left fault) ∧
      ∃ front, cs = front ++ left ∧ (front = [] ∨ ∃ d : Derivation, d.chars = front) := by
  rcases segments_error_cases h with ⟨rfl, hstops⟩ | ⟨s, rest, htake, -, hrest⟩
  · exact ⟨⟨true, hstops⟩, [], rfl, .inl rfl⟩
  · obtain ⟨hstops, steps, rfl⟩ :=
      exists_steps_of_segments_error rest.length rest left fault (Nat.le_refl _) hrest
    obtain ⟨dotted, hop, marked, hfollows, rfl, -⟩ := exists_hop_of_takeSegment htake
    have hdotted : dotted = false := by
      cases hop <;> exact hfollows
    subst hdotted
    refine ⟨⟨false, hstops⟩, _, ?_, .inr ⟨⟨⟨hop, marked⟩, steps⟩, rfl⟩⟩
    rw [Derivation.chars, List.append_assoc, FirstStep.chars_append]

/-! ### What reading takes at least -/

theorem Hop.suffix_readBefore (hop : Hop) (marked : Bool) (rest : List Char) :
    (Path.splitMark (hop.readBefore (optional '?' marked ++ rest)).2).2 <:+ rest := by
  have hsplit : ∀ {cs : List Char}, cs <:+ rest → (Path.splitMark cs).2 <:+ rest := by
    intro cs hcs
    refine List.IsSuffix.trans ?_ hcs
    unfold Path.splitMark
    split
    · exact List.suffix_cons _ _
    · exact List.suffix_rfl
  cases marked with
  | true =>
    -- No name goes on behind its mark.
    have hname : EndsName ('?' :: rest) := by
      intro c hc
      cases hc
      rfl
    change (Path.splitMark (hop.readBefore ('?' :: rest)).2).2 <:+ rest
    rw [hop.readBefore_of_endsName hname]
    exact List.suffix_rfl
  | false =>
    apply hsplit
    cases hop with
    | name n => exact List.dropWhile_suffix _
    | position i => exact List.suffix_rfl

/-- Where a step was written, a segment is taken off that is no shorter. -/
theorem exists_takeSegment_append {isFirst dotted : Bool} {hop : Hop}
    (h : hop.Follows isFirst dotted) (marked : Bool) (rest : List Char) :
    ∃ s left, takeSegment isFirst
        (optional '.' dotted ++ (hop.chars ++ (optional '?' marked ++ rest))) = .ok (s, left) ∧
      left <:+ rest := by
  have hstep := takeStep_append h (optional '?' marked ++ rest)
  have hsuffix := hop.suffix_readBefore marked rest
  generalize hop.readBefore (optional '?' marked ++ rest) = read at hstep hsuffix
  obtain ⟨step, left⟩ := read
  refine ⟨⟨step, (Path.splitMark left).1⟩, (Path.splitMark left).2, ?_, hsuffix⟩
  rw [takeSegment, hstep]

theorem suffix_of_segments_false_error {cs left : List Char} {fault : PathFault}
    (h : segments false cs = .error (fault, left)) : left <:+ cs := by
  obtain ⟨-, steps, rfl⟩ := exists_steps_of_segments_error cs.length cs left fault (Nat.le_refl _) h
  exact List.suffix_append _ _

/-- An error is not before the end of steps that the text begins with. All but the last of them are
taken as they were written, since another one follows. -/
theorem suffix_of_segments_error {steps : List LaterStep} {more left : List Char}
    {fault : PathFault} {isFirst dotted : Bool} {hop : Hop}
    (hfollows : hop.Follows isFirst dotted) (marked : Bool)
    (h : segments isFirst (optional '.' dotted ++ (hop.chars ++ (optional '?' marked ++
      (steps.flatMap LaterStep.chars ++ more)))) = .error (fault, left)) : left <:+ more := by
  induction steps generalizing isFirst dotted hop marked with
  | nil =>
    rw [List.flatMap_nil, List.nil_append] at h
    obtain ⟨s, rest, htake, hrest⟩ := exists_takeSegment_append hfollows marked more
    have hsegments := segments_eq_error_of_takeSegment htake h
    exact (suffix_of_segments_false_error hsegments).trans hrest
  | cons step steps ih =>
    rw [List.flatMap_cons, List.append_assoc] at h
    have hends := step.endsStep_append (steps.flatMap LaterStep.chars ++ more)
    have hsegments := segments_eq_error_of_takeSegment (takeSegment_chars hfollows marked hends) h
    rw [step.chars_append] at hsegments
    exact ih step.follows step.marked hsegments

theorem Derivation.suffix_of_segments_error (d : Derivation) {more left : List Char}
    {fault : PathFault} (h : segments true (d.chars ++ more) = .error (fault, left)) :
    left <:+ more := by
  rw [Derivation.chars, List.append_assoc, d.first.chars_append] at h
  exact PathGrammar.suffix_of_segments_error d.first.follows d.first.marked h

/-! ### Faults -/

/-- A character that may stand in no name is one of those that set steps off. -/
theorem eq_or_of_not_isNameChar {c : Char} (h : Path.isNameChar c = false) :
    c = '.' ∨ c = '[' ∨ c = ']' ∨ c = '?' := by
  simp only [Path.isNameChar, Bool.and_eq_false_iff, bne_eq_false_iff_eq, or_assoc] at h
  exact h

theorem isNameChar_of_takeWhile {c : Char} {rest : List Char}
    (h : (c :: rest).takeWhile Path.isNameChar = []) : Path.isNameChar c = false := by
  cases hc : Path.isNameChar c with
  | false => rfl
  | true =>
    rw [List.takeWhile_cons_of_pos hc] at h
    cases h

/-- Where the text goes on and no name begins, a character that sets steps off is to blame. -/
theorem faultAt_ne_unexpectedCharacter {cs : List Char} (hne : cs ≠ [])
    (hname : (Path.splitDot cs).2.takeWhile Path.isNameChar = []) :
    Path.faultAt cs ≠ .unexpectedCharacter := by
  cases cs with
  | nil => exact absurd rfl hne
  | cons c rest =>
    by_cases hdot : c = '.'
    · subst hdot
      cases rest with
      | nil => decide
      | cons c rest =>
        rcases eq_or_of_not_isNameChar (isNameChar_of_takeWhile hname) with rfl | rfl | rfl | rfl
        all_goals exact nofun
    · have hsplit : Path.splitDot (c :: rest) = (false, c :: rest) := by
        unfold Path.splitDot
        split
        · rename_i heq
          exact absurd (List.cons.inj heq).1 hdot
        · rfl
      rw [hsplit] at hname
      rw [Path.faultAt, hsplit]
      rcases eq_or_of_not_isNameChar (isNameChar_of_takeWhile hname) with rfl | rfl | rfl | rfl
      · exact absurd rfl hdot
      all_goals exact nofun

theorem fault_ne_of_takeStep {isFirst : Bool} {cs : List Char} {fault : PathFault} (hne : cs ≠ [])
    (h : takeStep isFirst cs = .error fault) : fault ≠ .unexpectedCharacter := by
  unfold takeStep at h
  dsimp only at h
  split at h
  · split at h
    · cases h
      exact nofun
    · split at h
      · cases h
      · cases h
        exact nofun
  · split at h
    · rename_i hname
      cases h
      exact faultAt_ne_unexpectedCharacter hne (List.isEmpty_iff.mp hname)
    · split at h
      · cases h
        exact nofun
      · split at h
        · cases h
          exact nofun
        · cases h

theorem Stops.fault_ne {isFirst : Bool} {left : List Char} {fault : PathFault}
    (h : Stops isFirst left fault) : fault ≠ .unexpectedCharacter := by
  obtain ⟨hne, htake⟩ := h
  unfold takeSegment at htake
  split at htake
  · cases htake
  · rename_i hstep
    cases htake
    exact fault_ne_of_takeStep hne hstep

end PathGrammar

/-! ### Errors of path texts -/

namespace Path

open PathGrammar

/-- The longest path that a text begins with; the empty text where it begins with none. -/
structure IsLongestFront (front text : String) : Prop where
  isPrefix : front.toList <+: text.toList
  parses : front = "" ∨ ∃ p, parse front = .ok p
  longest : ∀ other : String, other.toList <+: text.toList → (∃ p, parse other = .ok p) →
    other.toList <+: front.toList

theorem utf8ByteSize_ofList (cs : List Char) :
    (String.ofList cs).utf8ByteSize = byteLength cs := by
  induction cs with
  | nil => rfl
  | cons c rest ih =>
    rw [String.ofList_cons, String.utf8ByteSize_append, String.utf8ByteSize_singleton, ih,
      byteLength]

theorem byteLength_append (cs ds : List Char) :
    byteLength (cs ++ ds) = byteLength cs + byteLength ds := by
  rw [← utf8ByteSize_ofList, String.ofList_append, String.utf8ByteSize_append,
    utf8ByteSize_ofList, utf8ByteSize_ofList]

/-- There is no other one. -/
theorem IsLongestFront.unique {front front' text : String} (h : IsLongestFront front text)
    (h' : IsLongestFront front' text) : front = front' := by
  have hle : ∀ {a b : String}, IsLongestFront a text → IsLongestFront b text →
      a.toList <+: b.toList := by
    intro a b ha hb
    rcases ha.parses with rfl | hparses
    · exact List.nil_prefix
    · exact hb.longest a ha.isPrefix hparses
  exact String.toList_inj.mp (List.IsPrefix.eq_of_length_le (hle h h') (hle h' h).length_le)

/-- A text is refused because it is empty, or where reading its segments stops. -/
theorem parse_error_cases {text : String} {e : PathSyntaxError} (h : parse text = .error e) :
    (text = "" ∧ e = ⟨text, 0, .emptyPath⟩) ∨
      ∃ fault left, segments true text.toList = .error (fault, left) ∧
        e = ⟨text, byteLength text.toList - byteLength left, fault⟩ := by
  unfold parse at h
  split at h
  · rename_i hempty
    cases h
    exact .inl ⟨String.isEmpty_iff.mp hempty, rfl⟩
  · split at h
    · cases h
    · rename_i fault left hsegments
      cases h
      exact .inr ⟨fault, left, hsegments, rfl⟩

theorem not_parses_empty (p : Path) : parse "" ≠ .ok p := nofun

/-- What comes before an error is the longest path in front. -/
theorem isLongestFront_of_segments_error {text : String} {front left : List Char}
    {fault : PathFault} (h : segments true text.toList = .error (fault, left))
    (hcut : text.toList = front ++ left) (hfront : front = [] ∨ ∃ d : Derivation, d.chars = front) :
    IsLongestFront (String.ofList front) text := by
  refine ⟨?_, ?_, ?_⟩
  · rw [String.toList_ofList, hcut]
    exact List.prefix_append _ _
  · rcases hfront with rfl | ⟨d, rfl⟩
    · exact .inl rfl
    · exact .inr ⟨d.path, parse_of_derivation String.toList_ofList.symm⟩
  · rintro other ⟨more, hmore⟩ ⟨p, hp⟩
    obtain ⟨d, hd, -⟩ := exists_derivation_of_parse hp
    rw [← hmore, ← hd] at h
    -- The error is behind the steps of the other path.
    obtain ⟨between, rfl⟩ := d.suffix_of_segments_error h
    rw [hcut, ← List.append_assoc, List.append_cancel_right_eq] at hmore
    rw [String.toList_ofList, ← hmore]
    exact List.prefix_append _ _

/-- An error is at the end of the longest path in front. -/
theorem exists_isLongestFront {text : String} {e : PathSyntaxError} (h : parse text = .error e) :
    ∃ front, IsLongestFront front text ∧ e.offset = front.utf8ByteSize := by
  rcases parse_error_cases h with ⟨rfl, rfl⟩ | ⟨fault, left, hsegments, rfl⟩
  · refine ⟨"", ⟨List.prefix_rfl, .inl rfl, ?_⟩, rfl⟩
    intro other hother _
    exact hother
  · obtain ⟨-, front, hcut, hfront⟩ := exists_derivation_of_segments_error hsegments
    refine ⟨_, isLongestFront_of_segments_error hsegments hcut hfront, ?_⟩
    rw [utf8ByteSize_ofList, hcut, byteLength_append, Nat.add_sub_cancel]

theorem text_eq_of_parse_error {text : String} {e : PathSyntaxError} (h : parse text = .error e) :
    e.text = text := by
  rcases parse_error_cases h with ⟨rfl, rfl⟩ | ⟨fault, left, -, rfl⟩
  · rfl
  · rfl

theorem fault_ne_of_parse_error {text : String} {e : PathSyntaxError} (h : parse text = .error e) :
    e.fault ≠ .unexpectedCharacter := by
  rcases parse_error_cases h with ⟨rfl, rfl⟩ | ⟨fault, left, hsegments, rfl⟩
  · exact nofun
  · obtain ⟨⟨isFirst, hstops⟩, -⟩ := exists_derivation_of_segments_error hsegments
    exact hstops.fault_ne

/-- A syntax error carries the whole text and points at the end of the longest path that the text
begins with, counted in bytes, which is at 0 only if it begins with none. One of the reasons is
never given. -/
theorem parse_error_at_longest_front {text : String} {e : PathSyntaxError}
    (h : parse text = .error e) :
    e.text = text ∧ e.fault.reason ≠ "unexpected character" ∧
      (∃ front, IsLongestFront front text) ∧
      (∀ front, IsLongestFront front text → e.offset = front.utf8ByteSize) ∧
      (e.offset = 0 ↔
        ∀ front : String, front.toList <+: text.toList → ∀ p, parse front ≠ .ok p) := by
  obtain ⟨front, hfront, hoffset⟩ := exists_isLongestFront h
  refine ⟨text_eq_of_parse_error h, ?_, ⟨front, hfront⟩, ?_, ?_⟩
  · have hfault := fault_ne_of_parse_error h
    cases hreason : e.fault with
    | unexpectedCharacter => exact absurd hreason hfault
    | _ => decide
  · intro front' hfront'
    rw [hoffset, hfront.unique hfront']
  · rw [hoffset, String.utf8ByteSize_eq_zero_iff]
    constructor
    · rintro rfl other hother p hp
      have hnil := List.prefix_nil.mp (hfront.longest other hother ⟨p, hp⟩)
      rw [String.toList_eq_nil_iff.mp hnil] at hp
      exact not_parses_empty p hp
    · intro hnone
      rcases hfront.parses with hempty | ⟨p, hp⟩
      · exact hempty
      · exact absurd hp (hnone front hfront.isPrefix p)

/-- In `a.é[x` the bracket is not closed, which is said of the offset 4, at the end of `a.é`. -/
theorem parse_error_at_longest_front_open_bracket :
    parse "a.é[x" = .error ⟨"a.é[x", 4, .unmatchedOpen⟩ ∧ IsLongestFront "a.é" "a.é[x" ∧
      "a.é".utf8ByteSize = 4 := by
  have hrefused : parse "a.é[x" = .error ⟨"a.é[x", 4, .unmatchedOpen⟩ := by
    decide +kernel
  have hcut : ∀ cs ∈ "a.é[x".toList.inits, byteLength cs = 4 → cs = "a.é".toList := by
    decide +kernel
  obtain ⟨-, -, ⟨front, hfront⟩, hoffset, -⟩ := parse_error_at_longest_front hrefused
  have hsize : byteLength front.toList = 4 := by
    rw [← utf8ByteSize_ofList, String.ofList_toList]
    exact (hoffset front hfront).symm
  obtain rfl := String.toList_inj.mp (hcut _ ((List.mem_inits _ _).mpr hfront.isPrefix) hsize)
  exact ⟨hrefused, hfront, (hoffset _ hfront).symm⟩

end Path
end DocShape
