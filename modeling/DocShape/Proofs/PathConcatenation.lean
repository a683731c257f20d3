import DocShape.Access.Place
import DocShape.Proofs.PathGrammar

/-!
Paths in two parts: `p.q` goes hop by hop to where `p` and then `q` lead.

In a path text a dot only ever sets off a step, so the text can be cut at any of its dots, and both
sides are paths again. Walking the whole is walking the first part and, from the node found, the
second one. Only the failures of the second part are reported at another location.

* `Derivation.append`, `exists_append_of_chars`: derivations joined by a dot, and cut at one.
* `parse_append_dot_iff`: a text with a dot parses exactly when both sides parse.
* `text_append`: the text of a path in two parts.
* `find?_ok_append`, `resolve_ok_append`: walks in two parts, with the locations of failures.
* `parse_append_dot_hop_by_hop`: all of this said of path texts.
-/

namespace DocShape

namespace PathGrammar

/-! ### Derivations in two parts -/

/-- The step after another one, set off by a dot. -/
def FirstStep.afterDot (s : FirstStep) : LaterStep :=
  ⟨true, s.hop, s.marked, fun _ _ => rfl⟩

/-- The step without its dot, as the beginning of a path. -/
def LaterStep.undotted (s : LaterStep) : FirstStep :=
  ⟨s.hop, s.marked⟩

theorem FirstStep.chars_afterDot (s : FirstStep) : s.afterDot.chars = '.' :: s.chars := rfl

theorem LaterStep.chars_eq (s : LaterStep) : s.chars = optional '.' s.dotted ++ s.undotted.chars :=
  rfl

/-- A derivation followed by another one, with a dot between them. -/
def Derivation.append (d d' : Derivation) : Derivation :=
  ⟨d.first, d.later ++ d'.first.afterDot :: d'.later⟩

theorem Derivation.chars_append (d d' : Derivation) :
    (d.append d').chars = d.chars ++ '.' :: d'.chars := by
  simp only [Derivation.chars, append, List.flatMap_append, List.flatMap_cons,
    FirstStep.chars_afterDot, List.append_assoc, List.cons_append]

theorem Derivation.path_append (d d' : Derivation) : (d.append d').path = d.path ++ d'.path := by
  simp only [Derivation.path, append, List.map_append, List.map_cons, List.cons_append]
  rfl

theorem Hop.dot_notMem_chars (hop : Hop) : '.' ∉ hop.chars := by
  cases hop with
  | name n =>
    intro hmem
    exact (n.plain '.' hmem).1 rfl
  | position i =>
    have hdigits : '.' ∉ i.chars := Numeral.notMem_chars_of_not_isDigit (by decide) (by decide)
    simp [Hop.chars, hdigits]

theorem FirstStep.dot_notMem_chars (s : FirstStep) : '.' ∉ s.chars := by
  have hmark : '.' ∉ optional '?' s.marked := by
    cases s.marked <;> decide
  rw [FirstStep.chars, List.mem_append, not_or]
  exact ⟨s.hop.dot_notMem_chars, hmark⟩

/-- A dot stands behind characters among which there is none. -/
theorem exists_of_append_eq_append_dot {xs ys cs ds : List Char} (hx : '.' ∉ xs)
    (h : xs ++ ys = cs ++ '.' :: ds) : ∃ more, cs = xs ++ more ∧ ys = more ++ '.' :: ds := by
  rcases List.append_eq_append_iff.mp h with ⟨more, hcs, hys⟩ | ⟨more, hxs, hdot⟩
  · exact ⟨more, hcs, hys⟩
  · cases more with
    | nil =>
      rw [List.append_nil] at hxs
      exact ⟨[], by rw [hxs, List.append_nil], hdot.symm⟩
    | cons c more =>
      -- The dot would be one of the first characters.
      have hc := (List.cons.inj hdot).1
      rw [hxs, ← hc] at hx
      simp at hx

/-- Later steps are cut at a dot before the step that the dot sets off. -/
theorem exists_cut_of_flatMap {steps : List LaterStep} {cs ds : List Char}
    (h : steps.flatMap LaterStep.chars = cs ++ '.' :: ds) :
    ∃ before s after, steps = before ++ s :: after ∧ s.dotted = true ∧
      before.flatMap LaterStep.chars = cs ∧
      s.undotted.chars ++ after.flatMap LaterStep.chars = ds := by
  induction steps generalizing cs with
  | nil =>
    rw [List.flatMap_nil] at h
    simp at h
  | cons s rest ih =>
    rw [List.flatMap_cons, s.chars_eq, List.append_assoc] at h
    -- Behind the dot of this step, if it has one, the cut can only be in the steps that follow.
    have hlater : ∀ {cs}, s.undotted.chars ++ rest.flatMap LaterStep.chars = cs ++ '.' :: ds →
        ∃ before t after, s :: rest = before ++ t :: after ∧ t.dotted = true ∧
          before.flatMap LaterStep.chars = optional '.' s.dotted ++ cs ∧
          t.undotted.chars ++ after.flatMap LaterStep.chars = ds := by
      intro cs hcs
      obtain ⟨more, rfl, hrest⟩ :=
        exists_of_append_eq_append_dot s.undotted.dot_notMem_chars hcs
      obtain ⟨before, t, after, rfl, hdotted, rfl, hds⟩ := ih hrest
      refine ⟨s :: before, t, after, rfl, hdotted, ?_, hds⟩
      rw [List.flatMap_cons, s.chars_eq, List.append_assoc]
    cases hdot : s.dotted with
    | false =>
      rw [hdot] at h hlater
      exact hlater h
    | true =>
      rw [hdot] at h hlater
      cases cs with
      | nil => exact ⟨[], s, rest, rfl, hdot, rfl, (List.cons.inj h).2⟩
      | cons c cs =>
        obtain ⟨rfl, htail⟩ := List.cons.inj h
        exact hlater htail

/-- A derivation is cut at a dot of its text into derivations of both sides. -/
theorem exists_append_of_chars {d : Derivation} {cs ds : List Char}
    (h : d.chars = cs ++ '.' :: ds) :
    ∃ d₁ d₂ : Derivation, d = d₁.append d₂ ∧ d₁.chars = cs ∧ d₂.chars = ds := by
  obtain ⟨first, later⟩ := d
  obtain ⟨more, rfl, hlater⟩ := exists_of_append_eq_append_dot first.dot_notMem_chars h
  obtain ⟨before, s, after, rfl, hdotted, rfl, rfl⟩ := exists_cut_of_flatMap hlater
  refine ⟨⟨first, before⟩, ⟨s.undotted, after⟩, ?_, rfl, rfl⟩
  have hs : s.undotted.afterDot = s := LaterStep.ext hdotted.symm rfl rfl
  rw [Derivation.append, hs]

end PathGrammar

/-! ### Path texts in two parts -/

namespace Path

open PathGrammar

theorem exists_derivation_of_parse {text : String} {p : Path} (h : parse text = .ok p) :
    ∃ d : Derivation, d.chars = text.toList ∧ d.path = p := by
  obtain ⟨hne, hsegments⟩ := parse_eq_ok_iff_segments.mp h
  exact exists_derivation_of_segments hne hsegments

theorem parse_of_derivation {text : String} {d : Derivation} (h : d.chars = text.toList) :
    parse text = .ok d.path := by
  rw [parse_eq_ok_iff_segments, ← h]
  exact ⟨d.chars_ne_nil, d.segments_chars⟩

/-- A parsed path has a segment. -/
theorem ne_nil_of_parse {text : String} {p : Path} (h : parse text = .ok p) : p ≠ [] := by
  obtain ⟨d, -, rfl⟩ := exists_derivation_of_parse h
  exact List.cons_ne_nil _ _

/-- A text with a dot parses exactly when both sides of the dot parse, to the segments of both. -/
theorem parse_append_dot_iff {p q : String} {path : Path} :
    parse (p ++ "." ++ q) = .ok path ↔
      ∃ a b, parse p = .ok a ∧ parse q = .ok b ∧ path = a ++ b := by
  have htext : (p ++ "." ++ q).toList = p.toList ++ '.' :: q.toList := by
    simp
  constructor
  · intro h
    obtain ⟨d, hchars, rfl⟩ := exists_derivation_of_parse h
    rw [htext] at hchars
    obtain ⟨d₁, d₂, rfl, h₁, h₂⟩ := exists_append_of_chars hchars
    exact ⟨_, _, parse_of_derivation h₁, parse_of_derivation h₂, d₁.path_append d₂⟩
  · rintro ⟨a, b, ha, hb, rfl⟩
    obtain ⟨d₁, h₁, rfl⟩ := exists_derivation_of_parse ha
    obtain ⟨d₂, h₂, rfl⟩ := exists_derivation_of_parse hb
    have hchars : (d₁.append d₂).chars = (p ++ "." ++ q).toList := by
      rw [d₁.chars_append, h₁, h₂, htext]
    rw [parse_of_derivation hchars, d₁.path_append]

/-! ### Texts of paths in two parts -/

/-- What the text of a path is set off with behind another path: a dot if a key comes first. -/
def separator : Path → String
  | ⟨.key _, _⟩ :: _ => "."
  | _ => ""

theorem flatMap_charsAfter {p : Path} (h : p ≠ []) :
    p.flatMap Segment.charsAfter = p.separator.toList ++ p.chars := by
  cases p with
  | nil => exact absurd rfl h
  | cons s rest =>
    obtain ⟨step, marked⟩ := s
    cases step with
    | key name => simp [separator, chars, Segment.charsAfter]
    | index n => simp [separator, chars, Segment.charsAfter]

theorem text_append {p q : Path} (hp : p ≠ []) (hq : q ≠ []) :
    text (p ++ q) = text p ++ separator q ++ text q := by
  apply String.toList_inj.mp
  simp only [text, String.toList_append, String.toList_ofList, chars_append hp,
    flatMap_charsAfter hq, List.append_assoc]

theorem separator_take_succ (p : Path) (n : Nat) : separator (p.take (n + 1)) = separator p := by
  cases p with
  | nil => rfl
  | cons s rest =>
    obtain ⟨step, marked⟩ := s
    cases step <;> rfl

end Path

/-! ### Path texts hop by hop -/

/-- A failure along a second path, reported from where the first one begins. -/
def AccessError.behind (p q : Path) : AccessError → AccessError
  | .absent location => .absent (p.text ++ q.separator ++ location)
  | e => e

namespace PathArgument

theorem find?_ok_append (p q : Path) (r : Value) :
    find? (.ok (p ++ q)) r = (find? (.ok p) r).bind (find? (.ok q)) :=
  r.find?_append p q

theorem resolve_ok_append {p q : Path} (hp : p ≠ []) (hq : q ≠ []) (r : Value) :
    resolve (.ok (p ++ q)) r =
      match resolve (.ok p) r with
      | .ok (some u) => (resolve (.ok q) u).mapError (AccessError.behind p q)
      | stopped => stopped := by
  simp only [resolve, r.resolve_append]
  cases r.resolve p with
  | error missing => rfl
  | ok found =>
    cases found with
    | none => rfl
    | some u =>
      dsimp only
      cases hresolve : u.resolve q with
      | ok found => rfl
      | error missing =>
        obtain ⟨i, rfl⟩ := Value.exists_take_of_resolve_error hresolve
        have hne : q.take (i + 1) ≠ [] := by
          cases q with
          | nil => exact absurd rfl hq
          | cons s rest => exact List.cons_ne_nil _ _
        have htext := Path.text_append hp hne
        rw [Path.separator_take_succ] at htext
        exact congrArg (Except.error ∘ AccessError.absent) htext

/-- A text with a dot is a path exactly when both sides of the dot are, and then it has the segments
of both and leads hop by hop to where they do. -/
theorem parse_append_dot_hop_by_hop (p q : String) :
    (∀ path, Path.parse (p ++ "." ++ q) = .ok path ↔
      ∃ a b, Path.parse p = .ok a ∧ Path.parse q = .ok b ∧ path = a ++ b) ∧
    ∀ a b, Path.parse p = .ok a → Path.parse q = .ok b → ∀ r,
      find? (Path.parse (p ++ "." ++ q)) r =
        (find? (Path.parse p) r).bind (find? (Path.parse q)) ∧
      resolve (Path.parse (p ++ "." ++ q)) r =
        match resolve (Path.parse p) r with
        | .ok (some u) => (resolve (Path.parse q) u).mapError (AccessError.behind a b)
        | stopped => stopped := by
  refine ⟨fun _ => Path.parse_append_dot_iff, fun a b ha hb r => ?_⟩
  have hab : Path.parse (p ++ "." ++ q) = .ok (a ++ b) :=
    Path.parse_append_dot_iff.mpr ⟨a, b, ha, hb, rfl⟩
  rw [hab, ha, hb]
  exact ⟨find?_ok_append a b r,
    resolve_ok_append (Path.ne_nil_of_parse ha) (Path.ne_nil_of_parse hb) r⟩

theorem eq_ok_of_toOption {ε α : Type} {x : Except ε α} {a : α} (h : x.toOption = some a) :
    x = .ok a := by
  cases x with
  | ok _ => rw [Option.some.inj h]
  | error _ => cases h

/-- In `{"pets": [{"tags": [null]}]}` the second part of `pets[0]?.tags[1].name` fails at its
`[1]`. -/
theorem parse_append_dot_hop_by_hop_pets :
    Path.parse "pets[0]?" = .ok [⟨.key "pets", false⟩, ⟨.index 0, true⟩] ∧
    Path.parse "tags[1].name" =
      .ok [⟨.key "tags", false⟩, ⟨.index 1, false⟩, ⟨.key "name", false⟩] ∧
    resolve (Path.parse ("pets[0]?" ++ "." ++ "tags[1].name"))
      (.object [("pets", .array [.object [("tags", .array [.null])]])]) =
        .error (.absent "pets[0]?.tags[1]") := by
  have hp : Path.parse "pets[0]?" = .ok [⟨.key "pets", false⟩, ⟨.index 0, true⟩] :=
    eq_ok_of_toOption (by decide +kernel)
  have hq : Path.parse "tags[1].name" =
      .ok [⟨.key "tags", false⟩, ⟨.index 1, false⟩, ⟨.key "name", false⟩] :=
    eq_ok_of_toOption (by decide +kernel)
  refine ⟨hp, hq, ?_⟩
  rw [((parse_append_dot_hop_by_hop _ _).2 _ _ hp hq _).2, hp, hq]
  rfl

end PathArgument
end DocShape
