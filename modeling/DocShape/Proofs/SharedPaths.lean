import DocShape.Proofs.FailureLocation
import Mathlib.Data.List.Basic

/-!
How much of its position the path of a failure tells.

Keys are written into path text as they are, and paths have no way to set off a dot or a bracket
that belongs to a key. So positions share their text: a key with a dot reads as two keys, a key that
ends in `[0]` reads as a key and a position, and an empty key at the beginning leaves no trace.

* `two_positions_share_path`: pairs of failures that are reported with one path, and a failure below
  the root that is reported as one of the root.
* `IsSolidKey`, `HidesStart`: the keys that are not written like several steps, and the positions
  that begin with an empty key of which nothing is seen. `IsTold` rules out the one and the other.
* `eq_of_chars_eq`, `existsUnique_isTold`: told positions with the same text are the same, and each
  position has the text of a told one, so that no weaker condition would do.
* `path_eq_iff_position_eq`: reported failures at told positions have the same path exactly when
  they have the same position, and no path exactly when they are about the root.
-/

namespace DocShape

/-- The keys and the positions of elements that lead from the root to the place of the failure. -/
def Failure.position (f : Failure) : List Step :=
  f.trail.map Segment.step

/-! ### Positions that share a path -/

/-- Failures of different nodes with the same path: a key with a dot and a key below a key, a key
with a bracket and an element below a key. A failure at an empty key has no path, like a failure of
the root, and one at a key of that name is located at `(root)` as well. -/
theorem two_positions_share_path :
    (∃ f f', (Schema.objectOf [("a.b", .string)]).error? (.object [("a.b", .bool true)]) = some f ∧
      (Schema.objectOf [("a", .objectOf [("b", .string)])]).error?
        (.object [("a", .object [("b", .bool true)])]) = some f' ∧
      f.path = f'.path ∧ f.position ≠ f'.position) ∧
    (∃ f f', (Schema.objectOf [("a[0]", .string)]).error?
        (.object [("a[0]", .bool true)]) = some f ∧
      (Schema.objectOf [("a", .arrayOf .string)]).error?
        (.object [("a", .array [.bool true])]) = some f' ∧
      f.path = f'.path ∧ f.position ≠ f'.position) ∧
    (∃ f f', (Schema.objectOf [("", .string)]).error? (.object [("", .bool true)]) = some f ∧
      Schema.string.error? (.bool true) = some f' ∧
      f.path = f'.path ∧ f.position ≠ f'.position ∧
      f.path = "" ∧ f.location = "(root)" ∧ f.position ≠ []) ∧
    ∃ f, (Schema.objectOf [("(root)", .string)]).error?
        (.object [("(root)", .bool true)]) = some f ∧
      f.location = "(root)" ∧ f.position ≠ [] := by
  refine ⟨⟨⟨[.required (.key "a.b")], .mismatch .string .boolean⟩,
      ⟨[.required (.key "a"), .required (.key "b")], .mismatch .string .boolean⟩, ?_⟩,
    ⟨⟨[.required (.key "a[0]")], .mismatch .string .boolean⟩,
      ⟨[.required (.key "a"), .required (.index 0)], .mismatch .string .boolean⟩, ?_⟩,
    ⟨⟨[.required (.key "")], .mismatch .string .boolean⟩, ⟨[], .mismatch .string .boolean⟩, ?_⟩,
    ⟨[.required (.key "(root)")], .mismatch .string .boolean⟩, ?_⟩
  · decide +kernel
  · decide +kernel
  · decide +kernel
  · decide +kernel

/-! ### Solid keys -/

/-- Whether a key is written like one step only: it has no dot, and it does not end in a position in
brackets. A position before the end, as in `a[0]b`, is not taken for a step. -/
def IsSolidKey (key : String) : Prop :=
  '.' ∉ key.toList ∧ ∀ n, ¬ (Step.index n).chars <:+ key.toList

def Step.IsSolid : Step → Prop
  | .key name => IsSolidKey name
  | .index _ => True

theorem isSolidKey_empty : IsSolidKey "" := by
  refine ⟨List.not_mem_nil, fun n h => ?_⟩
  have hnil := List.suffix_nil.mp h
  cases hnil

/-- Without an opening bracket there is no position in brackets. -/
theorem isSolidKey_of_notMem {key : String} (hdot : '.' ∉ key.toList)
    (hbracket : '[' ∉ key.toList) : IsSolidKey key := by
  refine ⟨hdot, fun n h => ?_⟩
  apply hbracket
  exact h.subset List.mem_cons_self

namespace Path

/-- The characters of required steps after other ones. -/
def charsAfter (steps : List Step) : List Char :=
  (steps.map Segment.required).flatMap Segment.charsAfter

theorem charsAfter_key (name : String) (rest : List Step) :
    charsAfter (.key name :: rest) = '.' :: (name.toList ++ charsAfter rest) := by
  simp [charsAfter, Segment.charsAfter, Segment.chars, Segment.required, Step.chars]

theorem charsAfter_index (n : Nat) (rest : List Step) :
    charsAfter (.index n :: rest) = (Step.index n).chars ++ charsAfter rest := by
  simp [charsAfter, Segment.charsAfter, Segment.chars, Segment.required]

theorem charsAfter_append (steps steps' : List Step) :
    charsAfter (steps ++ steps') = charsAfter steps ++ charsAfter steps' := by
  simp only [charsAfter, List.map_append, List.flatMap_append]

/-- What follows a step begins with a dot or with a bracket. -/
theorem head_of_charsAfter {steps : List Step} {c : Char} {cs : List Char}
    (h : charsAfter steps = c :: cs) : c = '.' ∨ c = '[' := by
  cases steps with
  | nil => cases h
  | cons s rest =>
    cases s with
    | key name =>
      rw [charsAfter_key] at h
      exact .inl (List.cons.inj h).1.symm
    | index n =>
      rw [charsAfter_index] at h
      exact .inr (List.cons.inj h).1.symm

/-- Inside a position in brackets no step begins. -/
theorem not_startsStep_of_mem {n : Nat} {c : Char} (h : c ∈ Nat.toDigits 10 n ++ [']']) :
    ¬ (c = '.' ∨ c = '[') := by
  rcases List.mem_append.mp h with h | h
  · have hdigit : c.isDigit := Nat.isDigit_of_mem_toDigits (by decide) (by decide) h
    rintro (rfl | rfl)
    · cases hdigit
    · cases hdigit
  · rw [List.mem_singleton.mp h]
    decide

theorem index_chars_append_inj {n m : Nat} {cs ds : List Char}
    (h : (Step.index n).chars ++ cs = (Step.index m).chars ++ ds) : n = m ∧ cs = ds := by
  have hbrackets : ∀ n cs, splitBrackets? ((Step.index n).chars ++ cs) =
      some (Nat.toDigits 10 n, cs) := by
    intro n cs
    have hclose : ']' ∉ Nat.toDigits 10 n := by
      intro hmem
      cases Nat.isDigit_of_mem_toDigits (b := 10) (by decide) (by decide) hmem
    rw [Step.chars, List.cons_append, List.cons_append, List.append_assoc]
    exact PathGrammar.splitBrackets?_append hclose
  have hsame := hbrackets n cs
  rw [h, hbrackets m ds] at hsame
  obtain ⟨hdigits, hrest⟩ := Prod.mk.inj (Option.some.inj hsame)
  have hread := congrArg digits? hdigits
  rw [digits?_toDigits, digits?_toDigits] at hread
  exact ⟨(Option.some.inj hread).symm, hrest.symm⟩

/-- What follows a solid key does not go on like the key. -/
theorem eq_nil_of_charsAfter_eq {cs : List Char} (hdot : '.' ∉ cs)
    (hbracket : ∀ n, ¬ (Step.index n).chars <:+ cs) {steps steps' : List Step}
    (h : charsAfter steps = cs ++ charsAfter steps') : cs = [] := by
  -- Positions at the beginning of `cs` are taken off, so the last of them stands at its end.
  induction steps generalizing cs with
  | nil => exact (List.append_eq_nil_iff.mp h.symm).1
  | cons s rest ih =>
    cases s with
    | key name =>
      cases cs with
      | nil => rfl
      | cons c cs =>
        rw [charsAfter_key, List.cons_append] at h
        refine absurd ?_ hdot
        rw [← (List.cons.inj h).1]
        exact List.mem_cons_self
    | index n =>
      rw [charsAfter_index] at h
      rcases List.append_eq_append_iff.mp h with ⟨more, rfl, hmore⟩ | ⟨left, hindex, hleft⟩
      · have hnil : more = [] := by
          refine ih (fun hmem => hdot (List.mem_append_right _ hmem)) (fun m hm => ?_) hmore
          exact hbracket m (hm.trans (List.suffix_append _ _))
        exact absurd ⟨[], by simp [hnil]⟩ (hbracket n)
      · -- The key ends within the brackets, so the next step would have to begin there.
        cases left with
        | nil => exact absurd ⟨[], by simp [hindex]⟩ (hbracket n)
        | cons d left =>
          cases cs with
          | nil => rfl
          | cons c cs =>
            rw [List.cons_append] at hleft
            have hinside : d ∈ Nat.toDigits 10 n ++ [']'] := by
              rw [Step.chars, List.cons_append, List.cons_append] at hindex
              rw [(List.cons.inj hindex).2]
              simp
            exact absurd (head_of_charsAfter hleft) (not_startsStep_of_mem hinside)

/-- A solid key and what follows it can be told apart. -/
theorem solid_append_charsAfter_inj {key key' : String} (hkey : IsSolidKey key)
    (hkey' : IsSolidKey key') {steps steps' : List Step}
    (h : key.toList ++ charsAfter steps = key'.toList ++ charsAfter steps') :
    key = key' ∧ charsAfter steps = charsAfter steps' := by
  have hnone : ∀ {key key' : String} {more : List Char} {steps steps' : List Step},
      IsSolidKey key' → key'.toList = key.toList ++ more →
        charsAfter steps = more ++ charsAfter steps' → more = [] := by
    intro key key' more steps steps' hsolid hmore hafter
    refine eq_nil_of_charsAfter_eq (fun hdot => ?_) (fun n hn => ?_) hafter
    · apply hsolid.1
      rw [hmore]
      exact List.mem_append_right _ hdot
    · apply hsolid.2 n
      rw [hmore]
      exact hn.trans (List.suffix_append _ _)
  rcases List.append_eq_append_iff.mp h with ⟨more, hmore, hafter⟩ | ⟨more, hmore, hafter⟩
  · have hnil := hnone hkey' hmore hafter
    subst hnil
    rw [List.append_nil] at hmore
    exact ⟨String.toList_inj.mp hmore.symm, hafter⟩
  · have hnil := hnone hkey hmore hafter
    subst hnil
    rw [List.append_nil] at hmore
    exact ⟨String.toList_inj.mp hmore, hafter.symm⟩

/-- Steps after other ones can be read off their characters, where the keys are solid. -/
theorem eq_of_charsAfter_eq {steps steps' : List Step} (h : ∀ s ∈ steps, s.IsSolid)
    (h' : ∀ s ∈ steps', s.IsSolid) (hchars : charsAfter steps = charsAfter steps') :
    steps = steps' := by
  induction steps generalizing steps' with
  | nil =>
    cases steps' with
    | nil => rfl
    | cons s' rest' => cases s' <;> cases hchars
  | cons s rest ih =>
    cases steps' with
    | nil => cases s <;> cases hchars
    | cons s' rest' =>
      rw [List.forall_mem_cons] at h h'
      cases s with
      | key name =>
        cases s' with
        | key name' =>
          rw [charsAfter_key, charsAfter_key] at hchars
          obtain ⟨rfl, hrest⟩ := solid_append_charsAfter_inj h.1 h'.1 (List.cons.inj hchars).2
          rw [ih h.2 h'.2 hrest]
        | index n' => cases (List.cons.inj hchars).1
      | index n =>
        cases s' with
        | key name' => cases (List.cons.inj hchars).1
        | index n' =>
          rw [charsAfter_index, charsAfter_index] at hchars
          obtain ⟨rfl, hrest⟩ := index_chars_append_inj hchars
          rw [ih h.2 h'.2 hrest]

/-! ### Told positions -/

/-- Whether the first step is an empty key of which nothing is seen, since no key with its dot comes
next. -/
def HidesStart : List Step → Prop
  | [] => False
  | s :: rest => s = .key "" ∧ ∀ name, rest.head? ≠ some (.key name)

/-- Whether path text tells the steps from the root. -/
structure IsTold (steps : List Step) : Prop where
  solid : ∀ s ∈ steps, s.IsSolid
  shown : ¬ HidesStart steps

theorem not_hidesStart {steps : List Step} (h : ∀ name, steps.head? ≠ some (.key name)) :
    ¬ HidesStart steps := by
  cases steps with
  | nil => exact id
  | cons s rest =>
    rintro ⟨rfl, -⟩
    exact h "" rfl

theorem isTold_nil : IsTold [] :=
  ⟨List.forall_mem_nil _, id⟩

theorem isTold_key {name : String} (hsolid : IsSolidKey name) (hne : name ≠ "") :
    IsTold [.key name] := by
  refine ⟨List.forall_mem_singleton.mpr hsolid, ?_⟩
  rintro ⟨hempty, -⟩
  exact hne (Step.key.inj hempty)

/-- The first step is written without a dot. -/
theorem chars_required (s : Step) (rest : List Step) :
    chars ((s :: rest).map Segment.required) = s.chars ++ charsAfter rest := by
  simp [chars, charsAfter, Segment.chars, Segment.required]

/-- Unless a key comes first, it makes no difference that no step came before. -/
theorem chars_of_not_key {steps : List Step} (h : ∀ name, steps.head? ≠ some (.key name)) :
    chars (steps.map Segment.required) = charsAfter steps := by
  cases steps with
  | nil => rfl
  | cons s rest =>
    cases s with
    | key name => exact absurd rfl (h name)
    | index n => rw [chars_required, charsAfter_index]

/-- A key at the beginning is seen: no position that begins otherwise has the same text. -/
theorem chars_key_ne {name : String} {rest steps : List Step} (h : IsTold (.key name :: rest))
    (hsteps : ∀ s ∈ steps, s.IsSolid) (hfirst : ∀ name, steps.head? ≠ some (.key name)) :
    chars ((Step.key name :: rest).map Segment.required) ≠ chars (steps.map Segment.required) := by
  intro hchars
  obtain ⟨hname, hrest⟩ := List.forall_mem_cons.mp h.solid
  rw [chars_required, chars_of_not_key hfirst] at hchars
  obtain ⟨rfl, hafter⟩ := solid_append_charsAfter_inj hname isSolidKey_empty hchars
  rw [eq_of_charsAfter_eq hrest hsteps hafter] at h
  exact h.shown ⟨rfl, hfirst⟩

/-- Told positions with the same characters are the same. -/
theorem eq_of_chars_eq {steps steps' : List Step} (h : IsTold steps) (h' : IsTold steps')
    (hchars : chars (steps.map Segment.required) = chars (steps'.map Segment.required)) :
    steps = steps' := by
  have hcases : ∀ steps : List Step,
      (∃ name rest, steps = .key name :: rest) ∨ ∀ name, steps.head? ≠ some (.key name) := by
    intro steps
    cases steps with
    | nil => exact .inr nofun
    | cons s rest =>
      cases s with
      | key name => exact .inl ⟨name, rest, rfl⟩
      | index n => exact .inr nofun
  rcases hcases steps with ⟨name, rest, rfl⟩ | hfirst
  · rcases hcases steps' with ⟨name', rest', rfl⟩ | hfirst'
    · obtain ⟨hname, hrest⟩ := List.forall_mem_cons.mp h.solid
      obtain ⟨hname', hrest'⟩ := List.forall_mem_cons.mp h'.solid
      rw [chars_required, chars_required] at hchars
      obtain ⟨rfl, hafter⟩ := solid_append_charsAfter_inj hname hname' hchars
      rw [eq_of_charsAfter_eq hrest hrest' hafter]
    · exact absurd hchars (chars_key_ne h h'.solid hfirst')
  · rcases hcases steps' with ⟨name', rest', rfl⟩ | hfirst'
    · exact absurd hchars.symm (chars_key_ne h' h.solid hfirst)
    · rw [chars_of_not_key hfirst, chars_of_not_key hfirst'] at hchars
      exact eq_of_charsAfter_eq h.solid h'.solid hchars

/-- A key is written like a solid key and further steps: it is taken apart at its dots, and in front
of the positions in brackets that it ends in. -/
theorem exists_solid_charsAfter_key (cs : List Char) :
    ∃ name rest, (∀ s ∈ Step.key name :: rest, s.IsSolid) ∧
      charsAfter (.key name :: rest) = '.' :: cs := by
  by_cases hdot : '.' ∈ cs
  · obtain ⟨front, back, hcs⟩ := List.append_of_mem hdot
    have hfront : front.length < cs.length := by simp [hcs]
    have hback : back.length < cs.length := by
      rw [hcs, List.length_append, List.length_cons]
      omega
    obtain ⟨name, rest, hsolid, hchars⟩ := exists_solid_charsAfter_key front
    obtain ⟨name', rest', hsolid', hchars'⟩ := exists_solid_charsAfter_key back
    refine ⟨name, rest ++ .key name' :: rest', ?_, ?_⟩
    · rw [← List.cons_append, List.forall_mem_append]
      exact ⟨hsolid, hsolid'⟩
    · rw [← List.cons_append, charsAfter_append, hchars, hchars', hcs, List.cons_append]
  · by_cases hbracket : ∃ n, (Step.index n).chars <:+ cs
    · obtain ⟨n, front, hcs⟩ := hbracket
      have hfront : front.length < cs.length := by simp [← hcs, Step.chars]
      obtain ⟨name, rest, hsolid, hchars⟩ := exists_solid_charsAfter_key front
      refine ⟨name, rest ++ [.index n], ?_, ?_⟩
      · rw [← List.cons_append, List.forall_mem_append]
        exact ⟨hsolid, List.forall_mem_singleton.mpr trivial⟩
      · rw [← List.cons_append, charsAfter_append, hchars, charsAfter_index, ← hcs]
        simp [charsAfter]
    · refine ⟨String.ofList cs, [], List.forall_mem_singleton.mpr ?_, ?_⟩
      · rw [Step.IsSolid, IsSolidKey, String.toList_ofList]
        exact ⟨hdot, not_exists.mp hbracket⟩
      · rw [charsAfter_key, String.toList_ofList]
        simp [charsAfter]
termination_by cs.length

theorem exists_solid_charsAfter (steps : List Step) :
    ∃ solid : List Step, (∀ s ∈ solid, s.IsSolid) ∧ charsAfter solid = charsAfter steps := by
  induction steps with
  | nil => exact ⟨[], List.forall_mem_nil _, rfl⟩
  | cons s rest ih =>
    obtain ⟨later, hlater, hrest⟩ := ih
    cases s with
    | key name =>
      obtain ⟨name', more, hsolid, hchars⟩ := exists_solid_charsAfter_key name.toList
      refine ⟨(.key name' :: more) ++ later, ?_, ?_⟩
      · rw [List.forall_mem_append]
        exact ⟨hsolid, hlater⟩
      · rw [charsAfter_append, hchars, hrest, charsAfter_key, List.cons_append]
    | index n =>
      refine ⟨.index n :: later, List.forall_mem_cons.mpr ⟨trivial, hlater⟩, ?_⟩
      rw [charsAfter_index, charsAfter_index, hrest]

theorem exists_isTold (steps : List Step) :
    ∃ told : List Step, IsTold told ∧
      chars (told.map Segment.required) = chars (steps.map Segment.required) := by
  cases steps with
  | nil => exact ⟨[], isTold_nil, rfl⟩
  | cons s rest =>
    obtain ⟨later, hlater, hrest⟩ := exists_solid_charsAfter rest
    cases s with
    | key name =>
      obtain ⟨name', more, hsolid, hchars⟩ := exists_solid_charsAfter_key name.toList
      obtain ⟨hname, hmore⟩ := List.forall_mem_cons.mp hsolid
      have hafter : ∀ s ∈ more ++ later, s.IsSolid :=
        List.forall_mem_append.mpr ⟨hmore, hlater⟩
      have htext : name'.toList ++ charsAfter (more ++ later) =
          chars ((Step.key name :: rest).map Segment.required) := by
        rw [charsAfter_key] at hchars
        rw [chars_required, charsAfter_append, hrest, ← List.append_assoc,
          (List.cons.inj hchars).2]
        rfl
      by_cases hhidden : HidesStart (.key name' :: (more ++ later))
      · -- The empty key is left out.
        obtain ⟨hempty, hfirst⟩ := hhidden
        cases hempty
        exact ⟨more ++ later, ⟨hafter, not_hidesStart hfirst⟩,
          (chars_of_not_key hfirst).trans htext⟩
      · refine ⟨.key name' :: (more ++ later), ⟨?_, hhidden⟩, ?_⟩
        · exact List.forall_mem_cons.mpr ⟨hname, hafter⟩
        · rw [chars_required]
          exact htext
    | index n =>
      refine ⟨.index n :: later, ⟨?_, not_hidesStart nofun⟩, ?_⟩
      · exact List.forall_mem_cons.mpr ⟨trivial, hlater⟩
      · rw [chars_required, chars_required, hrest]

/-- Each position has the text of exactly one told position. So a position that is not told shares
its text with another one. -/
theorem existsUnique_isTold (steps : List Step) :
    ∃! told : List Step, IsTold told ∧
      chars (told.map Segment.required) = chars (steps.map Segment.required) := by
  obtain ⟨told, htold, hchars⟩ := exists_isTold steps
  exact ⟨told, ⟨htold, hchars⟩, fun told' h => eq_of_chars_eq h.1 htold (h.2.trans hchars.symm)⟩

end Path

/-! ### Reported failures -/

namespace Schema

variable {s s' : Schema} {v v' : Value} {f f' : Failure}

/-- The steps to a failure are all required, so the position says all that the trail says. -/
theorem trail_eq_of_error? (h : s.error? v = some f) :
    f.trail = f.position.map Segment.required := by
  obtain ⟨p, t, w, rest, hat, hhere, htrail⟩ := exists_at_of_error? h
  obtain ⟨trail, cause⟩ := f
  dsimp only at hhere htrail
  have hrequired : ∀ segment ∈ trail, segment.isOptional = false := by
    rw [htrail]
    intro segment hmem
    rcases List.mem_append.mp hmem with hmem | hmem
    · exact hat.required segment hmem
    · cases hhere with
      | own => cases hmem
      | missing => exact List.mem_singleton.mp hmem ▸ rfl
      | unexpected => exact List.mem_singleton.mp hmem ▸ rfl
  rw [Failure.position, List.map_map]
  refine (List.map_id _).symm.trans (List.map_congr_left fun segment hmem => ?_)
  rw [Function.comp_apply, Segment.required, ← hrequired segment hmem]
  rfl

theorem path_toList_of_error? (h : s.error? v = some f) :
    f.path.toList = Path.chars (f.position.map Segment.required) := by
  rw [Failure.path, Path.text, String.toList_ofList, ← trail_eq_of_error? h]

/-- At told positions a reported failure has the path of another one exactly when it has the same
position. It has no path exactly when it is about the root, and it is located at `(root)` exactly
when it is about the root or about a key of that name in the root. -/
theorem path_eq_iff_position_eq (h : s.error? v = some f) (h' : s'.error? v' = some f')
    (hf : Path.IsTold f.position) (hf' : Path.IsTold f'.position) :
    (f.path = f'.path ↔ f.position = f'.position) ∧
      (f.path = "" ↔ f.position = []) ∧
      (f.location = "(root)" ↔ f.position = [] ∨ f.position = [.key "(root)"]) := by
  have hchars := path_toList_of_error? h
  have htext : ∀ steps, Path.IsTold steps →
      (f.path.toList = Path.chars (steps.map Segment.required) ↔ f.position = steps) := by
    intro steps hsteps
    rw [hchars]
    constructor
    · exact Path.eq_of_chars_eq hf hsteps
    · rintro rfl
      rfl
  have hroot : f.path = "" ↔ f.position = [] := by
    rw [← htext [] Path.isTold_nil, ← String.toList_inj]
    rfl
  have hkey : f.path = "(root)" ↔ f.position = [.key "(root)"] := by
    have hsolid : IsSolidKey "(root)" := isSolidKey_of_notMem (by decide) (by decide)
    rw [← htext [.key "(root)"] (Path.isTold_key hsolid (by decide)), ← String.toList_inj]
    rfl
  refine ⟨?_, hroot, ?_⟩
  · rw [← htext f'.position hf', ← path_toList_of_error? h', String.toList_inj]
  · rw [Failure.location]
    split
    · rename_i hempty
      have hnil := hroot.mp (String.isEmpty_iff.mp hempty)
      simp [hnil]
    · rename_i hne
      have hbelow : f.position ≠ [] := by
        intro hnil
        exact hne (String.isEmpty_iff.mpr (hroot.mpr hnil))
      rw [hkey, or_iff_right hbelow]

/-- An empty key among others, and the position without it. -/
theorem path_eq_iff_position_eq_empty_key :
    ∃ f f', (objectOf [("a]", arrayOf (objectOf [("", objectOf [("b", string)])]))]).error?
          (.object [("a]", .array [.object [("", .object [("b", .null)])]])]) = some f ∧
        (objectOf [("a]", arrayOf (objectOf [("b", string)]))]).error?
          (.object [("a]", .array [.object [("b", .null)]])]) = some f' ∧
        Path.IsTold f.position ∧ Path.IsTold f'.position ∧
        (f.path = f'.path ↔ f.position = f'.position) ∧
        (f.path = "" ↔ f.position = []) ∧
        (f.location = "(root)" ↔ f.position = [] ∨ f.position = [.key "(root)"]) := by
  have hsolid : ∀ key ∈ ["a]", "", "b"], IsSolidKey key := by
    intro key hmem
    have hfree : '.' ∉ key.toList ∧ '[' ∉ key.toList := by
      revert key
      decide
    exact isSolidKey_of_notMem hfree.1 hfree.2
  have htold : Path.IsTold [.key "a]", .index 0, .key "", .key "b"] := by
    refine ⟨?_, fun h => absurd h.1 (by decide)⟩
    simp [Step.IsSolid, hsolid]
  have htold' : Path.IsTold [.key "a]", .index 0, .key "b"] := by
    refine ⟨?_, fun h => absurd h.1 (by decide)⟩
    simp [Step.IsSolid, hsolid]
  have h : (objectOf [("a]", arrayOf (objectOf [("", objectOf [("b", string)])]))]).error?
      (.object [("a]", .array [.object [("", .object [("b", .null)])]])]) =
        some ⟨[.required (.key "a]"), .required (.index 0), .required (.key ""),
          .required (.key "b")], .mismatch .string .null⟩ := by decide
  have h' : (objectOf [("a]", arrayOf (objectOf [("b", string)]))]).error?
      (.object [("a]", .array [.object [("b", .null)]])]) =
        some ⟨[.required (.key "a]"), .required (.index 0), .required (.key "b")],
          .mismatch .string .null⟩ := by decide
  exact ⟨_, _, h, h', htold, htold', path_eq_iff_position_eq h h' htold htold'⟩

end Schema
end DocShape
