import DocShape.Access.Place

/-!
What the marks of optional segments change.

A walk with marks goes through the same nodes as the walk without them. Marks neither find a node
that is not there otherwise nor lead past one: a mark on a null before the end makes no difference
of its own, as no segment leads on from null. What they change is how a walk ends. A break is a
quiet end at an optional segment, or behind an optional segment that reached null, and null at the
end is not found if the last segment is optional.

* `walk_of_unmarked_found`, `walk_of_unmarked_broken`: the walk with marks from the one without.
* `find?_iff_unmarked`: the nodes that are found.
* `resolve_unmarked`: both said of searches and strict walks, with the location of a failure.
-/

namespace DocShape

namespace Path

/-- The path with every segment made required. -/
def unmarked (p : Path) : Path :=
  p.map fun s => .required s.step

/-- Whether there is an optional segment at a position. -/
def IsOptionalAt (p : Path) (i : Nat) : Prop :=
  ∃ s ∈ p[i]?, s.isOptional

/-- Whether the last segment is optional. -/
def EndsOptional (p : Path) : Prop :=
  ∃ s ∈ p.getLast?, s.isOptional

/-- Whether the marks make a quiet end of a miss at the segment `i`: it is optional itself, or it
follows an optional one that reaches null. -/
def QuietAt (p : Path) (r : Value) (i : Nat) : Prop :=
  p.IsOptionalAt i ∨
    0 < i ∧ p.IsOptionalAt (i - 1) ∧ r.find? (p.unmarked.take i) = some .null

instance (p : Path) (i : Nat) : Decidable (p.IsOptionalAt i) :=
  inferInstanceAs (Decidable (∃ s ∈ p[i]?, s.isOptional))

instance (p : Path) : Decidable p.EndsOptional :=
  inferInstanceAs (Decidable (∃ s ∈ p.getLast?, s.isOptional))

instance (p : Path) (r : Value) (i : Nat) : Decidable (p.QuietAt r i) :=
  inferInstanceAs (Decidable (_ ∨ _))

theorem unmarked_cons (s : Segment) (rest : Path) :
    unmarked (s :: rest) = .required s.step :: unmarked rest := rfl

theorem isOptionalAt_cons_zero {s : Segment} {rest : Path} :
    IsOptionalAt (s :: rest) 0 ↔ s.isOptional := by
  simp [IsOptionalAt]

theorem isOptionalAt_cons_succ {s : Segment} {rest : Path} {i : Nat} :
    IsOptionalAt (s :: rest) (i + 1) ↔ IsOptionalAt rest i := by
  simp [IsOptionalAt]

theorem not_endsOptional_nil : ¬ EndsOptional [] := by
  simp [EndsOptional]

theorem endsOptional_singleton {s : Segment} : EndsOptional [s] ↔ s.isOptional := by
  simp [EndsOptional]

theorem endsOptional_cons_cons {s t : Segment} {rest : Path} :
    EndsOptional (s :: t :: rest) ↔ EndsOptional (t :: rest) := by
  simp [EndsOptional]

end Path

namespace Value

/-! ### Walks without marks -/

/-- No segment leads on from null. -/
theorem lookup?_null (s : Segment) : s.lookup? .null = none := by
  obtain ⟨step, marked⟩ := s
  cases step <;> rfl

theorem walk_unmarked_null (s : Segment) (rest : Path) :
    walk (Path.unmarked (s :: rest)) .null = .broken 0 :=
  walk_cons_of_none (lookup?_null _)

/-- Only an optional segment ends a walk quietly. -/
theorem walk_unmarked_ne_skipped (p : Path) (v : Value) : walk p.unmarked v ≠ .skipped := by
  induction p generalizing v with
  | nil => exact nofun
  | cons s rest ih =>
    rw [Path.unmarked_cons]
    cases h : s.step.lookup? v with
    | none =>
      rw [walk_required_of_none h]
      exact nofun
    | some next =>
      rw [walk_required_of_some h]
      exact fun hlater => ih next (later_eq_skipped_iff.mp hlater)

/-! ### Walks with marks -/

/-- A walk that finds a node without marks finds it with them, unless it is a null that the last
segment takes for nothing. -/
theorem walk_of_unmarked_found {p : Path} {v w : Value} (h : walk p.unmarked v = .found w) :
    walk p v = if p.EndsOptional ∧ w = .null then .skipped else .found w := by
  induction p generalizing v with
  | nil =>
    cases h
    exact (if_neg fun hend => Path.not_endsOptional_nil hend.1).symm
  | cons s rest ih =>
    rw [Path.unmarked_cons] at h
    cases hs : s.step.lookup? v with
    | none =>
      rw [walk_required_of_none hs] at h
      cases h
    | some next =>
      rw [walk_required_of_some hs, later_eq_found_iff] at h
      cases rest with
      | nil =>
        cases h
        simp only [Path.endsOptional_singleton]
        split
        · rename_i hstop
          exact walk_cons_of_null hs hstop
        · rename_i hpass
          exact walk_cons_of_some hs hpass
      | cons t rest =>
        -- The mark of a segment before the end has nothing to do, as the walk got past its node.
        have hnext : next ≠ .null := by
          rintro rfl
          rw [walk_unmarked_null] at h
          cases h
        rw [walk_cons_of_some hs fun hstop => hnext hstop.2, ih h]
        simp only [Path.endsOptional_cons_cons]
        split <;> rfl

/-- Behind a segment that is passed, the marks of the other ones decide. -/
theorem quietAt_cons_succ {s : Segment} {rest : Path} {v next : Value} {i : Nat}
    (hs : s.lookup? v = some next) (hpass : ¬ (s.isOptional ∧ next = .null)) :
    Path.QuietAt (s :: rest) v (i + 1) ↔ Path.QuietAt rest next i := by
  have hfind : v.find? ((Path.unmarked (s :: rest)).take (i + 1)) =
      next.find? ((Path.unmarked rest).take i) :=
    find?_required_of_some hs
  rw [Path.QuietAt, Path.QuietAt, hfind, Path.isOptionalAt_cons_succ, Nat.add_sub_cancel]
  cases i with
  | zero =>
    rw [Path.isOptionalAt_cons_zero]
    simp [find?, walk, hpass]
  | succ i =>
    rw [Path.isOptionalAt_cons_succ, Nat.add_sub_cancel]
    simp

/-- A walk that breaks without marks breaks at the same segment with them, unless they make the miss
a quiet end. -/
theorem walk_of_unmarked_broken {p : Path} {v : Value} {i : Nat}
    (h : walk p.unmarked v = .broken i) :
    walk p v = if p.QuietAt v i then .skipped else .broken i := by
  induction p generalizing v i with
  | nil => cases h
  | cons s rest ih =>
    rw [Path.unmarked_cons] at h
    cases hs : s.step.lookup? v with
    | none =>
      rw [walk_required_of_none hs] at h
      cases h
      rw [walk_cons_of_none hs]
      simp [Path.QuietAt, Path.isOptionalAt_cons_zero]
    | some next =>
      rw [walk_required_of_some hs] at h
      obtain ⟨j, hj, rfl⟩ := later_eq_broken_iff.mp h
      rw [Nat.add_comm]
      by_cases hstop : s.isOptional ∧ next = .null
      · -- The next segment misses, as it does on every null.
        have hquiet : Path.QuietAt (s :: rest) v (j + 1) := by
          obtain ⟨hmark, rfl⟩ := hstop
          cases rest with
          | nil => cases hj
          | cons t rest =>
            rw [walk_unmarked_null] at hj
            cases hj
            exact .inr ⟨Nat.one_pos, Path.isOptionalAt_cons_zero.mpr hmark,
              find?_required_of_some hs⟩
        rw [walk_cons_of_null hs hstop, if_pos hquiet]
      · rw [walk_cons_of_some hs hstop, ih hj]
        simp only [quietAt_cons_succ hs hstop]
        split
        · rfl
        · rw [Walk.later, Nat.add_comm]

theorem find?_iff_unmarked {p : Path} {r v : Value} :
    r.find? p = some v ↔ r.find? p.unmarked = some v ∧ ¬ (p.EndsOptional ∧ v = .null) := by
  simp only [find?_eq_some_iff]
  cases h : walk p.unmarked r with
  | found w =>
    rw [walk_of_unmarked_found h]
    by_cases hend : p.EndsOptional ∧ w = .null
    · rw [if_pos hend]
      constructor
      · exact nofun
      · rintro ⟨hfound, hpass⟩
        cases hfound
        exact absurd hend hpass
    · rw [if_neg hend]
      constructor
      · intro hfound
        cases hfound
        exact ⟨rfl, hend⟩
      · exact And.left
  | broken i =>
    rw [walk_of_unmarked_broken h]
    split <;> simp
  | skipped => exact absurd h (walk_unmarked_ne_skipped p r)

/-- A walk breaks at no path of optional segments only. -/
theorem walk_ne_broken {p : Path} (h : ∀ s ∈ p, s.isOptional) (r : Value) (i : Nat) :
    walk p r ≠ .broken i := by
  cases hwalk : walk p.unmarked r with
  | found w =>
    rw [walk_of_unmarked_found hwalk]
    split <;> exact nofun
  | broken j =>
    have hlt : j < p.length := by
      have := walk_broken_lt hwalk
      rwa [Path.unmarked, List.length_map] at this
    have hquiet : p.QuietAt r j :=
      .inl ⟨p[j], List.getElem?_eq_getElem hlt, h _ (List.getElem_mem hlt)⟩
    rw [walk_of_unmarked_broken hwalk, if_pos hquiet]
    exact nofun
  | skipped => exact absurd hwalk (walk_unmarked_ne_skipped p r)

end Value

namespace PathArgument

/-- With marks, what is found is what is found without them, but a null at an optional end; a miss
at the segment `i` ends the walk quietly or is reported there, as the marks say; and nothing is ever
reported missing along optional segments only. -/
theorem resolve_unmarked (p : Path) (r : Value) :
    (∀ v, find? (.ok p) r = some v ↔
      find? (.ok p.unmarked) r = some v ∧ ¬ (p.EndsOptional ∧ v = .null)) ∧
    (∀ i, Value.walk p.unmarked r = .broken i →
      resolve (.ok p) r =
        if p.QuietAt r i then .ok none else .error (.absent (p.textOfFirst (i + 1)))) ∧
    ((∀ s ∈ p, s.isOptional) → ∀ location, resolve (.ok p) r ≠ .error (.absent location)) := by
  refine ⟨fun v => Value.find?_iff_unmarked, fun i hbroken => ?_, fun hall location hresolve => ?_⟩
  · simp only [resolve, Value.resolve, Value.walk_of_unmarked_broken hbroken]
    by_cases hquiet : p.QuietAt r i
    · simp only [if_pos hquiet]
    · simp only [if_neg hquiet]
      rfl
  · simp only [resolve, Value.resolve] at hresolve
    cases hwalk : Value.walk p r with
    | broken i => exact Value.walk_ne_broken hall r i hwalk
    | found w =>
      rw [hwalk] at hresolve
      cases hresolve
    | skipped =>
      rw [hwalk] at hresolve
      cases hresolve

/-- In `{"pets": [null]}` the path `pets[0]?` finds nothing and `pets[0]?.name` ends quietly behind
the null; `pets[1].name?` fails at the element, and `cats?.name?` does not fail. -/
theorem resolve_unmarked_null_element :
    find? (.ok [⟨.key "pets", false⟩, ⟨.index 0, true⟩])
      (.object [("pets", .array [.null])]) ≠ some .null ∧
    resolve (.ok [⟨.key "pets", false⟩, ⟨.index 0, true⟩, ⟨.key "name", false⟩])
      (.object [("pets", .array [.null])]) = .ok none ∧
    resolve (.ok [⟨.key "pets", false⟩, ⟨.index 1, false⟩, ⟨.key "name", true⟩])
      (.object [("pets", .array [.null])]) = .error (.absent "pets[1]") ∧
    resolve (.ok [⟨.key "cats", true⟩, ⟨.key "name", true⟩])
      (.object [("pets", .array [.null])]) ≠ .error (.absent "cats?") := by
  refine ⟨?_, ?_, ?_, ?_⟩
  · intro hfind
    exact (((resolve_unmarked _ _).1 _).mp hfind).2 (by decide)
  · rw [(resolve_unmarked _ _).2.1 2 (by decide), if_pos (by decide)]
  · rw [(resolve_unmarked _ _).2.1 1 (by decide), if_neg (by decide)]
    rfl
  · exact (resolve_unmarked _ _).2.2 (by decide) _

end PathArgument
end DocShape
