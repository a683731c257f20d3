import DocShape.Path

/-!
Walking paths from a root. An optional segment that finds nothing, or null, ends the walk quietly;
a required one that finds nothing breaks it.

Main statements: `walk_append`, `find?_append` and `resolve_append`, a path in two parts is walked
part by part, and `resolve_eq_ok_some_iff`, the strict and the lenient walk find the same nodes.
-/

namespace DocShape

/-- How a walk ends. -/
inductive Walk where
  | found (v : Value)
  /-- An optional segment found nothing. -/
  | skipped
  /-- The required segment at a position found nothing. -/
  | broken (position : Nat)
deriving DecidableEq

/-- The end of a walk that begins `n` segments later. -/
def Walk.later (n : Nat) : Walk → Walk
  | .broken position => .broken (n + position)
  | w => w

namespace Value

/-- The end of the walk along a path. -/
def walk : Path → Value → Walk
  | [], v => .found v
  | s :: rest, v =>
    match s.lookup? v with
    | none => if s.isOptional then .skipped else .broken 0
    | some next => if s.isOptional && next.isNull then .skipped else (walk rest next).later 1

/-- The node at a path, if the walk finds it. -/
def find? (v : Value) (p : Path) : Option Value :=
  match walk p v with
  | .found w => some w
  | _ => none

/-- The node at a path, or nothing where an optional segment ended the walk. The error of a broken
walk is the path up to the segment that found nothing. -/
def resolve (v : Value) (p : Path) : Except Path (Option Value) :=
  match walk p v with
  | .found w => .ok (some w)
  | .skipped => .ok none
  | .broken position => .error (p.take (position + 1))

/-! ### Single segments -/

theorem walk_cons_of_none {s : Segment} {rest : Path} {v : Value} (h : s.lookup? v = none) :
    walk (s :: rest) v = if s.isOptional then .skipped else .broken 0 := by
  rw [walk, h]

theorem walk_cons_of_null {s : Segment} {rest : Path} {v next : Value}
    (h : s.lookup? v = some next) (hstop : s.isOptional ∧ next = .null) :
    walk (s :: rest) v = .skipped := by
  rw [walk, h]
  exact if_pos (Bool.and_eq_true_iff.mpr ⟨hstop.1, isNull_iff.mpr hstop.2⟩)

theorem walk_cons_of_some {s : Segment} {rest : Path} {v next : Value}
    (h : s.lookup? v = some next) (hpass : ¬ (s.isOptional ∧ next = .null)) :
    walk (s :: rest) v = (walk rest next).later 1 := by
  rw [walk, h]
  rw [← isNull_iff, ← Bool.and_eq_true_iff] at hpass
  exact if_neg hpass

theorem walk_required_of_none {step : Step} {rest : Path} {v : Value} (h : step.lookup? v = none) :
    walk (.required step :: rest) v = .broken 0 :=
  walk_cons_of_none h

theorem walk_required_of_some {step : Step} {rest : Path} {v next : Value}
    (h : step.lookup? v = some next) :
    walk (.required step :: rest) v = (walk rest next).later 1 :=
  walk_cons_of_some h nofun

theorem find?_required_of_some {step : Step} {rest : Path} {v next : Value}
    (h : step.lookup? v = some next) : v.find? (.required step :: rest) = next.find? rest := by
  unfold find?
  rw [walk_required_of_some h]
  cases walk rest next <;> rfl

/-! ### Paths in parts -/

theorem later_later (m n : Nat) (w : Walk) : (w.later m).later n = w.later (m + n) := by
  cases w <;> simp [Walk.later, Nat.add_left_comm, Nat.add_comm]

theorem later_eq_broken_iff {n i : Nat} {w : Walk} :
    w.later n = .broken i ↔ ∃ j, w = .broken j ∧ i = n + j := by
  cases w <;> simp [Walk.later, eq_comm]

theorem later_eq_found_iff {n : Nat} {w : Walk} {v : Value} :
    w.later n = .found v ↔ w = .found v := by
  cases w <;> simp [Walk.later]

theorem later_eq_skipped_iff {n : Nat} {w : Walk} : w.later n = .skipped ↔ w = .skipped := by
  cases w <;> simp [Walk.later]

/-- A walk breaks at one of the segments. -/
theorem walk_broken_lt {p : Path} {v : Value} {i : Nat} (h : walk p v = .broken i) :
    i < p.length := by
  induction p generalizing v i with
  | nil => cases h
  | cons s rest ih =>
    rw [walk] at h
    rw [List.length_cons]
    split at h
    · split at h <;> cases h
      exact Nat.succ_pos _
    · split at h
      · cases h
      · obtain ⟨j, hj, rfl⟩ := later_eq_broken_iff.mp h
        rw [Nat.add_comm]
        exact Nat.succ_lt_succ (ih hj)

theorem walk_append (p q : Path) (v : Value) :
    walk (p ++ q) v =
      match walk p v with
      | .found w => (walk q w).later p.length
      | w => w := by
  induction p generalizing v with
  | nil =>
    simp only [List.nil_append, walk, List.length_nil]
    cases walk q v <;> simp [Walk.later]
  | cons s rest ih =>
    simp only [List.cons_append, walk]
    cases s.lookup? v with
    | none => cases s.isOptional <;> rfl
    | some next =>
      simp only [ih]
      cases s.isOptional && next.isNull with
      | true => rfl
      | false =>
        simp only [Bool.false_eq_true, if_false]
        cases walk rest next with
        | found w =>
          exact later_later _ _ _
        | skipped => rfl
        | broken n => rfl

theorem find?_eq_some_iff {v w : Value} {p : Path} : v.find? p = some w ↔ walk p v = .found w := by
  unfold find?
  cases walk p v <;> simp

/-- What is found along both parts is what is found along the second one, from the node at the end
of the first. -/
theorem find?_append (p q : Path) (v : Value) :
    v.find? (p ++ q) = (v.find? p).bind (·.find? q) := by
  unfold find?
  rw [walk_append]
  cases walk p v with
  | found u => cases h : walk q u <;> simp [Walk.later, h]
  | skipped => rfl
  | broken i => rfl

/-- A walk that does not get through the first part ends there; one that does goes on from the node
that is found, and a failure then is behind the first part. -/
theorem resolve_append (p q : Path) (v : Value) :
    v.resolve (p ++ q) =
      match v.resolve p with
      | .ok (some u) => (u.resolve q).mapError (p ++ ·)
      | stopped => stopped := by
  unfold resolve
  rw [walk_append]
  cases h : walk p v with
  | found u =>
    dsimp only
    cases walk q u with
    | found w => rfl
    | skipped => rfl
    | broken i =>
      have htake : (p ++ q).take (p.length + i + 1) = p ++ q.take (i + 1) := by
        rw [Nat.add_assoc, List.take_length_add_append]
      exact congrArg Except.error htake
  | skipped => rfl
  | broken i =>
    have hlt := walk_broken_lt h
    simp only [List.take_append_of_le_length (Nat.succ_le_of_lt hlt)]

/-- The error is the path up to one of its segments. -/
theorem exists_take_of_resolve_error {v : Value} {p missing : Path}
    (h : v.resolve p = .error missing) : ∃ i, missing = p.take (i + 1) := by
  unfold resolve at h
  cases hwalk : walk p v with
  | broken i =>
    rw [hwalk] at h
    exact ⟨i, (Except.error.inj h).symm⟩
  | found w =>
    rw [hwalk] at h
    cases h
  | skipped =>
    rw [hwalk] at h
    cases h

theorem resolve_eq_ok_some_iff {v w : Value} {p : Path} :
    v.resolve p = .ok (some w) ↔ v.find? p = some w := by
  unfold resolve find?
  cases walk p v <;> simp

end Value
end DocShape
