import DocShape.Proofs.Conversion
import DocShape.Schema.Check
import DocShape.Schema.Modifier
import Mathlib.Data.List.Forall2

/-!
The exhaustive walk: all failures of a document against a schema, without stopping at the first.

`Schema.failures` lists the failures of a node in the order in which a reader of the schema would
come upon them. Each failure is placed relative to the node; `Failure.under` places it below a
trail.

* `firstFailure_matchLiteral`, `firstFailure_check`: a check that is entered at a trail fails with
  the first failure of the walk, placed below the trail.
* `error?_eq_head?_failures`: the reported error is the first failure of the walk, and a document
  is valid exactly when the walk finds none.
* `valid_iff_failures_eq_nil` and the lemmas after it say what validity is at each kind of node.
-/

namespace DocShape

namespace Failure

/-- A failure of the node itself. -/
def here (cause : Cause) : Failure := ⟨[], cause⟩

/-- A failure placed below a trail. -/
def under (trail : Path) (f : Failure) : Failure := ⟨trail ++ f.trail, f.cause⟩

/-- A failure of the node at a key. -/
def atKey (key : String) : Failure → Failure := under (Path.atKey [] key)

/-- A failure of the node at a position. -/
def atIndex (position : Nat) : Failure → Failure := under (Path.atIndex [] position)

theorem under_here (trail : Path) (cause : Cause) : (here cause).under trail = ⟨trail, cause⟩ := by
  simp [here, under]

theorem under_atKey (trail : Path) (key : String) (f : Failure) :
    (f.atKey key).under trail = f.under (trail.atKey key) := by
  simp [atKey, under, Path.atKey]

theorem under_atIndex (trail : Path) (position : Nat) (f : Failure) :
    (f.atIndex position).under trail = f.under (trail.atIndex position) := by
  simp [atIndex, under, Path.atIndex]

@[simp] theorem under_nil (f : Failure) : f.under [] = f := rfl

end Failure

/-! ### The walk -/

/-- Every key that is not declared, in the order of the document. -/
def undeclaredFailures (declared keys : List String) : List Failure :=
  (keys.filter fun k => !declared.contains k).map fun k => .atKey k (.here (.unexpected k))

mutual
/-- Every mismatch between a sample and a document. -/
def Value.mismatches : (sample : Value) → Value → List Failure
  | .object want, .object fields =>
    fieldMismatches want fields ++ undeclaredFailures (Entries.keys want) (Entries.keys fields)
  | .array want, .array items =>
    if want.length = items.length then itemMismatches want 0 items
    else [.here (.lengths want.length items.length)]
  | sample, v =>
    if sample.tag.isContainer || v.tag.isContainer then [.here (.mismatch sample.tag v.tag)]
    else if sample.same v then []
    else [.here (.different sample v)]
termination_by structural sample => sample

/-- The mismatches at the keys of the sample, in their order. -/
def fieldMismatches : (want fields : List (String × Value)) → List Failure
  | [], _ => []
  | (k, sample) :: rest, fields =>
    (match fields.lookup k with
      | some v => (sample.mismatches v).map (.atKey k)
      | none => [.atKey k (.here (.missing k))]) ++ fieldMismatches rest fields
termination_by structural want => want

/-- The mismatches position by position, from position `i` on. -/
def itemMismatches : (want : List Value) → (i : Nat) → (items : List Value) → List Failure
  | sample :: rest, i, v :: items =>
    (sample.mismatches v).map (.atIndex i) ++ itemMismatches rest (i + 1) items
  | _, _, _ => []
termination_by structural want => want
end

namespace Rules

/-- The node that is checked on where a tag is expected: the node after a conversion, where the
rules ask for one or an integer stands for a float, else the node itself. -/
def prepared (r : Rules) (t : Tag) (v : Value) : Value :=
  if r.coerces ∨ t = .float ∧ v.tag = .integer then ((coerce v t).map (·.on v)).getD v else v

/-- A type failure alone where the node that is checked on has another tag than the expected one,
else the failures of that node. -/
def failuresOnceAdmitted (r : Rules) (expected : Option Tag) (v : Value)
    (rest : Value → List Failure) : List Failure :=
  match expected with
  | none => rest v
  | some t =>
    if (r.prepared t v).tag = t then rest (r.prepared t v)
    else [.here (.mismatch t v.tag)]

/-- The failure of a bound. -/
def boundFailures (side : Side) (bound : Option Bound) (v : Value) : List Failure :=
  match bound, v.measure? with
  | some b, some x => if b.admits side x then [] else [.here (.outOfBound side b x)]
  | _, _ => []

/-- The failures of a node that is not allowed, too small or too large, in this order. -/
def failures (r : Rules) (v : Value) : List Failure :=
  (match r.allowed with
    | some allowed =>
      if allowed.any (·.same v) then [] else [.here (.unlisted allowed v)]
    | none => []) ++ boundFailures .min r.min v ++ boundFailures .max r.max v

end Rules

/-- The failure of a string that does not match the pattern of its kind. -/
def LeafKind.patternFailures (kind : LeafKind) (v : Value) : List Failure :=
  match kind, v with
  | .string (some p), .string s => if p.matchesText s then [] else [.here (.unmatched p s)]
  | _, _ => []

namespace Schema

mutual
/-- Every failure of a document, in the order of the walk: a null that is accepted has none; else
the type comes first, then the allowed values, the bounds and the pattern, then the children. -/
def failures : Schema → Value → List Failure
  | .leaf kind r, v =>
    if v.isNull && r.acceptsNull then []
    else
      match kind with
      | .literal sample => sample.mismatches v
      | kind =>
        r.failuresOnceAdmitted kind.tag? v fun w => r.failures w ++ kind.patternFailures w
  | .array element r, v =>
    if v.isNull && r.acceptsNull then []
    else
      r.failuresOnceAdmitted (some .sequence) v fun w => r.failures w ++
        match w with
        | .array items => items.zipIdx.flatMap fun e => (element.failures e.1).map (.atIndex e.2)
        | _ => []
  | .object shape isOpen r, v =>
    if v.isNull && r.acceptsNull then []
    else
      r.failuresOnceAdmitted (some .mapping) v fun w => r.failures w ++
        match w with
        | .object fields =>
          fieldFailures shape fields ++
            if isOpen then [] else undeclaredFailures (Entries.keys shape) (Entries.keys fields)
        | _ => []
termination_by structural s => s

/-- The failures at the declared fields, in the order of their declaration. -/
def fieldFailures : (shape : List (String × Schema)) → (fields : List (String × Value)) →
    List Failure
  | [], _ => []
  | (k, s) :: rest, fields =>
    (match fields.lookup k with
      | some v => (s.failures v).map (.atKey k)
      | none => if s.isOptional then [] else [.atKey k (.here (.missing k))]) ++
      fieldFailures rest fields
termination_by structural shape => shape
end

end Schema

/-! ### First failures -/

/-- The failure of a check that fails. -/
def firstFailure {α : Type} : Except Failure α → Option Failure
  | .ok _ => none
  | .error f => some f

section FirstFailures

variable {α β : Type}

@[simp] theorem firstFailure_ok (a : α) : firstFailure (.ok a) = none := rfl

@[simp] theorem firstFailure_error (f : Failure) :
    firstFailure (.error f : Except Failure α) = some f := rfl

@[simp] theorem firstFailure_pure (a : α) :
    firstFailure (pure a : Except Failure α) = none := rfl

@[simp] theorem firstFailure_map (f : α → β) (x : Except Failure α) :
    firstFailure (x.map f) = firstFailure x := by
  cases x <;> rfl

/-- Of two checks, one after the other, the first one that fails counts. -/
theorem firstFailure_bind {x : Except Failure α} {g : α → Except Failure β} {o : Option Failure}
    (h : ∀ a, x = .ok a → firstFailure (g a) = o) :
    firstFailure (x >>= g) = (firstFailure x).or o := by
  cases x with
  | ok a => exact h a rfl
  | error f => rfl

/-- The first of some failures, placed below a trail. -/
def firstUnder (trail : Path) (fs : List Failure) : Option Failure :=
  fs.head?.map (Failure.under trail)

@[simp] theorem firstUnder_nil (trail : Path) : firstUnder trail [] = none := rfl

@[simp] theorem firstUnder_here (trail : Path) (cause : Cause) :
    firstUnder trail [.here cause] = some ⟨trail, cause⟩ := by
  simp [firstUnder, Failure.under_here]

@[simp] theorem firstUnder_atKey_here (trail : Path) (key : String) (cause : Cause) :
    firstUnder trail [(Failure.here cause).atKey key] = some ⟨trail.atKey key, cause⟩ := by
  simp [firstUnder, Failure.under_atKey, Failure.under_here]

@[simp] theorem firstUnder_root (fs : List Failure) : firstUnder [] fs = fs.head? := by
  cases fs <;> rfl

theorem firstUnder_append (trail : Path) (xs ys : List Failure) :
    firstUnder trail (xs ++ ys) = (firstUnder trail xs).or (firstUnder trail ys) := by
  cases xs <;> simp [firstUnder]

theorem firstUnder_map_atKey (trail : Path) (key : String) (fs : List Failure) :
    firstUnder trail (fs.map (Failure.atKey key)) = firstUnder (trail.atKey key) fs := by
  cases fs <;> simp [firstUnder, Failure.under_atKey]

theorem firstUnder_map_atIndex (trail : Path) (position : Nat) (fs : List Failure) :
    firstUnder trail (fs.map (Failure.atIndex position)) =
      firstUnder (trail.atIndex position) fs := by
  cases fs <;> simp [firstUnder, Failure.under_atIndex]

end FirstFailures

theorem firstFailure_refuseUndeclared (trail : Path) (declared keys : List String) :
    firstFailure (refuseUndeclared trail declared keys) =
      firstUnder trail (undeclaredFailures declared keys) := by
  unfold refuseUndeclared undeclaredFailures firstUnder
  rw [List.head?_map, List.head?_filter]
  cases keys.find? fun k => !declared.contains k with
  | none => rfl
  | some k => simp [Failure.under_atKey, Failure.under_here]

/-! ### Samples -/

theorem mismatches_of_scalar {sample : Value} (hs : sample.tag.isContainer = false) (v : Value) :
    sample.mismatches v =
      if v.tag.isContainer then [.here (.mismatch sample.tag v.tag)]
      else if sample.same v then []
      else [.here (.different sample v)] := by
  cases sample with
  | array items => cases hs
  | object fields => cases hs
  | _ => simp only [Value.mismatches, hs, Bool.false_or]

theorem firstFailure_matchScalar {sample : Value} (hs : sample.tag.isContainer = false)
    (trail : Path) (v : Value) :
    firstFailure (matchScalar sample trail v) = firstUnder trail (sample.mismatches v) := by
  rw [mismatches_of_scalar hs]
  unfold matchScalar
  split
  · simp
  · split <;> simp

mutual
/-- A sample that is matched at a trail fails with the first mismatch, placed below the trail. -/
theorem firstFailure_matchLiteral : ∀ (sample : Value) (trail : Path) (v : Value),
    firstFailure (matchLiteral sample trail v) = firstUnder trail (sample.mismatches v)
  | .null, trail, v => firstFailure_matchScalar rfl trail v
  | .bool _, trail, v => firstFailure_matchScalar rfl trail v
  | .number (.integer _), trail, v => firstFailure_matchScalar rfl trail v
  | .number (.large _), trail, v => firstFailure_matchScalar rfl trail v
  | .number (.float _), trail, v => firstFailure_matchScalar rfl trail v
  | .string _, trail, v => firstFailure_matchScalar rfl trail v
  | .array want, trail, v => by
    cases v with
    | array items =>
      simp only [matchLiteral, Value.mismatches]
      split
      · exact firstFailure_matchItems want trail 0 items
      · simp
    | _ => simp [matchLiteral, Value.mismatches, Value.tag, Tag.isContainer]
  | .object want, trail, v => by
    cases v with
    | object fields =>
      simp only [matchLiteral, Value.mismatches]
      rw [firstUnder_append, ← firstFailure_matchFields want trail fields]
      exact firstFailure_bind fun _ _ => firstFailure_refuseUndeclared trail _ _
    | _ => simp [matchLiteral, Value.mismatches, Value.tag, Tag.isContainer]

theorem firstFailure_matchFields : ∀ (want : List (String × Value)) (trail : Path)
    (fields : List (String × Value)),
    firstFailure (matchFields want trail fields) =
      firstUnder trail (fieldMismatches want fields)
  | [], trail, fields => rfl
  | (k, sample) :: rest, trail, fields => by
    simp only [matchFields, fieldMismatches]
    rw [firstUnder_append]
    have hrest := firstFailure_matchFields rest trail fields
    cases fields.lookup k with
    | none =>
      rw [firstUnder_atKey_here]
      rfl
    | some v =>
      dsimp only
      rw [firstUnder_map_atKey, ← firstFailure_matchLiteral sample (trail.atKey k) v, ← hrest]
      exact firstFailure_bind fun _ _ => rfl

theorem firstFailure_matchItems : ∀ (want : List Value) (trail : Path) (i : Nat)
    (items : List Value),
    firstFailure (matchItems want trail i items) =
      firstUnder trail (itemMismatches want i items)
  | [], trail, i, items => rfl
  | _ :: _, trail, i, [] => rfl
  | sample :: rest, trail, i, v :: items => by
    simp only [matchItems, itemMismatches]
    rw [firstUnder_append, firstUnder_map_atIndex,
      ← firstFailure_matchLiteral sample (trail.atIndex i) v,
      ← firstFailure_matchItems rest trail (i + 1) items]
    exact firstFailure_bind fun _ _ => rfl
end

/-! ### Schemas -/

namespace Rules

theorem prepared_eq_self {r : Rules} {t : Tag} {v : Value} (h : v.tag = t) :
    r.prepared t v = v := by
  unfold prepared
  split
  · rw [coerce_eq_kept_iff.mpr h]
    rfl
  · rfl

/-- Admission either goes on with the prepared node, whose tag fits, or fails because the tag of
the prepared node does not fit. -/
theorem admit_cases (r : Rules) (trail : Path) (t : Tag) (v : Value) :
    (∃ o, r.admit trail (some t) v = .ok o ∧ o.on v = r.prepared t v ∧
        (r.prepared t v).tag = t) ∨
      r.admit trail (some t) v = .error ⟨trail, .mismatch t v.tag⟩ ∧
        (r.prepared t v).tag ≠ t := by
  by_cases ht : v.tag = t
  · left
    exact ⟨.kept, by simp [ht, Rules.admit], by simp [prepared_eq_self ht],
      by rw [prepared_eq_self ht, ht]⟩
  · by_cases hc : r.coerces ∨ t = .float ∧ v.tag = .integer
    · cases hw : coerce v t with
      | some o =>
        have hp : r.prepared t v = o.on v := by simp [prepared, hc, hw]
        left
        exact ⟨o, by simp [ht, hc, hw, Rules.admit], hp.symm, by rw [hp, tag_of_coerce hw]⟩
      | none =>
        right
        exact ⟨by simp [ht, hc, hw, Rules.admit], by simpa [prepared, hc, hw] using ht⟩
    · right
      exact ⟨by simp [ht, hc, Rules.admit], by simpa [prepared, hc] using ht⟩

/-- Nothing is prepared to be a container that is none already. -/
theorem prepared_container {r : Rules} {t : Tag} (ht : t.isContainer) (v : Value) :
    r.prepared t v = v := by
  unfold prepared
  split
  · cases hw : coerce v t with
    | none => rfl
    | some o =>
      have hv := tag_eq_of_coerce_container ht hw
      rw [coerce_eq_kept_iff.mpr hv] at hw
      cases hw
      rfl
  · rfl

/-- A node keeps the rules if it is one of the allowed ones, where there is a list, and within both
bounds. -/
theorem failures_eq_nil_iff {r : Rules} {v : Value} :
    r.failures v = [] ↔ (∀ allowed, r.allowed = some allowed → ∃ x ∈ allowed, x.same v) ∧
      boundFailures .min r.min v = [] ∧ boundFailures .max r.max v = [] := by
  rw [failures, List.append_eq_nil_iff, List.append_eq_nil_iff, and_assoc]
  refine and_congr_left fun _ => ?_
  cases r.allowed <;> simp

theorem firstFailure_checkBound (trail : Path) (side : Side) (b : Option Bound) (v : Value) :
    firstFailure (checkBound trail side b v) = firstUnder trail (boundFailures side b v) := by
  unfold checkBound boundFailures
  cases b with
  | none => rfl
  | some b =>
    cases v.measure? with
    | none => rfl
    | some x =>
      dsimp only
      split <;> simp

theorem firstFailure_restrict (r : Rules) (trail : Path) (v : Value) :
    firstFailure (r.restrict trail v) = firstUnder trail (r.failures v) := by
  have hallowed : firstFailure (r.checkAllowed trail v) = firstUnder trail
      (match r.allowed with
        | some allowed => if allowed.any (·.same v) then [] else [.here (.unlisted allowed v)]
        | none => []) := by
    unfold checkAllowed
    cases r.allowed with
    | none => rfl
    | some allowed =>
      dsimp only
      split <;> simp
  unfold restrict failures
  rw [firstUnder_append, firstUnder_append, ← hallowed, ← firstFailure_checkBound,
    ← firstFailure_checkBound, Option.or_assoc]
  refine firstFailure_bind fun _ _ => ?_
  exact firstFailure_bind fun _ _ => rfl

end Rules

theorem firstFailure_checkPattern (kind : LeafKind) (trail : Path) (v : Value) :
    firstFailure (kind.checkPattern trail v) = firstUnder trail (kind.patternFailures v) := by
  cases kind with
  | string pattern =>
    cases pattern with
    | none => rfl
    | some p =>
      cases v with
      | string s =>
        by_cases h : p.matchesText s <;> simp [LeafKind.checkPattern, LeafKind.patternFailures, h]
      | _ => rfl
  | _ => rfl

/-- What comes after admission, whatever was admitted. -/
theorem firstFailure_restrictLeaf (kind : LeafKind) (r : Rules) (trail : Path) (v : Value)
    (o : Outcome) :
    firstFailure (do
      r.restrict trail (o.on v)
      kind.checkPattern trail (o.on v)
      return o) = firstUnder trail (r.failures (o.on v) ++ kind.patternFailures (o.on v)) := by
  rw [firstUnder_append, ← Rules.firstFailure_restrict, ← firstFailure_checkPattern]
  refine firstFailure_bind fun _ _ => ?_
  rw [firstFailure_bind fun _ _ => firstFailure_pure o, Option.or_none]

theorem firstFailure_taggedLeaf (kind : LeafKind) (t : Tag) (r : Rules) (trail : Path) (v : Value) :
    firstFailure (do
      let admitted ← r.admit trail (some t) v
      r.restrict trail (admitted.on v)
      kind.checkPattern trail (admitted.on v)
      return admitted) = firstUnder trail
        (r.failuresOnceAdmitted (some t) v fun w => r.failures w ++ kind.patternFailures w) := by
  simp only [Rules.failuresOnceAdmitted]
  obtain ⟨o, ho, hp, ht⟩ | ⟨he, ht⟩ := Rules.admit_cases r trail t v
  · rw [ho, if_pos ht, ← hp]
    exact firstFailure_restrictLeaf kind r trail v o
  · rw [he, if_neg ht, firstUnder_here]
    rfl

theorem firstFailure_checkLeaf (kind : LeafKind) (r : Rules) (trail : Path) (v : Value) :
    firstFailure (kind.check r trail v) = firstUnder trail
      (match kind with
        | .literal sample => sample.mismatches v
        | kind =>
          r.failuresOnceAdmitted kind.tag? v fun w => r.failures w ++ kind.patternFailures w) := by
  cases kind with
  | literal sample =>
    dsimp only [LeafKind.check]
    rw [firstFailure_bind fun _ _ => firstFailure_pure _, Option.or_none]
    exact firstFailure_matchLiteral sample trail v
  | any => exact firstFailure_restrictLeaf .any r trail v .kept
  | string p => exact firstFailure_taggedLeaf (.string p) .string r trail v
  | integer => exact firstFailure_taggedLeaf .integer .integer r trail v
  | float => exact firstFailure_taggedLeaf .float .float r trail v
  | boolean => exact firstFailure_taggedLeaf .boolean .boolean r trail v

theorem firstFailure_checkItems {check : Path → Value → Except Failure Outcome}
    {failures : Value → List Failure}
    (h : ∀ trail v, firstFailure (check trail v) = firstUnder trail (failures v)) (trail : Path)
    (i : Nat) (items : List Value) :
    firstFailure (checkItems check trail i items) = firstUnder trail
      ((items.zipIdx i).flatMap fun e => (failures e.1).map (.atIndex e.2)) := by
  induction items generalizing i with
  | nil => rfl
  | cons v rest ih =>
    rw [List.zipIdx_cons, List.flatMap_cons, firstUnder_append, firstUnder_map_atIndex, ← h,
      ← ih (i + 1)]
    refine firstFailure_bind fun o _ => ?_
    rw [firstFailure_bind fun _ _ => firstFailure_pure _, Option.or_none]

mutual
/-- A check that is entered at a trail fails with the first failure of the walk, placed below the
trail. -/
theorem firstFailure_check : ∀ (s : Schema) (trail : Path) (v : Value),
    firstFailure (s.check trail v) = firstUnder trail (s.failures v)
  | .leaf kind r, trail, v => by
    simp only [Schema.check, Schema.failures]
    split
    · rfl
    · exact firstFailure_checkLeaf kind r trail v
  | .array element r, trail, v => by
    simp only [Schema.check, Schema.failures, Rules.failuresOnceAdmitted,
      Rules.prepared_container (t := .sequence) rfl]
    split
    · rfl
    · cases v with
      | array items =>
        simp only [Value.tag, if_true]
        rw [firstUnder_append, ← Rules.firstFailure_restrict]
        refine firstFailure_bind fun _ _ => ?_
        rw [firstFailure_bind fun _ _ => firstFailure_pure _, Option.or_none]
        exact firstFailure_checkItems (firstFailure_check element) trail 0 items
      | number n => cases n <;> simp [Value.tag]
      | _ => simp [Value.tag]
  | .object shape isOpen r, trail, v => by
    simp only [Schema.check, Schema.failures, Rules.failuresOnceAdmitted,
      Rules.prepared_container (t := .mapping) rfl]
    split
    · rfl
    · cases v with
      | object fields =>
        simp only [Value.tag, if_true]
        rw [firstUnder_append, ← Rules.firstFailure_restrict]
        refine firstFailure_bind fun _ _ => ?_
        rw [firstUnder_append, ← firstFailure_checkFields shape trail fields]
        refine firstFailure_bind fun _ _ => ?_
        cases isOpen with
        | true => rfl
        | false =>
          simp only [Bool.false_eq_true, if_false]
          rw [firstFailure_bind fun _ _ => firstFailure_pure _, Option.or_none]
          exact firstFailure_refuseUndeclared trail _ _
      | number n => cases n <;> simp [Value.tag]
      | _ => simp [Value.tag]

theorem firstFailure_checkFields : ∀ (shape : List (String × Schema)) (trail : Path)
    (fields : List (String × Value)),
    firstFailure (Schema.checkFields shape trail fields) =
      firstUnder trail (Schema.fieldFailures shape fields)
  | [], trail, fields => rfl
  | (k, s) :: rest, trail, fields => by
    have hrest : ∀ patch : Option Value, firstFailure (do
        let patches ← Schema.checkFields rest trail fields
        return (patch.map (k, ·)).toList ++ patches) =
          firstUnder trail (Schema.fieldFailures rest fields) := by
      intro patch
      rw [firstFailure_bind fun _ _ => firstFailure_pure _, Option.or_none]
      exact firstFailure_checkFields rest trail fields
    simp only [Schema.checkFields, Schema.fieldFailures]
    rw [firstUnder_append]
    cases fields.lookup k with
    | none =>
      dsimp only
      split
      · exact hrest _
      · rw [firstUnder_atKey_here]
        rfl
    | some v =>
      dsimp only
      rw [firstUnder_map_atKey, ← firstFailure_check s (trail.atKey k) v,
        ← firstFailure_map Outcome.replacement?]
      exact firstFailure_bind fun patch _ => hrest patch
end

namespace Schema

theorem error?_eq_firstFailure (s : Schema) (v : Value) :
    s.error? v = firstFailure (s.check [] v) := by
  unfold error?
  cases s.check [] v <;> rfl

theorem valid_iff_failures_eq_nil {s : Schema} {v : Value} : s.valid v ↔ s.failures v = [] := by
  unfold valid
  rw [Option.isNone_iff_eq_none, error?_eq_firstFailure, firstFailure_check]
  simp [firstUnder]

theorem error?_eq_head? (s : Schema) (v : Value) : s.error? v = (s.failures v).head? := by
  rw [error?_eq_firstFailure, firstFailure_check, firstUnder_root]

/-- The error that is reported is the first failure of the walk, and a document is valid exactly
when the walk finds no failure. -/
theorem error?_eq_head?_failures (s : Schema) (v : Value) :
    s.error? v = (s.failures v).head? ∧ (s.valid v ↔ s.failures v = []) :=
  ⟨error?_eq_head? s v, valid_iff_failures_eq_nil⟩

/-! ### Validity at a node -/

theorem failuresOnceAdmitted_eq_nil_iff {r : Rules} {t : Tag} {v : Value}
    {rest : Value → List Failure} :
    r.failuresOnceAdmitted (some t) v rest = [] ↔
      (r.prepared t v).tag = t ∧ rest (r.prepared t v) = [] := by
  unfold Rules.failuresOnceAdmitted
  dsimp only
  split <;> simp [*]

theorem valid_any (v : Value) : any.valid v := by
  rw [valid_iff_failures_eq_nil]
  simp [any, ofKind, failures, Rules.failuresOnceAdmitted, LeafKind.tag?, Rules.failures,
    Rules.boundFailures, LeafKind.patternFailures]

/-- A leaf with a tag accepts what can be prepared to carry the tag and then keeps the rules. -/
theorem valid_leaf_iff {kind : LeafKind} {t : Tag} (ht : kind.tag? = some t) {r : Rules}
    {v : Value} :
    (leaf kind r).valid v ↔ v = .null ∧ r.acceptsNull ∨ (r.prepared t v).tag = t ∧
      r.failures (r.prepared t v) = [] ∧ kind.patternFailures (r.prepared t v) = [] := by
  have hkind : (leaf kind r).failures v = if v.isNull && r.acceptsNull then [] else
      r.failuresOnceAdmitted (some t) v fun w => r.failures w ++ kind.patternFailures w := by
    cases kind <;> cases ht <;> rfl
  rw [valid_iff_failures_eq_nil, hkind, ← Value.isNull_iff, ← Bool.and_eq_true]
  split
  · simp [*]
  · rename_i hnull
    rw [or_iff_right hnull, failuresOnceAdmitted_eq_nil_iff, List.append_eq_nil_iff]

/-- A leaf without a tag accepts what keeps the rules. -/
theorem valid_leaf_any_iff {r : Rules} {v : Value} :
    (leaf .any r).valid v ↔ v = .null ∧ r.acceptsNull ∨ r.failures v = [] := by
  have hany : (leaf .any r).failures v =
      if v.isNull && r.acceptsNull then [] else r.failures v ++ [] := rfl
  rw [valid_iff_failures_eq_nil, hany, ← Value.isNull_iff, ← Bool.and_eq_true]
  split <;> simp [*]

/-- A sample has no rules but the one on null. -/
theorem valid_leaf_literal_iff {sample : Value} {r : Rules} {v : Value} :
    (leaf (.literal sample) r).valid v ↔
      v = .null ∧ r.acceptsNull ∨ sample.mismatches v = [] := by
  rw [valid_iff_failures_eq_nil, failures, ← Value.isNull_iff, ← Bool.and_eq_true]
  split <;> simp [*]

/-- An array schema accepts arrays that keep the rules and have valid elements only. -/
theorem valid_array_iff {element : Schema} {r : Rules} {v : Value} :
    (array element r).valid v ↔ v = .null ∧ r.acceptsNull ∨
      ∃ items, v = .array items ∧ r.failures v = [] ∧ ∀ x ∈ items, element.valid x := by
  rw [valid_iff_failures_eq_nil, failures, ← Value.isNull_iff, ← Bool.and_eq_true]
  split
  · simp [*]
  · rename_i hnull
    rw [or_iff_right hnull, failuresOnceAdmitted_eq_nil_iff, Rules.prepared_container rfl]
    cases v with
    | array items =>
      simp only [Value.tag, List.append_eq_nil_iff, List.flatMap_eq_nil_iff,
        List.map_eq_nil_iff, valid_iff_failures_eq_nil, Value.array.injEq, exists_eq_left',
        true_and]
      refine and_congr_right fun _ => ?_
      constructor
      · intro h x hx
        obtain ⟨i, hi⟩ := List.mem_iff_getElem?.mp hx
        exact h (x, i) (List.mem_zipIdx_iff_getElem?.mpr hi)
      · intro h e he
        exact h e.1 (List.fst_mem_of_mem_zipIdx he)
    | number n => cases n <;> simp [Value.tag]
    | _ => simp [Value.tag]

/-- Whether what is found at a declared key is valid: a valid value, or nothing where the field is
optional. -/
def AdmitsField (s : Schema) : Option Value → Prop
  | some v => s.valid v
  | none => s.isOptional

theorem fieldFailures_eq_nil_iff {shape : List (String × Schema)} {fields : List (String × Value)} :
    fieldFailures shape fields = [] ↔ ∀ e ∈ shape, e.2.AdmitsField (fields.lookup e.1) := by
  induction shape with
  | nil => simp [fieldFailures]
  | cons e rest ih =>
    rw [fieldFailures, List.append_eq_nil_iff, ih, List.forall_mem_cons]
    refine and_congr_left fun _ => ?_
    cases fields.lookup e.1 with
    | none => simp [AdmitsField]
    | some x => simp [AdmitsField, valid_iff_failures_eq_nil]

theorem undeclaredFailures_eq_nil_iff {declared keys : List String} :
    undeclaredFailures declared keys = [] ↔ ∀ k ∈ keys, k ∈ declared := by
  simp [undeclaredFailures]

theorem failures_literal (sample v : Value) : (literal sample).failures v = sample.mismatches v :=
  if_neg (by simp [Rules.acceptsNull])

/-- The mismatches at the keys of a sample are the failures of fields that are literals. -/
theorem fieldMismatches_eq (want fields : List (String × Value)) :
    fieldMismatches want fields =
      fieldFailures (want.map fun e => (e.1, literal e.2)) fields := by
  induction want with
  | nil => rfl
  | cons e rest ih =>
    rw [fieldMismatches, List.map_cons, fieldFailures, ih]
    cases fields.lookup e.1 with
    | some v =>
      dsimp only
      rw [failures_literal]
    | none => rfl

/-- Every key of a sample leads to a value that matches. -/
theorem fieldMismatches_eq_nil_iff {want fields : List (String × Value)} :
    fieldMismatches want fields = [] ↔
      ∀ e ∈ want, ∃ v, fields.lookup e.1 = some v ∧ e.2.mismatches v = [] := by
  induction want with
  | nil => simp [fieldMismatches]
  | cons e rest ih =>
    rw [fieldMismatches, List.append_eq_nil_iff, ih, List.forall_mem_cons]
    refine and_congr_left fun _ => ?_
    cases fields.lookup e.1 <;> simp

/-- Items match a sample one by one where there are as many. -/
theorem itemMismatches_eq_nil_iff {want items : List Value} {i : Nat}
    (h : want.length = items.length) :
    itemMismatches want i items = [] ↔
      List.Forall₂ (fun sample x => sample.mismatches x = []) want items := by
  induction want generalizing i items with
  | nil =>
    rw [List.eq_nil_of_length_eq_zero h.symm]
    simp [itemMismatches]
  | cons sample rest ih =>
    cases items with
    | nil => cases h
    | cons x items =>
      rw [itemMismatches, List.append_eq_nil_iff, List.map_eq_nil_iff, ih (Nat.succ.inj h),
        List.forall₂_cons]

/-- An object schema accepts objects that keep the rules, have valid fields and all that are
required, and no others unless it is open. -/
theorem valid_object_iff {shape : List (String × Schema)} {isOpen : Bool} {r : Rules} {v : Value} :
    (object shape isOpen r).valid v ↔ v = .null ∧ r.acceptsNull ∨
      ∃ fields, v = .object fields ∧ r.failures v = [] ∧
        (∀ e ∈ shape, e.2.AdmitsField (fields.lookup e.1)) ∧
        (isOpen ∨ ∀ k ∈ Entries.keys fields, k ∈ Entries.keys shape) := by
  rw [valid_iff_failures_eq_nil, failures, ← Value.isNull_iff, ← Bool.and_eq_true]
  split
  · simp [*]
  · rename_i hnull
    rw [or_iff_right hnull, failuresOnceAdmitted_eq_nil_iff, Rules.prepared_container rfl]
    cases v with
    | object fields =>
      simp only [Value.tag, List.append_eq_nil_iff, fieldFailures_eq_nil_iff,
        Value.object.injEq, exists_eq_left', true_and]
      refine and_congr_right fun _ => and_congr_right fun _ => ?_
      cases isOpen <;> simp [undeclaredFailures_eq_nil_iff]
    | number n => cases n <;> simp [Value.tag]
    | _ => simp [Value.tag]

/-- A change of the rules that adds no test and accepts null accepts null in addition. -/
theorem valid_mapRules_iff {f : Rules → Rules} (hnull : ∀ r, (f r).acceptsNull = true)
    (htests : ∀ r, (f r).failures = r.failures)
    (hadmits : ∀ r, (f r).failuresOnceAdmitted = r.failuresOnceAdmitted) {s : Schema} {v : Value} :
    (s.mapRules f).valid v ↔ v = .null ∨ s.valid v := by
  rw [valid_iff_failures_eq_nil, valid_iff_failures_eq_nil, ← Value.isNull_iff]
  cases s <;> simp only [mapRules, failures, hnull, htests, hadmits, Bool.and_true]
  all_goals
    cases v.isNull with
    | true => simp
    | false => simp

theorem valid_modify_nullable {s : Schema} {v : Value} :
    (s.modify .nullable).valid v ↔ v = .null ∨ s.valid v :=
  valid_mapRules_iff (f := fun r => { r with nullable := true }) (fun _ => rfl) (fun _ => rfl)
    (fun _ => rfl)

theorem valid_modify_isOptional {s : Schema} {v : Value} :
    (s.modify .isOptional).valid v ↔ v = .null ∨ s.valid v :=
  valid_mapRules_iff (f := fun r => { r with isOptional := true })
    (fun r => by simp [Rules.acceptsNull]) (fun _ => rfl) (fun _ => rfl)

theorem prepared_of_not_coerces {r : Rules} (h : r.coerces = false) {t : Tag} {v : Value} :
    (r.prepared t v).tag = t ↔ v.tag = t ∨ t = .float ∧ v.tag = .integer := by
  unfold Rules.prepared
  rw [h]
  by_cases hw : t = .float ∧ v.tag = .integer
  · obtain ⟨rfl, hv⟩ := hw
    have hc : ∃ o, coerce v .float = some o := by
      cases v with
      | number n => cases n <;> exact ⟨_, rfl⟩
      | _ => cases hv
    obtain ⟨o, ho⟩ := hc
    simp [hv, ho, tag_of_coerce ho]
  · simp [hw]

/-- A leaf that has a tag and neither rules nor pattern accepts what carries the tag, and floats
accept integers. -/
theorem valid_ofKind_iff (kind : LeafKind) {t : Tag} (ht : kind.tag? = some t)
    (hp : ∀ w, kind.patternFailures w = []) {v : Value} :
    (ofKind kind).valid v ↔ v.tag = t ∨ t = .float ∧ v.tag = .integer := by
  rw [ofKind, valid_leaf_iff ht, prepared_of_not_coerces rfl]
  simp [hp, Rules.failures, Rules.boundFailures, Rules.acceptsNull]

end Schema
end DocShape
