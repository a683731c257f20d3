import DocShape.Proofs.ExhaustiveWalk

/-!
Trails. A check that is entered at a trail does what it does at the root, save that its failure is
placed below the trail.

* `trailNeutral_matchLiteral`, `trailNeutral_check`: matching a sample and checking a schema depend
  on the trail in no other way.
* `TrailNeutral.eq_ok`: what succeeds at one trail succeeds at all of them, with the same result.
-/

namespace DocShape

section Neutrality

variable {α β : Type}

/-- Checks that depend on the trail only by placing their failure below it. -/
def TrailNeutral (check : Path → Except Failure α) : Prop :=
  ∀ trail way, check (trail ++ way) = (check way).mapError (.under trail)

namespace TrailNeutral

variable {check : Path → Except Failure α}

theorem ok (a : α) : TrailNeutral fun _ => .ok a := fun _ _ => rfl

theorem fail (cause : Cause) : TrailNeutral (α := α) fun trail => .error ⟨trail, cause⟩ :=
  fun _ _ => rfl

/-- Two checks one after the other. -/
theorem bind {next : α → Path → Except Failure β} (h : TrailNeutral check)
    (hnext : ∀ a, TrailNeutral (next a)) :
    TrailNeutral fun trail => check trail >>= fun a => next a trail := by
  intro trail way
  dsimp only
  rw [h trail way]
  cases check way with
  | ok a => exact hnext a trail way
  | error f => rfl

theorem map (h : TrailNeutral check) (f : α → β) :
    TrailNeutral fun trail => (check trail).map f := by
  intro trail way
  dsimp only
  rw [h trail way]
  cases check way <;> rfl

theorem ite {p : Prop} [Decidable p] {check' : Path → Except Failure α} (h : TrailNeutral check)
    (h' : TrailNeutral check') :
    TrailNeutral fun trail => if p then check trail else check' trail := by
  intro trail way
  dsimp only
  split
  · exact h trail way
  · exact h' trail way

/-- A check of the node at a key. -/
theorem atKey (h : TrailNeutral check) (key : String) :
    TrailNeutral fun trail => check (trail.atKey key) := by
  intro trail way
  dsimp only [Path.atKey]
  rw [List.append_assoc, h trail]

/-- A check of the node at a position. -/
theorem atIndex (h : TrailNeutral check) (position : Nat) :
    TrailNeutral fun trail => check (trail.atIndex position) := by
  intro trail way
  dsimp only [Path.atIndex]
  rw [List.append_assoc, h trail]

theorem eq_mapError (h : TrailNeutral check) (trail : Path) :
    check trail = (check []).mapError (.under trail) := by
  simpa using h trail []

/-- What succeeds at one trail succeeds at all of them, with the same result. -/
theorem eq_ok (h : TrailNeutral check) {trail : Path} {a : α} (hok : check trail = .ok a)
    (trail' : Path) : check trail' = .ok a := by
  rw [h.eq_mapError] at hok ⊢
  cases hroot : check [] with
  | ok b =>
    rw [hroot] at hok
    exact hok
  | error f =>
    rw [hroot] at hok
    cases hok

end TrailNeutral
end Neutrality

/-! ### Samples -/

theorem trailNeutral_refuseUndeclared (declared keys : List String) :
    TrailNeutral fun trail => refuseUndeclared trail declared keys := by
  unfold refuseUndeclared
  cases keys.find? fun k => !declared.contains k with
  | none => exact .ok ()
  | some k => exact (TrailNeutral.fail _).atKey k

theorem trailNeutral_matchScalar (sample v : Value) :
    TrailNeutral fun trail => matchScalar sample trail v := by
  unfold matchScalar
  exact .ite (.fail _) (.ite (.ok ()) (.fail _))

mutual
/-- A sample is matched in the same way at every trail. -/
theorem trailNeutral_matchLiteral : ∀ sample v : Value,
    TrailNeutral fun trail => matchLiteral sample trail v
  | .null, v => trailNeutral_matchScalar .null v
  | .bool b, v => trailNeutral_matchScalar (.bool b) v
  | .number n, v => trailNeutral_matchScalar (.number n) v
  | .string s, v => trailNeutral_matchScalar (.string s) v
  | .array want, v => by
    cases v with
    | array items =>
      simp only [matchLiteral]
      exact .ite (trailNeutral_matchItems want 0 items) (.fail _)
    | _ => exact .fail _
  | .object want, v => by
    cases v with
    | object fields =>
      simp only [matchLiteral]
      exact (trailNeutral_matchFields want fields).bind fun _ =>
        trailNeutral_refuseUndeclared _ _
    | _ => exact .fail _

theorem trailNeutral_matchFields : ∀ want fields : List (String × Value),
    TrailNeutral fun trail => matchFields want trail fields
  | [], _ => .ok ()
  | (k, sample) :: rest, fields => by
    simp only [matchFields]
    cases fields.lookup k with
    | none =>
      exact ((TrailNeutral.fail _).atKey k).bind fun _ => trailNeutral_matchFields rest fields
    | some v =>
      exact ((trailNeutral_matchLiteral sample v).atKey k).bind fun _ =>
        trailNeutral_matchFields rest fields

theorem trailNeutral_matchItems : ∀ (want : List Value) (i : Nat) (items : List Value),
    TrailNeutral fun trail => matchItems want trail i items
  | [], _, _ => .ok ()
  | _ :: _, _, [] => .ok ()
  | sample :: rest, i, v :: items => by
    simp only [matchItems]
    exact ((trailNeutral_matchLiteral sample v).atIndex i).bind fun _ =>
      trailNeutral_matchItems rest (i + 1) items
end

/-! ### Schemas -/

theorem trailNeutral_admission (r : Rules) (expected : Option Tag) (v : Value) :
    TrailNeutral fun trail => r.admit trail expected v := by
  cases expected with
  | none => exact .ok _
  | some t =>
    unfold Rules.admit
    dsimp only
    refine .ite (.ok _) ?_
    split
    · exact .ok _
    · exact .fail _

theorem trailNeutral_checkAllowed (r : Rules) (v : Value) :
    TrailNeutral fun trail => r.checkAllowed trail v := by
  unfold Rules.checkAllowed
  cases r.allowed with
  | none => exact .ok ()
  | some allowed => exact .ite (.ok ()) (.fail _)

theorem trailNeutral_checkBound (side : Side) (b : Option Bound) (v : Value) :
    TrailNeutral fun trail => checkBound trail side b v := by
  unfold checkBound
  split
  · exact .ite (.ok ()) (.fail _)
  · exact .ok ()

theorem trailNeutral_restrict (r : Rules) (v : Value) :
    TrailNeutral fun trail => r.restrict trail v :=
  (trailNeutral_checkAllowed r v).bind fun _ =>
    (trailNeutral_checkBound .min r.min v).bind fun _ => trailNeutral_checkBound .max r.max v

theorem trailNeutral_checkPattern (kind : LeafKind) (v : Value) :
    TrailNeutral fun trail => kind.checkPattern trail v := by
  unfold LeafKind.checkPattern
  split
  · exact .ite (.ok ()) (.fail _)
  · exact .ok ()

theorem trailNeutral_checkLeaf (kind : LeafKind) (r : Rules) (v : Value) :
    TrailNeutral fun trail => kind.check r trail v := by
  unfold LeafKind.check
  cases kind with
  | literal sample => exact (trailNeutral_matchLiteral sample v).bind fun _ => .ok Outcome.kept
  | _ =>
    exact (trailNeutral_admission r _ v).bind fun o =>
      (trailNeutral_restrict r (o.on v)).bind fun _ =>
        (trailNeutral_checkPattern _ (o.on v)).bind fun _ => .ok o

/-- Items are checked in the same way at every trail where each of them is. -/
theorem trailNeutral_checkItems {check : Path → Value → Except Failure Outcome}
    (h : ∀ v, TrailNeutral fun trail => check trail v) (i : Nat) (items : List Value) :
    TrailNeutral fun trail => checkItems check trail i items := by
  induction items generalizing i with
  | nil => exact .ok []
  | cons v rest ih =>
    exact ((h v).atIndex i).bind fun r => (ih (i + 1)).bind fun rs => .ok (r :: rs)

namespace Schema

mutual
/-- A schema is checked in the same way at every trail. -/
theorem trailNeutral_check : ∀ (s : Schema) (v : Value), TrailNeutral fun trail => s.check trail v
  | .leaf kind r, v => by
    simp only [check]
    exact .ite (.ok _) (trailNeutral_checkLeaf kind r v)
  | .array element r, v => by
    simp only [check]
    refine .ite (.ok _) ?_
    cases v with
    | array items =>
      refine (trailNeutral_restrict r (.array items)).bind fun _ => ?_
      refine (trailNeutral_checkItems (fun w => ?_) 0 items).bind fun rs =>
        .ok (rebuildItems items rs)
      exact trailNeutral_check element w
    | _ => exact .fail _
  | .object shape isOpen r, v => by
    simp only [check]
    refine .ite (.ok _) ?_
    cases v with
    | object fields =>
      refine (trailNeutral_restrict r (.object fields)).bind fun _ => ?_
      refine (trailNeutral_checkFields shape fields).bind fun patches => ?_
      have hdone := TrailNeutral.ok (rebuildFields fields patches)
      exact .ite hdone ((trailNeutral_refuseUndeclared _ _).bind fun _ => hdone)
    | _ => exact .fail _

theorem trailNeutral_checkFields : ∀ (shape : List (String × Schema))
    (fields : List (String × Value)), TrailNeutral fun trail => checkFields shape trail fields
  | [], _ => .ok []
  | (k, s) :: rest, fields => by
    simp only [checkFields]
    have hrest : ∀ patch : Option Value, TrailNeutral fun trail =>
        checkFields rest trail fields >>= fun patches =>
          pure ((patch.map (k, ·)).toList ++ patches) := fun patch =>
      (trailNeutral_checkFields rest fields).bind fun _ => .ok _
    cases fields.lookup k with
    | some v => exact (((trailNeutral_check s v).atKey k).map _).bind hrest
    | none => exact .ite (hrest s.rules.default) (((TrailNeutral.fail _).atKey k).bind hrest)
end

end Schema
end DocShape
