import DocShape.Proofs.TrailNeutrality
import DocShape.Schema.SharedTrail

/-!
Checks on a shared trail leave it as they find it.

A step down puts one segment on the trail and takes one off. What is taken off is what was put on if
the check in between leaves the trail alone, and it does so by induction, on success and on failure.
Then a shared trail is as good as a trail for each step, and what is known of those carries over.

* `SharedTrail.Follows`: a check on a shared trail that does what a check does that is handed its
  trail, and leaves the trail as it was.
* `SharedTrail.follows_matchLiteral`, `SharedTrail.follows_run`: matching samples and checking
  schemas on a shared trail.
* `SharedTrail.Neutral`: a check whose trail shows only in where its failure is placed.
* `sharedTrail_neutral`: documents, objects, arrays and samples are checked so.
-/

namespace DocShape.SharedTrail

section Follows

variable {α β : Type}

theorem outcome_bind (x : SharedTrail α) (next : α → SharedTrail β) (trail : Path) :
    (x >>= next).outcome trail =
      match x.outcome trail with
      | (.ok a, left) => (next a).outcome left
      | (.error f, left) => (.error f, left) := by
  change (match x.outcome trail with | (out, left) => ExceptT.bindCont next out left) = _
  obtain ⟨out, left⟩ := x.outcome trail
  cases out <;> rfl

/-- Whether a check on a shared trail does what a check does that is handed the trail, and leaves
the trail as it finds it. -/
def Follows (x : SharedTrail α) (check : Path → Except Failure α) : Prop :=
  ∀ trail, x.outcome trail = (check trail, trail)

namespace Follows

variable {x : SharedTrail α} {check : Path → Except Failure α}

theorem pure (a : α) : Follows (pure a) fun _ => .ok a := fun _ => rfl

theorem fail (cause : Cause) :
    Follows (α := α) (fail cause) fun trail => .error ⟨trail, cause⟩ := fun _ => rfl

theorem reading (check : Path → Except Failure α) : Follows (reading check) check := fun _ => rfl

/-- Two checks one after the other. -/
theorem bind (h : Follows x check) {next : α → SharedTrail β}
    {check' : α → Path → Except Failure β} (hnext : ∀ a, Follows (next a) (check' a)) :
    Follows (x >>= next) fun trail => check trail >>= fun a => check' a trail := by
  intro trail
  dsimp only
  rw [outcome_bind, h trail]
  cases check trail with
  | ok a => exact hnext a trail
  | error f => rfl

theorem map (h : Follows x check) (f : α → β) :
    Follows (f <$> x) fun trail => (check trail).map f := by
  intro trail
  dsimp only
  rw [map_eq_pure_bind, outcome_bind, h trail]
  cases check trail <;> rfl

theorem ite {p : Prop} [Decidable p] {y : SharedTrail α} {check' : Path → Except Failure α}
    (h : Follows x check) (h' : Follows y check') :
    Follows (if p then x else y) fun trail => if p then check trail else check' trail := by
  intro trail
  by_cases hp : p
  · simp only [if_pos hp, h trail]
  · simp only [if_neg hp, h' trail]

/-- The segment that is taken off the trail is the one that was put on it. -/
theorem nested (h : Follows x check) (step : Step) :
    Follows (nested step x) fun trail => check (trail ++ [.required step]) := by
  intro trail
  have hbelow := h (trail ++ [.required step])
  change ((x.outcome (trail ++ [.required step])).1,
    (x.outcome (trail ++ [.required step])).2.dropLast) = _
  rw [hbelow, List.dropLast_concat]

end Follows

/-- A failure one step down holds the whole way, and the step is taken back. -/
example : (nested (.index 3) (fail (.mismatch .integer .string)) : SharedTrail Unit).outcome
    [.required (.key "a")] =
      (.error ⟨[.required (.key "a"), .required (.index 3)], .mismatch .integer .string⟩,
        [.required (.key "a")]) := rfl

end Follows

theorem follows_refuseUndeclared (declared keys : List String) :
    Follows (refuseUndeclared declared keys) fun trail =>
      DocShape.refuseUndeclared trail declared keys := by
  unfold refuseUndeclared DocShape.refuseUndeclared
  cases keys.find? fun k => !declared.contains k with
  | none => exact .pure ()
  | some k => exact (Follows.fail _).nested (.key k)

/-! ### Samples -/

mutual
theorem follows_matchLiteral : ∀ sample v : Value,
    Follows (matchLiteral sample v) fun trail => DocShape.matchLiteral sample trail v
  | .null, _ => .reading _
  | .bool _, _ => .reading _
  | .number _, _ => .reading _
  | .string _, _ => .reading _
  | .array want, v => by
    cases v with
    | array items =>
      simp only [matchLiteral, DocShape.matchLiteral]
      exact .ite (follows_matchItems want 0 items) (.fail _)
    | _ => exact .fail _
  | .object want, v => by
    cases v with
    | object fields =>
      simp only [matchLiteral, DocShape.matchLiteral]
      exact (follows_matchFields want fields).bind fun _ => follows_refuseUndeclared _ _
    | _ => exact .fail _

theorem follows_matchFields : ∀ want fields : List (String × Value),
    Follows (matchFields want fields) fun trail => DocShape.matchFields want trail fields
  | [], _ => .pure ()
  | (k, sample) :: rest, fields => by
    simp only [matchFields, DocShape.matchFields]
    cases fields.lookup k with
    | none =>
      exact ((Follows.fail _).nested (.key k)).bind fun _ => follows_matchFields rest fields
    | some v =>
      exact ((follows_matchLiteral sample v).nested (.key k)).bind fun _ =>
        follows_matchFields rest fields

theorem follows_matchItems : ∀ (want : List Value) (i : Nat) (items : List Value),
    Follows (matchItems want i items) fun trail => DocShape.matchItems want trail i items
  | [], _, _ => .pure ()
  | _ :: _, _, [] => .pure ()
  | sample :: rest, i, v :: items => by
    simp only [matchItems, DocShape.matchItems]
    exact ((follows_matchLiteral sample v).nested (.index i)).bind fun _ =>
      follows_matchItems rest (i + 1) items
end

/-! ### Schemas -/

theorem follows_checkLeaf (kind : LeafKind) (r : Rules) (v : Value) :
    Follows (checkLeaf kind r v) fun trail => kind.check r trail v := by
  unfold checkLeaf LeafKind.check
  cases kind with
  | literal sample => exact (follows_matchLiteral sample v).bind fun _ => .pure Outcome.kept
  | _ =>
    exact (Follows.reading _).bind fun o => (Follows.reading _).bind fun _ =>
      (Follows.reading _).bind fun _ => .pure o

/-- Items are checked one by one on the trail where each of them is. -/
theorem follows_checkItems {x : Value → SharedTrail Outcome}
    {check : Path → Value → Except Failure Outcome}
    (h : ∀ v, Follows (x v) fun trail => check trail v) (i : Nat) (items : List Value) :
    Follows (checkItems x i items) fun trail => DocShape.checkItems check trail i items := by
  induction items generalizing i with
  | nil => exact .pure []
  | cons v rest ih =>
    exact ((h v).nested (.index i)).bind fun r => (ih (i + 1)).bind fun rs => .pure (r :: rs)

theorem follows_checkArray {x : Value → SharedTrail Outcome}
    {check : Path → Value → Except Failure Outcome}
    (h : ∀ v, Follows (x v) fun trail => check trail v) (items : List Value) :
    Follows (checkArray x items) fun trail => do
      let rs ← DocShape.checkItems check trail 0 items
      return rebuildItems items rs :=
  (follows_checkItems h 0 items).bind fun rs => .pure (rebuildItems items rs)

theorem follows_finishObject (declared : List String) (isOpen : Bool)
    (fields patches : List (String × Value)) :
    Follows (finishObject declared isOpen fields patches) fun trail => do
      if isOpen then .ok () else DocShape.refuseUndeclared trail declared (Entries.keys fields)
      return rebuildFields fields patches := by
  have hdone := Follows.pure (rebuildFields fields patches)
  exact .ite hdone ((follows_refuseUndeclared _ _).bind fun _ => hdone)

mutual
/-- Checking a schema on a shared trail is checking it with a trail for each step. -/
theorem follows_run : ∀ (s : Schema) (v : Value), Follows (run s v) fun trail => s.check trail v
  | .leaf kind r, v => by
    simp only [run, Schema.check]
    exact .ite (.pure _) (follows_checkLeaf kind r v)
  | .array element r, v => by
    simp only [run, Schema.check]
    refine .ite (.pure _) ?_
    cases v with
    | array items =>
      refine (Follows.reading _).bind fun _ => follows_checkArray (fun w => ?_) items
      exact follows_run element w
    | _ => exact .fail _
  | .object shape isOpen r, v => by
    simp only [run, Schema.check]
    refine .ite (.pure _) ?_
    cases v with
    | object fields =>
      exact (Follows.reading _).bind fun _ => (follows_checkFields shape fields).bind fun patches =>
        follows_finishObject _ isOpen fields patches
    | _ => exact .fail _

theorem follows_checkFields : ∀ (shape : List (String × Schema)) (fields : List (String × Value)),
    Follows (checkFields shape fields) fun trail => Schema.checkFields shape trail fields
  | [], _ => .pure []
  | (k, s) :: rest, fields => by
    simp only [checkFields, Schema.checkFields]
    have hrest : ∀ patch : Option Value, Follows
        (checkFields rest fields >>= fun patches =>
          Pure.pure ((patch.map (k, ·)).toList ++ patches)) fun trail =>
        Schema.checkFields rest trail fields >>= fun patches =>
          Pure.pure ((patch.map (k, ·)).toList ++ patches) := fun patch =>
      (follows_checkFields rest fields).bind fun _ => .pure _
    -- The field is checked one step down, and the fields after it where the step was taken back.
    cases fields.lookup k with
    | some v => exact (((follows_run s v).nested (.key k)).map _).bind hrest
    | none => exact .ite (hrest s.rules.default) (((Follows.fail _).nested (.key k)).bind hrest)
end

theorem follows_checkObject (shape : List (String × Schema)) (isOpen : Bool)
    (fields : List (String × Value)) :
    Follows (checkObject shape isOpen fields) fun trail => do
      let patches ← Schema.checkFields shape trail fields
      if isOpen then .ok () else
        DocShape.refuseUndeclared trail (Entries.keys shape) (Entries.keys fields)
      return rebuildFields fields patches :=
  (follows_checkFields shape fields).bind fun patches =>
    follows_finishObject _ isOpen fields patches

/-! ### Neutrality -/

section Neutral

variable {α : Type} {x : SharedTrail α} {check : Path → Except Failure α}

/-- Whether a check leaves the trail as it finds it, and the trail shows only in where a failure is
placed. -/
structure Neutral (x : SharedTrail α) : Prop where
  restored : ∀ trail, (x.outcome trail).2 = trail
  succeeds_iff : ∀ trail a, (x.outcome trail).1 = .ok a ↔ (x.outcome []).1 = .ok a
  fails : ∀ trail f, (x.outcome []).1 = .error f → ∃ g, (x.outcome trail).1 = .error g ∧
    g.rule = f.rule ∧ g.message = f.message ∧ g.path = Path.text (trail ++ f.trail)

theorem Follows.neutral (h : Follows x check) (hcheck : TrailNeutral check) : x.Neutral := by
  refine ⟨?_, ?_, ?_⟩
  · intro trail
    rw [h trail]
  · intro trail a
    rw [h trail, h []]
    exact ⟨fun hok => hcheck.eq_ok hok [], fun hok => hcheck.eq_ok hok trail⟩
  · intro trail f hf
    have hroot : check [] = .error f := by rwa [h []] at hf
    refine ⟨f.under trail, ?_, rfl, rfl, rfl⟩
    rw [h trail, hcheck.eq_mapError, hroot]
    rfl

theorem neutral_checkArray (element : Schema) (items : List Value) :
    (checkArray (run element) items).Neutral := by
  refine (follows_checkArray (fun v => follows_run element v) items).neutral ?_
  have hitems := trailNeutral_checkItems (fun v => element.trailNeutral_check v) 0 items
  exact hitems.bind fun rs => .ok (rebuildItems items rs)

theorem neutral_checkObject (shape : List (String × Schema)) (isOpen : Bool)
    (fields : List (String × Value)) : (checkObject shape isOpen fields).Neutral := by
  refine (follows_checkObject shape isOpen fields).neutral ?_
  refine (Schema.trailNeutral_checkFields shape fields).bind fun patches => ?_
  have hdone := TrailNeutral.ok (rebuildFields fields patches)
  exact .ite hdone ((trailNeutral_refuseUndeclared _ _).bind fun _ => hdone)

end Neutral

end DocShape.SharedTrail

namespace DocShape

/-- Checking documents, objects, arrays and samples on a shared trail leaves the trail as it was,
whether it succeeds or fails. With any trail it succeeds with the result that it has with none, or
fails with the same rule and message at the same place below the trail. It does what the checks do
that have a trail for each step. -/
theorem sharedTrail_neutral :
    (∀ (s : Schema) (v : Value), (SharedTrail.run s v).Neutral ∧
      ∀ trail, (SharedTrail.run s v).outcome trail = (s.check trail v, trail)) ∧
    (∀ (shape : List (String × Schema)) (isOpen : Bool) (fields : List (String × Value)),
      (SharedTrail.checkObject shape isOpen fields).Neutral) ∧
    (∀ (element : Schema) (items : List Value),
      (SharedTrail.checkArray (SharedTrail.run element) items).Neutral) ∧
    ∀ sample v : Value, (SharedTrail.matchLiteral sample v).Neutral ∧
      ∀ trail, (SharedTrail.matchLiteral sample v).outcome trail =
        (matchLiteral sample trail v, trail) := by
  refine ⟨?_, SharedTrail.neutral_checkObject, SharedTrail.neutral_checkArray, ?_⟩
  · intro s v
    have hfollows := SharedTrail.follows_run s v
    exact ⟨hfollows.neutral (s.trailNeutral_check v), hfollows⟩
  · intro sample v
    have hfollows := SharedTrail.follows_matchLiteral sample v
    exact ⟨hfollows.neutral (trailNeutral_matchLiteral sample v), hfollows⟩

end DocShape
