import DocShape.Access.Wrapper
import DocShape.Proofs.ElementAdaptors

/-!
Wrapped nodes do what accessors do that hold the fields or the items.

Every way to take out a container asks first whether the node is one, or else wraps an empty one. So
a node that was taken out is of the kind that it is wrapped as, and asking it for fields or items
comes to no bad end. By induction this is so for all that is reached in a session.

* `Accessor.toWrapper`: the wrapper that shows the node of an accessor.
* `Taken.asIs?_eq`, `Taken.cast?_eq`, `Taken.given_eq`: what is taken out, and what is given for it.
* `Wrapper.call?_toWrapper`, `Wrapper.reach_toWrapper`: what calls on such a wrapper answer, and
  what they reach.
* `Wrapper.session_eq`: whole sessions, each of which comes to its end.
-/

namespace DocShape

/-- The node that an accessor shows, wrapped as the accessor has it. -/
def Accessor.toWrapper : Accessor → Wrapper
  | .mapping m => ⟨some .mapping, m.toValue⟩
  | .sequence s => ⟨some .sequence, s.toValue⟩
  | .node v => .node v

theorem Accessor.shown_toWrapper (a : Accessor) : a.toWrapper.shown = a.toValue := by
  cases a <;> rfl

/-- What a lookup takes out, with a wrapper for the accessor. -/
def Yield.taken : Yield → Taken
  | .scalar v => .scalar v
  | .accessor a => .wrapper a.toWrapper

/-- What a target takes out, with a wrapper for the accessor. -/
def Target.taken (t : Target) (x : t.Carrier) : Taken :=
  (Yield.ofCarrier t x).taken

theorem Yield.wrapper?_taken (y : Yield) :
    y.taken.wrapper? = y.accessor?.map Accessor.toWrapper := by
  cases y <;> rfl

namespace Wrapper

theorem ofValue?_eq (c : Container) (v : Value) :
    ofValue? c v = (Accessor.ofValue? c v).map Accessor.toWrapper := by
  cases c <;> cases v <;> rfl

theorem of_eq (c : Container) (v : Value) : of c v = (Accessor.of c v).toWrapper := by
  cases c <;> cases v <;> rfl

end Wrapper

/-! ### What is taken out -/

namespace Taken

variable (t : Target)

theorem asIs?_eq (v : Value) : asIs? t v = (t.asIs? v).map t.taken := by
  cases t with
  | mapping => cases v <;> rfl
  | sequence => cases v <;> rfl
  | _ => rfl

theorem converted?_eq (v : Value) (o : Outcome) :
    converted? t v o = (t.converted? v o).map t.taken := by
  cases t with
  | mapping =>
    cases o with
    | kept => exact asIs?_eq .mapping v
    | replaced w => rfl
  | sequence =>
    cases o with
    | kept => exact asIs?_eq .sequence v
    | replaced w => rfl
  | _ => rfl

theorem cast?_eq (v : Value) : cast? t v = (t.cast? v).map t.taken := by
  rw [cast?, Target.cast?, Option.map_bind]
  exact Option.bind_congr fun o _ => converted?_eq t v o

theorem fallback_eq : fallback t = t.taken t.fallback := by
  cases t <;> rfl

/-- A default is wrapped as what it is. -/
theorem given_eq (x : t.Carrier) : given t x = t.taken x := by
  cases t <;> rfl

/-! ### Lookups about one node -/

theorem bind_asIs?_eq (node : Option Value) :
    node.bind (asIs? t) = (node.bind t.asIs?).map t.taken := by
  rw [Option.map_bind]
  exact Option.bind_congr fun v _ => asIs?_eq t v

theorem bind_cast?_eq (node : Option Value) :
    node.bind (cast? t) = (node.bind t.cast?).map t.taken := by
  rw [Option.map_bind]
  exact Option.bind_congr fun v _ => cast?_eq t v

theorem assertAt_eq (p : Place) : assertAt t p = (p.assertGet t).map t.taken := by
  rw [assertAt, Place.assertGet, Place.optionalGet, bind_asIs?_eq]
  cases p.node.bind t.asIs? <;> rfl

theorem assertAlong_eq (p : PathArgument) (root : Value) :
    assertAlong t p root = (p.assertGet t root).map t.taken := by
  unfold assertAlong PathArgument.assertGet
  cases p with
  | error e => rfl
  | ok path =>
    cases PathArgument.resolve (.ok path) root with
    | error e => rfl
    | ok found =>
      dsimp only [Except.mapError, bind, Except.bind]
      rw [bind_asIs?_eq]
      cases found.bind t.asIs? <;> rfl

end Taken

theorem Lookup.taken_eq {t : Target} (l : Lookup t) (p : Place)
    (asserted : Except AccessError t.Carrier) :
    l.taken p.node (asserted.map t.taken) = (l.answer p asserted).map (·.map t.taken) := by
  cases l with
  | assertGet => cases asserted <;> rfl
  | _ =>
    simp only [Lookup.taken, Taken.bind_asIs?_eq, Taken.bind_cast?_eq, Taken.fallback_eq,
      Taken.given_eq, Option.getD_map]
    rfl

/-! ### Elements -/

namespace Taken

variable (t : Target)

theorem assertFrom_eq (i : Nat) (vs : List Value) :
    assertFrom t i vs = (Elements.assertFrom t i vs).map (·.map t.taken) := by
  induction vs generalizing i with
  | nil => rfl
  | cons v rest ih =>
    rw [assertFrom, Elements.assertFrom, assertAt_eq, ih]
    cases Place.assertGet t ⟨some v, Path.text [.required (.index i)]⟩ with
    | error e => rfl
    | ok x => cases Elements.assertFrom t (i + 1) rest <;> rfl

theorem map_some_map {α β : Type} (f : α → β) (xs : List α) :
    (xs.map f).map some = (xs.map some).map (Option.map f) := by
  rw [List.map_map, List.map_map]
  rfl

theorem each_eq (e : Elements) (adaptor : Adaptor) :
    each t e adaptor = (e.each t adaptor).map (·.map (·.map t.taken)) := by
  cases adaptor with
  | ensureCast =>
    have hcast : e.remaining.filterMap (cast? t) = (e.ensureCast t).map t.taken := by
      rw [Elements.ensureCast, List.map_filterMap]
      exact List.filterMap_congr fun v _ => cast?_eq t v
    rw [each, hcast, map_some_map]
    rfl
  | ensure =>
    have hensure : (e.remaining.map fun v => some ((asIs? t v).getD (fallback t))) =
        ((e.ensure t).map t.taken).map some := by
      rw [Elements.ensure_eq_map, Elements.optionalGet_eq_map]
      simp only [List.map_map]
      refine List.map_congr_left fun v _ => ?_
      rw [asIs?_eq, fallback_eq, Option.getD_map]
      rfl
    rw [each, hensure, map_some_map]
    rfl
  | optionalGet =>
    have hget : e.remaining.map (asIs? t) = (e.optionalGet t).map (·.map t.taken) := by
      rw [Elements.optionalGet_eq_map, List.map_map]
      exact List.map_congr_left fun v _ => asIs?_eq t v
    exact congrArg Except.ok hget
  | optionalCast =>
    have hcast : e.remaining.map (cast? t) = (e.optionalCast t).map (·.map t.taken) := by
      rw [Elements.optionalCast_eq_map, List.map_map]
      exact List.map_congr_left fun v _ => cast?_eq t v
    exact congrArg Except.ok hcast
  | assertGet =>
    rw [each, assertFrom_eq, Elements.each, Elements.assertGet]
    cases Elements.assertFrom t 0 e.remaining with
    | error e => rfl
    | ok xs => exact congrArg Except.ok (map_some_map t.taken xs)

theorem filterMap_wrapper? (found : List (Option t.Carrier)) :
    (found.map (·.map t.taken)).filterMap (·.bind wrapper?) =
      (found.filterMap (·.bind t.accessor?)).map Accessor.toWrapper := by
  rw [List.filterMap_map, List.map_filterMap]
  refine List.filterMap_congr fun x _ => ?_
  cases x with
  | none => rfl
  | some x => exact (Yield.ofCarrier t x).wrapper?_taken

end Taken

/-! ### Calls -/

theorem Target.map_taken (t : Target) (r : Except AccessError (Option t.Carrier)) :
    r.map (·.map t.taken) = (r.map (·.map (Yield.ofCarrier t))).map (·.map Yield.taken) := by
  cases r with
  | error e => rfl
  | ok found => cases found <;> rfl

namespace Wrapper

variable (a : Accessor)

/-- What is wrapped as a mapping has fields, and what is wrapped as a sequence has items. -/
theorem place?_toWrapper (address : Address) :
    a.toWrapper.place? address = .ok (a.place? address) := by
  cases a <;> cases address <;> rfl

theorem call?_lookup_toWrapper (address : Address) {t : Target} (l : Lookup t) :
    a.toWrapper.call? (.lookup address t l) =
      .ok ((a.call? (.lookup address t l)).map (·.map (·.map Yield.taken))) := by
  cases address with
  | path p =>
    have halong : l.taken (p.place a.toValue).node (Taken.assertAlong t p a.toValue) =
        ((l.alongPath p a.toValue).map (·.map (Yield.ofCarrier t))).map (·.map Yield.taken) := by
      rw [Taken.assertAlong_eq, Lookup.taken_eq, ← Target.map_taken, Lookup.alongPath]
    rw [call?, Accessor.call?, Accessor.shown_toWrapper]
    exact congrArg (Except.ok ∘ some) halong
  | _ =>
    have hplace (p : Place) : l.taken p.node (Taken.assertAt t p) =
        ((l.atPlace p).map (·.map (Yield.ofCarrier t))).map (·.map Yield.taken) := by
      rw [Taken.assertAt_eq, Lookup.taken_eq, ← Target.map_taken, Lookup.atPlace]
    simp only [call?, place?_toWrapper, Accessor.call?, Option.map_map]
    exact congrArg Except.ok (Option.map_congr fun p _ => hplace p)

/-- A call on a wrapper comes to its end and answers what the call on the accessor does. -/
theorem call?_toWrapper (c : Call) :
    a.toWrapper.call? c = .ok ((a.call? c).map (·.map (·.map Yield.taken))) := by
  have hnode (found : Option Value) : found.map (Taken.wrapper ∘ node) =
      (found.map (Yield.accessor ∘ .node)).map Yield.taken := by
    rw [Option.map_map]
    rfl
  cases c with
  | lookup address t l => exact call?_lookup_toWrapper a address l
  | get address =>
    simp only [call?, place?_toWrapper, Accessor.call?, Option.map_map]
    exact congrArg Except.ok (Option.map_congr fun p _ => congrArg Except.ok (hnode p.node))
  | find p =>
    rw [call?, Accessor.call?, Accessor.shown_toWrapper, hnode]
    rfl
  | resolve p =>
    rw [call?, Accessor.call?, Accessor.shown_toWrapper]
    cases p.resolve a.toValue with
    | error e => rfl
    | ok found => exact congrArg (Except.ok ∘ some ∘ Except.ok) (hnode found)
  | nth n =>
    cases a with
    | sequence s => exact congrArg (Except.ok ∘ some ∘ Except.ok) (hnode (s.elements.nth n))
    | _ => rfl

/-! ### Sessions -/

theorem reach_toWrapper (r : Request) :
    a.toWrapper.reach r = .ok ((a.reach r).map Accessor.toWrapper) := by
  cases r with
  | call c =>
    rw [reach, call?_toWrapper, Accessor.reach]
    cases a.call? c with
    | none => rfl
    | some answer =>
      cases answer with
      | error e => rfl
      | ok found =>
        cases found with
        | none => rfl
        | some y => cases y <;> rfl
  | node =>
    rw [reach, Accessor.shown_toWrapper]
    rfl
  | of c =>
    rw [reach, of_eq, Accessor.shown_toWrapper]
    rfl
  | ofValue? c =>
    rw [reach, ofValue?_eq, Accessor.shown_toWrapper, Accessor.reach]
    cases Accessor.ofValue? c a.toValue <;> rfl
  | elements moves =>
    cases a with
    | sequence s =>
      refine congrArg Except.ok ?_
      rw [Accessor.reach, List.map_map]
      rfl
    | _ => rfl
  | each moves t adaptor =>
    cases a with
    | sequence s =>
      have hreach : (Accessor.sequence s).toWrapper.reach (.each moves t adaptor) =
          .ok (((Taken.each t (s.elements.moved moves) adaptor).toOption.getD []).filterMap
            (·.bind Taken.wrapper?)) := rfl
      rw [hreach, Taken.each_eq, Accessor.reach]
      cases (s.elements.moved moves).each t adaptor with
      | error e => rfl
      | ok found => exact congrArg Except.ok (Taken.filterMap_wrapper? t found)
    | _ => rfl

theorem turn_toWrapper (reached : List Accessor) (r : Turn) :
    turn (reached.map Accessor.toWrapper) r =
      .ok ((Accessor.turn reached r).map Accessor.toWrapper) := by
  rw [turn, Accessor.turn, List.getElem?_map]
  cases reached[r.receiver]? with
  | none => rfl
  | some a =>
    rw [List.map_append]
    dsimp only [Option.map_some]
    rw [reach_toWrapper]
    rfl

/-- A session on wrapped nodes comes to its end, and reaches what it does on accessors. -/
theorem session_eq (doc : Value) (turns : List Turn) :
    session doc turns = .ok ((Accessor.session doc turns).map Accessor.toWrapper) := by
  have hrun (reached : List Accessor) : turns.foldlM turn (reached.map Accessor.toWrapper) =
      .ok ((turns.foldl Accessor.turn reached).map Accessor.toWrapper) := by
    induction turns generalizing reached with
    | nil => rfl
    | cons r rest ih =>
      rw [List.foldlM_cons, turn_toWrapper]
      exact ih (Accessor.turn reached r)
  exact hrun [.node doc]

end Wrapper
end DocShape
