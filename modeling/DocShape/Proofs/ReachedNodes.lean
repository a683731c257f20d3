import DocShape.Proofs.ElementCursors
import DocShape.Proofs.OptionalMarks
import DocShape.Proofs.WrappedAccessors

/-!
What accessors show.

A lookup takes a container out of the node at its place, which is kept by every conversion to a
container, or it stands in the empty container or the default of the caller. So a request leads from
a node to nodes within it, save for these two. By induction over the turns, a session that begins
with a document shows what stands in it at some keys and positions, empty containers, and what
stands in the defaults that its requests gave.

* `Value.Within`: a node that stands in another one, at some keys and positions.
* `Request.LeadsTo`: the nodes that a request may lead to from the one it is made on.
* `Accessor.leadsTo_reach`, `Accessor.comesFrom_session`: one request, and a session.
* `Wrapper.IsSound`: a node that is what it is wrapped as.
* `session_shows_document`: sessions on wrapped nodes.
-/

namespace DocShape

/-! ### Nodes within nodes -/

namespace Value

/-- Whether a node stands in another one, at the end of some keys and positions. -/
def Within (w v : Value) : Prop :=
  ∃ way : List Step, v.find? (way.map .required) = some w

variable {u v w : Value}

theorem Within.refl (v : Value) : v.Within v := ⟨[], rfl⟩

theorem Within.trans (h : u.Within v) (h' : v.Within w) : u.Within w := by
  obtain ⟨way, hway⟩ := h
  obtain ⟨before, hbefore⟩ := h'
  refine ⟨before ++ way, ?_⟩
  rw [List.map_append, find?_append, hbefore]
  exact hway

theorem within_of_lookup? {step : Step} (h : step.lookup? v = some w) : w.Within v :=
  ⟨[step], (find?_required step v).trans h⟩

theorem within_of_mem {items : List Value} (h : w ∈ items) : w.Within (.array items) := by
  obtain ⟨i, hi⟩ := List.mem_iff_getElem?.mp h
  have hlookup : (Step.index i).lookup? (.array items) = some w := hi
  exact within_of_lookup? hlookup

/-- The marks of a path do not lead elsewhere. -/
theorem within_of_find? {p : Path} (h : v.find? p = some w) : w.Within v := by
  refine ⟨p.map Segment.step, ?_⟩
  rw [List.map_map]
  exact (find?_iff_unmarked.mp h).1

/-- Nothing but itself stands in an empty container. -/
theorem eq_empty_of_within {c : Container} (h : w.Within c.empty) : w = c.empty := by
  obtain ⟨way, hway⟩ := h
  cases way with
  | nil => exact (Option.some.inj hway).symm
  | cons step rest =>
    have hnone : step.lookup? c.empty = none := by
      cases c <;> cases step <;> rfl
    rw [List.map_cons, find?, walk_required_of_none hnone] at hway
    cases hway

end Value

theorem PathArgument.within_of_find? {p : PathArgument} {v w : Value}
    (h : p.find? v = some w) : w.Within v := by
  cases p with
  | error e => cases h
  | ok path => exact Value.within_of_find? h

theorem PathArgument.within_of_resolve {p : PathArgument} {v w : Value}
    (h : p.resolve v = .ok (some w)) : w.Within v := by
  refine within_of_find? (p := p) ?_
  rw [find?_eq_join_resolve, h]
  rfl

/-! ### Containers that are taken out -/

theorem Value.taken_of_container {v : Value} (h : v.tag.isContainer) : v.taken = v := by
  cases v with
  | number n => cases n <;> cases h
  | _ => rfl

namespace Target

variable {t : Target} {c : Container}

theorem toValue_of_accessor? {x : t.Carrier} {a : Accessor} (h : t.accessor? x = some a) :
    (∃ c, t.container? = some c) ∧ a.toValue = t.toValue x := by
  cases t with
  | mapping =>
    cases h
    exact ⟨⟨.mapping, rfl⟩, rfl⟩
  | sequence =>
    cases h
    exact ⟨⟨.sequence, rfl⟩, rfl⟩
  | _ => cases h

theorem toValue_fallback_of_container (h : t.container? = some c) :
    t.toValue t.fallback = c.empty := by
  cases t <;> cases h <;> rfl

/-- A container that is taken out after conversion is the node itself. -/
theorem toValue_of_cast?_of_container (h : t.container? = some c) {v : Value} {x : t.Carrier}
    (hx : t.cast? v = some x) : t.toValue x = v := by
  have hcontainer : t.tag.isContainer := by
    cases t <;> cases h <;> rfl
  rw [cast?_eq_bind] at hx
  obtain ⟨o, ho, hx⟩ := Option.bind_eq_some_iff.mp hx
  have htag := tag_eq_of_coerce_container hcontainer ho
  rw [coerce_eq_kept_iff.mpr htag] at ho
  cases ho
  rw [toValue_of_asIs? hx, Outcome.on_kept, Value.taken_of_container (htag ▸ hcontainer)]

end Target

/-! ### Requests -/

/-- The default that a lookup is given, if it is given one. -/
def Lookup.default? {t : Target} : Lookup t → Option t.Carrier
  | .ensureOr x | .ensureCastOr x => some x
  | _ => none

/-- The container that a request gives as a default, if it gives one. -/
def Request.default? : Request → Option Value
  | .call (.lookup _ t l) => t.container?.bind fun _ => l.default?.map t.toValue
  | _ => none

/-- Whether a request may lead from one node to another: to what stands in it, to an empty container
or to its own default. -/
def Request.LeadsTo (r : Request) (v w : Value) : Prop :=
  w.Within v ∨ (∃ c : Container, w = c.empty) ∨ r.default? = some w

theorem Place.optionalCast_of_optionalGet {p : Place} {t : Target} {x : t.Carrier}
    (h : p.optionalGet t = some x) : p.optionalCast t = some x := by
  obtain ⟨v, hv, hx⟩ := Option.bind_eq_some_iff.mp h
  exact Option.bind_eq_some_iff.mpr ⟨v, hv, Target.cast?_of_asIs? hx⟩

theorem eq_some_or_eq_of_getD {α : Type} {o : Option α} {d x : α} (h : o.getD d = x) :
    o = some x ∨ x = d := by
  rcases Option.getD_eq_iff.mp h with hsome | ⟨-, hd⟩
  · exact .inl hsome
  · exact .inr hd.symm

/-- What a lookup answers was taken out of the node, or it is the fallback or the default. -/
theorem Lookup.answer_eq_ok_some {t : Target} {l : Lookup t} {p : Place}
    {asserted : Except AccessError t.Carrier} {x : t.Carrier}
    (hasserted : asserted = .ok x → p.optionalGet t = some x)
    (h : l.answer p asserted = .ok (some x)) :
    p.optionalCast t = some x ∨ x = t.fallback ∨ l.default? = some x := by
  have hget : p.optionalGet t = some x → p.optionalCast t = some x :=
    Place.optionalCast_of_optionalGet
  have hdefault {d : t.Carrier} (hd : x = d) : x = t.fallback ∨ some d = some x :=
    .inr (congrArg some hd.symm)
  cases l with
  | ensure =>
    exact (eq_some_or_eq_of_getD (Option.some.inj (Except.ok.inj h))).imp hget .inl
  | ensureOr d =>
    exact (eq_some_or_eq_of_getD (Option.some.inj (Except.ok.inj h))).imp hget hdefault
  | ensureCast =>
    exact (eq_some_or_eq_of_getD (Option.some.inj (Except.ok.inj h))).imp_right .inl
  | ensureCastOr d =>
    exact (eq_some_or_eq_of_getD (Option.some.inj (Except.ok.inj h))).imp_right hdefault
  | optionalGet => exact .inl (hget (Except.ok.inj h))
  | tryGet => exact .inl (hget (Except.ok.inj h))
  | optionalCast => exact .inl (Except.ok.inj h)
  | assertGet =>
    cases asserted with
    | error e => cases h
    | ok y =>
      cases h
      exact .inl (hget (hasserted rfl))

/-- What an adaptor delivers was taken out of one of the elements, or it is the fallback. -/
theorem Elements.each_eq_ok {t : Target} {e : Elements} {adaptor : Adaptor}
    {found : List (Option t.Carrier)} (h : e.each t adaptor = .ok found) {x : t.Carrier}
    (hx : some x ∈ found) : (∃ v ∈ e.remaining, t.cast? v = some x) ∨ x = t.fallback := by
  have hget (hmem : some x ∈ e.remaining.map t.asIs?) : ∃ v ∈ e.remaining, t.cast? v = some x := by
    obtain ⟨v, hv, hxv⟩ := List.mem_map.mp hmem
    exact ⟨v, hv, Target.cast?_of_asIs? hxv⟩
  cases adaptor with
  | ensureCast =>
    cases h
    obtain ⟨y, hy, hxy⟩ := List.mem_map.mp hx
    cases hxy
    exact .inl (List.mem_filterMap.mp hy)
  | ensure =>
    cases h
    obtain ⟨y, hy, hxy⟩ := List.mem_map.mp hx
    cases hxy
    obtain ⟨v, hv, hxv⟩ := List.mem_map.mp hy
    refine (eq_some_or_eq_of_getD hxv).imp_left fun hsome => ?_
    exact ⟨v, hv, Target.cast?_of_asIs? hsome⟩
  | optionalGet =>
    cases h
    exact .inl (hget hx)
  | optionalCast =>
    cases h
    exact .inl (List.mem_map.mp hx)
  | assertGet =>
    rw [each] at h
    cases hall : e.assertGet t with
    | error e =>
      rw [hall] at h
      cases h
    | ok xs =>
      rw [hall] at h
      cases h
      have hmap : e.remaining.map t.asIs? = xs.map some := assertFrom_eq_ok_iff.mp hall
      exact .inl (hget (hmap ▸ hx))

/-- The elements that some moves leave are elements of the sequence. -/
theorem Elements.mem_of_mem_moved {e : Elements} {moves : List Move} {v : Value}
    (h : v ∈ (e.moved moves).remaining) : v ∈ e.remaining := by
  have hstart : ∀ e' ∈ (ElementWalk.start e).cursor :: (ElementWalk.start e).kept,
      e'.remaining <:+: e.remaining := by
    intro e' he'
    cases List.mem_singleton.mp he'
    exact List.infix_rfl
  exact (ElementWalk.infix_after hstart moves _ List.mem_cons_self).subset h

theorem exists_of_map_map_eq_ok {α β ε : Type} {f : α → β} {r : Except ε (Option α)} {y : β}
    (h : r.map (·.map f) = .ok (some y)) : ∃ x, r = .ok (some x) ∧ f x = y := by
  cases r with
  | error e => cases h
  | ok found =>
    obtain ⟨x, rfl, hx⟩ := Option.map_eq_some_iff.mp (Except.ok.inj h)
    exact ⟨x, rfl, hx⟩

namespace Accessor

variable {a b : Accessor}

/-- The node at a place stands in the node that the accessor shows. -/
theorem within_of_place? {address : Address} {p : Place} (h : a.place? address = some p) {v : Value}
    (hv : p.node = some v) : v.Within a.toValue := by
  cases address with
  | here =>
    cases h
    cases hv
    exact .refl _
  | key k =>
    cases a with
    | mapping m =>
      cases h
      have hlookup : (Step.key k).lookup? m.toValue = some v := hv
      exact Value.within_of_lookup? hlookup
    | _ => cases h
  | index i =>
    cases a with
    | sequence s =>
      cases h
      have hlookup : (Step.index i).lookup? s.toValue = some v := hv
      exact Value.within_of_lookup? hlookup
    | _ => cases h
  | path p =>
    cases h
    exact PathArgument.within_of_find? hv

/-- A lookup that takes out an accessor takes it out of the node, or it has it as its fallback or
its default. -/
theorem leadsTo_lookup {address : Address} {t : Target} {l : Lookup t} {p : Place}
    {asserted : Except AccessError t.Carrier} {x : t.Carrier}
    (hnode : ∀ v, p.node = some v → v.Within a.toValue)
    (hasserted : asserted = .ok x → p.optionalGet t = some x)
    (h : l.answer p asserted = .ok (some x)) (hb : t.accessor? x = some b) :
    (Request.call (.lookup address t l)).LeadsTo a.toValue b.toValue := by
  obtain ⟨⟨c, hc⟩, hvalue⟩ := Target.toValue_of_accessor? hb
  rw [hvalue]
  rcases Lookup.answer_eq_ok_some hasserted h with hcast | rfl | hdefault
  · obtain ⟨v, hv, hx⟩ := Option.bind_eq_some_iff.mp hcast
    rw [Target.toValue_of_cast?_of_container hc hx]
    exact .inl (hnode v hv)
  · exact .inr (.inl ⟨c, Target.toValue_fallback_of_container hc⟩)
  · refine .inr (.inr ?_)
    rw [Request.default?, hc, hdefault]
    rfl

theorem accessor?_of_ofCarrier {t : Target} {x : t.Carrier}
    (h : Yield.ofCarrier t x = .accessor b) : t.accessor? x = some b := by
  rw [Target.accessor?, h, Yield.accessor?]

theorem leadsTo_call {c : Call} (h : a.call? c = some (.ok (some (.accessor b)))) :
    (Request.call c).LeadsTo a.toValue b.toValue := by
  have hnode {found : Option Value}
      (hfound : found.map (Yield.accessor ∘ node) = some (.accessor b)) :
      found = some b.toValue := by
    obtain ⟨v, rfl, hv⟩ := Option.map_eq_some_iff.mp hfound
    cases hv
    rfl
  cases c with
  | lookup address t l =>
    cases address with
    | path p =>
      rw [call?] at h
      obtain ⟨x, hx, hb⟩ := exists_of_map_map_eq_ok (Option.some.inj h)
      -- A walk has reasons of its own to fail, but asserts only what the optional lookup gets.
      exact leadsTo_lookup (fun v hv => PathArgument.within_of_find? hv)
        PathArgument.assertGet_eq_ok_iff.mp hx (accessor?_of_ofCarrier hb)
    | _ =>
      simp only [call?] at h
      obtain ⟨p, hp, hanswer⟩ := Option.map_eq_some_iff.mp h
      obtain ⟨x, hx, hb⟩ := exists_of_map_map_eq_ok hanswer
      exact leadsTo_lookup (fun v hv => within_of_place? hp hv) Place.assertGet_eq_ok_iff.mp hx
        (accessor?_of_ofCarrier hb)
  | get address =>
    obtain ⟨p, hp, hanswer⟩ := Option.map_eq_some_iff.mp h
    exact .inl (within_of_place? hp (hnode (Except.ok.inj hanswer)))
  | find p =>
    exact .inl (PathArgument.within_of_find? (hnode (Except.ok.inj (Option.some.inj h))))
  | resolve p =>
    obtain ⟨v, hv, hb⟩ := exists_of_map_map_eq_ok (Option.some.inj h)
    cases hb
    exact .inl (PathArgument.within_of_resolve hv)
  | nth n =>
    cases a with
    | sequence s =>
      have hv := hnode (Except.ok.inj (Option.some.inj h))
      exact .inl (Value.within_of_mem (List.mem_of_getElem? hv))
    | _ => cases h

theorem call?_of_mem_reach {c : Call} (h : b ∈ a.reach (.call c)) :
    a.call? c = some (.ok (some (.accessor b))) := by
  obtain ⟨answer, hcall, hanswer⟩ := Option.bind_eq_some_iff.mp (Option.mem_toList.mp h)
  obtain ⟨y, hy, hb⟩ := Option.bind_eq_some_iff.mp hanswer
  cases answer with
  | error e => cases hy
  | ok found =>
    have hfound : found = some y := hy
    cases y with
    | scalar v => cases hb
    | accessor b' =>
      cases hb
      rw [hcall, hfound]

theorem toValue_of (c : Container) (v : Value) :
    (of c v).toValue = v ∨ (of c v).toValue = c.empty := by
  cases c with
  | mapping =>
    cases v with
    | object fields => exact .inl rfl
    | _ => exact .inr rfl
  | sequence =>
    cases v with
    | array items => exact .inl rfl
    | _ => exact .inr rfl

theorem toValue_of_ofValue? {c : Container} {v : Value} (h : ofValue? c v = some b) :
    b.toValue = v := by
  cases c <;> cases v <;> cases h <;> rfl

/-- An adaptor delivers elements that are containers, or empty containers in the place of others. -/
theorem leadsTo_each {s : SeqAccess} {moves : List Move} {t : Target} {adaptor : Adaptor}
    (h : b ∈ (Accessor.sequence s).reach (.each moves t adaptor)) :
    (Request.each moves t adaptor).LeadsTo s.toValue b.toValue := by
  obtain ⟨found, hfound, hb⟩ := List.mem_filterMap.mp h
  obtain ⟨x, rfl, hx⟩ := Option.bind_eq_some_iff.mp hb
  obtain ⟨⟨c, hc⟩, hvalue⟩ := Target.toValue_of_accessor? hx
  rw [hvalue]
  cases heach : (s.elements.moved moves).each t adaptor with
  | error e =>
    rw [heach] at hfound
    cases hfound
  | ok xs =>
    rw [heach] at hfound
    rcases Elements.each_eq_ok heach hfound with ⟨v, hv, hcast⟩ | rfl
    · rw [Target.toValue_of_cast?_of_container hc hcast]
      exact .inl (Value.within_of_mem (Elements.mem_of_mem_moved hv))
    · exact .inr (.inl ⟨c, Target.toValue_fallback_of_container hc⟩)

/-- A request leads to nodes within the one it is made on, to empty containers and to its own
default. -/
theorem leadsTo_reach {r : Request} (h : b ∈ a.reach r) : r.LeadsTo a.toValue b.toValue := by
  cases r with
  | call c => exact leadsTo_call (call?_of_mem_reach h)
  | node =>
    cases List.mem_singleton.mp h
    exact .inl (.refl _)
  | of c =>
    cases List.mem_singleton.mp h
    rcases toValue_of c a.toValue with hself | hempty
    · rw [hself]
      exact .inl (.refl _)
    · exact .inr (.inl ⟨c, hempty⟩)
  | ofValue? c =>
    rw [toValue_of_ofValue? (Option.mem_toList.mp h)]
    exact .inl (.refl _)
  | elements moves =>
    cases a with
    | sequence s =>
      obtain ⟨v, hv, rfl⟩ := List.mem_map.mp h
      exact .inl (Value.within_of_mem (Elements.mem_of_mem_moved hv))
    | _ => cases h
  | each moves t adaptor =>
    cases a with
    | sequence s => exact leadsTo_each h
    | _ => cases h

end Accessor

/-! ### Sessions -/

/-- The defaults that the requests of a session give. -/
def defaults (turns : List Turn) : List Value :=
  turns.filterMap (·.request.default?)

/-- Whether a node stands in a document or in one of some defaults, or is an empty container. A
default is shown as it is given, and what stands in it by the requests that are made on it. -/
def Value.ComesFrom (v doc : Value) (defaults : List Value) : Prop :=
  v.Within doc ∨ (∃ c : Container, v = c.empty) ∨ ∃ d ∈ defaults, v.Within d

section ComesFrom

variable {doc : Value} {given : List Value}

theorem Value.ComesFrom.within {v w : Value} (h : v.ComesFrom doc given) (hw : w.Within v) :
    w.ComesFrom doc given := by
  rcases h with hdoc | ⟨c, rfl⟩ | ⟨d, hd, hv⟩
  · exact .inl (hw.trans hdoc)
  · exact .inr (.inl ⟨c, eq_empty_of_within hw⟩)
  · exact .inr (.inr ⟨d, hd, hw.trans hv⟩)

theorem Request.LeadsTo.comesFrom {r : Request} {v w : Value} (h : r.LeadsTo v w)
    (hv : v.ComesFrom doc given) (hr : ∀ d, r.default? = some d → d ∈ given) :
    w.ComesFrom doc given := by
  rcases h with hw | hempty | hdefault
  · exact hv.within hw
  · exact .inr (.inl hempty)
  · exact .inr (.inr ⟨w, hr w hdefault, .refl w⟩)

namespace Accessor

theorem comesFrom_turn {reached : List Accessor} {r : Turn}
    (h : ∀ a ∈ reached, a.toValue.ComesFrom doc given)
    (hr : ∀ d, r.request.default? = some d → d ∈ given) :
    ∀ a ∈ turn reached r, a.toValue.ComesFrom doc given := by
  rw [turn]
  cases hreceiver : reached[r.receiver]? with
  | none => exact h
  | some a =>
    have ha := h a (List.mem_of_getElem? hreceiver)
    intro b hb
    rcases List.mem_append.mp hb with hbefore | hnew
    · exact h b hbefore
    · exact (leadsTo_reach hnew).comesFrom ha hr

/-- What is reached in a session comes from the document and the defaults. -/
theorem comesFrom_session (doc : Value) (turns : List Turn) :
    ∀ a ∈ session doc turns, a.toValue.ComesFrom doc (defaults turns) := by
  refine List.foldlRecOn (motive := fun reached : List Accessor =>
    ∀ a ∈ reached, a.toValue.ComesFrom doc (defaults turns)) turns turn ?_ fun reached h r hr => ?_
  · intro a ha
    cases List.mem_singleton.mp ha
    exact .inl (.refl doc)
  · exact comesFrom_turn h fun d hd => List.mem_filterMap.mpr ⟨r, hr, hd⟩

end Accessor
end ComesFrom

/-! ### Wrapped nodes -/

/-- Whether a wrapped node is what it is wrapped as, so that it has the fields or the items. -/
structure Wrapper.IsSound (w : Wrapper) : Prop where
  mapping : w.container = some .mapping →
    ∃ fields, w.shown = .object fields ∧ w.fields = .ok fields
  sequence : w.container = some .sequence →
    ∃ items, w.shown = .array items ∧ w.items = .ok items

theorem Accessor.isSound_toWrapper (a : Accessor) : a.toWrapper.IsSound := by
  cases a with
  | mapping m => exact ⟨fun _ => ⟨m.fields, rfl, rfl⟩, nofun⟩
  | sequence s => exact ⟨nofun, fun _ => ⟨s.items, rfl, rfl⟩⟩
  | node v => exact ⟨nofun, nofun⟩

/-- Every session on wrapped nodes comes to its end and reaches what it does on accessors. What is
wrapped is always what it is wrapped as, and it stands in the document or in a default that some
request gave, or it is an empty container. Any further request made there comes to its end too, and
leads to what stands in the node it is made on, to empty containers and to its own default. -/
theorem session_shows_document (doc : Value) (turns : List Turn) :
    ∃ reached, Wrapper.session doc turns = .ok reached ∧
      reached = (Accessor.session doc turns).map Accessor.toWrapper ∧
      ∀ w ∈ reached, w.IsSound ∧ w.shown.ComesFrom doc (defaults turns) ∧
        ∀ r : Request, ∃ more, w.reach r = .ok more ∧
          ∀ u ∈ more, u.IsSound ∧ r.LeadsTo w.shown u.shown := by
  refine ⟨_, Wrapper.session_eq doc turns, rfl, fun w hw => ?_⟩
  obtain ⟨a, ha, rfl⟩ := List.mem_map.mp hw
  rw [a.shown_toWrapper]
  refine ⟨a.isSound_toWrapper, Accessor.comesFrom_session doc turns a ha, fun r => ?_⟩
  refine ⟨_, Wrapper.reach_toWrapper a r, fun u hu => ?_⟩
  obtain ⟨b, hb, rfl⟩ := List.mem_map.mp hu
  rw [b.shown_toWrapper]
  exact ⟨b.isSound_toWrapper, Accessor.leadsTo_reach hb⟩

/-- The pets are reached as a sequence, the owner who is missing as the default, and the first pet,
which is a string, as an empty mapping. -/
theorem session_shows_document_pets :
    Wrapper.session (.object [("pets", .array [.string "Rex"])])
        [⟨0, .of .mapping⟩, ⟨1, .call (.lookup (.key "pets") .sequence .ensure)⟩,
          ⟨1, .call (.lookup (.key "owner") .mapping (.ensureOr ⟨[("name", .string "Ann")]⟩))⟩,
          ⟨2, .each [] .mapping .ensure⟩] =
      .ok [.node (.object [("pets", .array [.string "Rex"])]),
        ⟨some .mapping, .object [("pets", .array [.string "Rex"])]⟩,
        ⟨some .sequence, .array [.string "Rex"]⟩,
        ⟨some .mapping, .object [("name", .string "Ann")]⟩, ⟨some .mapping, .object []⟩] ∧
    Wrapper.IsSound ⟨some .sequence, .array [.string "Rex"]⟩ ∧
    (Value.array [.string "Rex"]).ComesFrom (.object [("pets", .array [.string "Rex"])])
      [.object [("name", .string "Ann")]] := by
  obtain ⟨reached, hrun, -, hall⟩ :=
    session_shows_document (.object [("pets", .array [.string "Rex"])])
      [⟨0, .of .mapping⟩, ⟨1, .call (.lookup (.key "pets") .sequence .ensure)⟩,
        ⟨1, .call (.lookup (.key "owner") .mapping (.ensureOr ⟨[("name", .string "Ann")]⟩))⟩,
        ⟨2, .each [] .mapping .ensure⟩]
  cases hrun
  obtain ⟨hsound, hfrom, -⟩ := hall ⟨some .sequence, .array [.string "Rex"]⟩
    (List.mem_of_getElem? (i := 2) rfl)
  exact ⟨rfl, hsound, hfrom⟩

end DocShape
