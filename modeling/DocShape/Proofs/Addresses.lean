import DocShape.Access.Call
import DocShape.Proofs.FirstMissing

/-!
The ways to a node in a container agree.

A key of a mapping, a position in a sequence, the path that they are written as and the node itself
each have the whole family of lookups. The places that they lead to hold the same node, and the
lookups see nothing else of a place. Only asserting does: by key or position and on the node itself
it has a place to report, and along a path a walk that may be broken before.

* `Place.Agrees`: lookups at two places that differ in nothing but their reports.
* `Place.AgreesWith`: a place in a container, and a path there.
* `agreesWith_of_step`: what a plain step leads to agrees with the path that it is written as.
* `place_agreesWith`: mappings by key, and sequences by position.
-/

namespace DocShape

/-! ### Places that hold the same node -/

/-- Whether lookups at two places differ in nothing but what they report. -/
structure Place.Agrees (p q : Place) : Prop where
  node : p.node = q.node
  lookup : ∀ {t : Target} (l : Lookup t), l ≠ .assertGet → l.atPlace p = l.atPlace q
  castValue : ∀ tag, p.ensureCastValue tag = q.ensureCastValue tag
  asserted : ∀ (t : Target) (x : t.Carrier), p.assertGet t = .ok x ↔ q.assertGet t = .ok x

namespace Place

variable {p q : Place} {t : Target}

/-- Asserting at a place gives what the optional lookup gives. -/
theorem assertGet_eq_ok_iff {x : t.Carrier} : p.assertGet t = .ok x ↔ p.optionalGet t = some x := by
  unfold assertGet
  cases p.optionalGet t with
  | none => exact iff_of_false nofun nofun
  | some y => rw [Except.ok.injEq, Option.some.injEq]

/-- Else it reports the place, and the kind of the node there. -/
theorem assertGet_eq_error {e : AccessError} (h : p.assertGet t = .error e) :
    e = .assertion p.location t.tag (p.node.map Value.tag) := by
  unfold assertGet at h
  cases hget : p.optionalGet t with
  | none =>
    rw [hget] at h
    exact (Except.error.inj h).symm
  | some x =>
    rw [hget] at h
    cases h

theorem optionalGet_congr (h : p.node = q.node) (t : Target) :
    p.optionalGet t = q.optionalGet t := by
  rw [optionalGet, optionalGet, h]

theorem optionalCast_congr (h : p.node = q.node) (t : Target) :
    p.optionalCast t = q.optionalCast t := by
  rw [optionalCast, optionalCast, h]

theorem agrees_of_node_eq (h : p.node = q.node) : p.Agrees q := by
  refine ⟨h, ?_, ?_, ?_⟩
  · intro t l hl
    cases l with
    | assertGet => exact absurd rfl hl
    | _ =>
      simp only [Lookup.atPlace, Lookup.answer, ensure, ensureOr, ensureCast, ensureCastOr, tryGet,
        optionalGet_congr h, optionalCast_congr h]
  · intro tag
    rw [ensureCastValue, ensureCastValue, h]
  · intro t x
    rw [assertGet_eq_ok_iff, assertGet_eq_ok_iff, optionalGet_congr h]

end Place

/-! ### Steps and the paths that they are written as -/

theorem Value.find?_required (step : Step) (v : Value) :
    v.find? [.required step] = step.lookup? v := by
  cases h : step.lookup? v with
  | none => rw [find?, walk_required_of_none h]
  | some next => exact find?_required_of_some h

theorem PathArgument.resolve_required_of_none {step : Step} {v : Value}
    (h : step.lookup? v = none) :
    resolve (.ok [.required step]) v = .error (.absent (Path.text [.required step])) := by
  have hmiss : (Segment.required step).lookup? v = none := h
  rw [resolve, Value.resolve_cons_of_none hmiss]
  rfl

theorem Path.parse_text_required {step : Step} (h : step.Plain) :
    parse (text [.required step]) = .ok [.required step] := by
  refine parse_text (List.cons_ne_nil _ _) fun s hs => ?_
  rw [List.mem_singleton.mp hs]
  exact h

theorem Path.toList_text_required (step : Step) : (text [.required step]).toList = step.chars := by
  rw [text, String.toList_ofList, chars, List.flatMap_nil, List.append_nil]
  exact List.append_nil step.chars

theorem Path.text_required_key (key : String) : text [.required (.key key)] = key := by
  rw [← String.toList_inj, toList_text_required, Step.chars]

theorem Path.text_required_index (position : Nat) :
    text [.required (.index position)] = "[" ++ toString position ++ "]" := by
  rw [← String.toList_inj, toList_text_required, String.toList_append, String.toList_append,
    Nat.toString_eq_repr, Nat.repr_eq_ofList_toDigits,
    @String.toList_ofList (Nat.toDigits 10 position)]
  rfl

/-- Whether a path leads from a container to a place in it. Lookups along the path and at the place
answer alike, and like those on the node that is there. Asserting differs in its reports: at the
place it reports the kind of the node, and along the path that nothing is there. -/
structure Place.AgreesWith (p : Place) (path : PathArgument) (root : Value) : Prop where
  node : p.node = path.find? root
  lookup : ∀ {t : Target} (l : Lookup t), l ≠ .assertGet → l.atPlace p = l.alongPath path root
  castValue : ∀ tag, p.ensureCastValue tag = (path.place root).ensureCastValue tag
  asserted : ∀ (t : Target) (x : t.Carrier), p.assertGet t = .ok x ↔ path.assertGet t root = .ok x
  onNode : ∀ v, p.node = some v → p.Agrees (.ofNode v)
  refused : ∀ (t : Target) (e : AccessError), p.assertGet t = .error e →
    e = .assertion p.location t.tag (p.node.map Value.tag)
  missing : p.node = none → ∀ t : Target,
    p.assertGet t = .error (.assertion p.location t.tag none) ∧
      path.assertGet t root = .error (.absent p.location)

/-- What a plain step leads to agrees with the path that the step is written as. -/
theorem Place.agreesWith_of_step {p : Place} {step : Step} {root : Value} (hplain : step.Plain)
    (hnode : p.node = step.lookup? root) (hlocation : p.location = Path.text [.required step]) :
    p.AgreesWith (Path.parse p.location) root := by
  have hpath : Path.parse p.location = .ok [.required step] := by
    rw [hlocation, Path.parse_text_required hplain]
  have hfind : p.node = PathArgument.find? (.ok [.required step]) root := by
    rw [hnode, PathArgument.find?, Value.find?_required]
  have hagrees : p.Agrees (PathArgument.place (.ok [.required step]) root) :=
    agrees_of_node_eq hfind
  rw [hpath]
  refine ⟨hfind, ?_, hagrees.castValue, ?_, ?_, fun t e => assertGet_eq_error, ?_⟩
  · intro t l hl
    rw [Lookup.alongPath_eq_atPlace hl]
    exact hagrees.lookup l hl
  · intro t x
    rw [hagrees.asserted, assertGet_eq_ok_iff, PathArgument.assertGet_eq_ok_iff]
  · intro v hv
    exact agrees_of_node_eq hv
  · intro hmissing t
    constructor
    · rw [assertGet, optionalGet, hmissing]
      rfl
    · rw [hnode] at hmissing
      have hbroken := PathArgument.resolve_required_of_none hmissing
      rw [hlocation]
      exact PathArgument.assertGet_of_resolve_error hbroken t

/-! ### Mappings and sequences -/

/-- Lookups by a plain key in a mapping, by a position in a sequence, along the path text that the
key or the position is written as, and on the node that is found answer alike. -/
theorem place_agreesWith :
    (∀ (m : MapAccess) (key : String), PlainKey key →
      (m.place key).location = key ∧ (m.place key).AgreesWith (Path.parse key) m.toValue) ∧
    ∀ (s : SeqAccess) (position : Nat), position < UInt64.size →
      (s.place position).location = "[" ++ toString position ++ "]" ∧
        (s.place position).AgreesWith (Path.parse ("[" ++ toString position ++ "]")) s.toValue := by
  constructor
  · intro m key h
    have hplain : (Step.key key).Plain := h
    exact ⟨rfl, Place.agreesWith_of_step hplain rfl (Path.text_required_key key).symm⟩
  · intro s position h
    have hplain : (Step.index position).Plain := h
    have hlocation : (s.place position).location = "[" ++ toString position ++ "]" :=
      Path.text_required_index position
    refine ⟨hlocation, ?_⟩
    rw [← hlocation]
    exact Place.agreesWith_of_step hplain rfl rfl

/-- Rex has a name, which is the same string along the path, and no age, of which a lookup by key
reports that an integer was expected and a walk that there is nothing. The first of two names is at
`[0]`. -/
theorem place_agreesWith_name_and_age :
    ((MapAccess.mk [("name", .string "Rex")]).place "name").assertGet .string = .ok "Rex" ∧
      PathArgument.assertGet .string (Path.parse "name") (.object [("name", .string "Rex")]) =
        .ok "Rex" ∧
      ((MapAccess.mk [("name", .string "Rex")]).place "age").assertGet .integer =
        .error (.assertion "age" .integer none) ∧
      PathArgument.assertGet .integer (Path.parse "age") (.object [("name", .string "Rex")]) =
        .error (.absent "age") ∧
      ((SeqAccess.mk [.string "Rex", .string "Dinah"]).place 0).AgreesWith (Path.parse "[0]")
        (.array [.string "Rex", .string "Dinah"]) := by
  obtain ⟨hkey, hposition⟩ := place_agreesWith
  have hname := (hkey ⟨[("name", .string "Rex")]⟩ "name" (by simp [PlainKey])).2
  have hage := (hkey ⟨[("name", .string "Rex")]⟩ "age" (by simp [PlainKey])).2
  have hfound : ((MapAccess.mk [("name", .string "Rex")]).place "name").assertGet .string =
      .ok "Rex" := rfl
  obtain ⟨hbyKey, halong⟩ := hage.missing rfl .integer
  exact ⟨hfound, (hname.asserted .string "Rex").mp hfound, hbyKey, halong,
    (hposition ⟨[.string "Rex", .string "Dinah"]⟩ 0 (by decide)).2⟩

end DocShape
