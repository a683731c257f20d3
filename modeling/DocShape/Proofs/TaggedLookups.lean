import DocShape.Access.Call
import DocShape.Proofs.Extraction

/-!
Lookups by tag and lookups by target.

A tag is looked up as a node, and a target as what it takes out. The two families have defaults and
conversions of their own: the default node of a tag beside the fallback of a target, and the
converted node beside what is taken out of it.

* `Target.map_asIs?`, `Target.map_cast?`, `Target.toValue_fallback`: what a target takes out of a
  node, what it takes out after conversion and its fallback, each as a node.
* `Place.TagsAgree`: a place where both families answer alike.
* `tagsAgree_places`: every place is one, by key, by position and along every path.
-/

namespace DocShape

namespace Target

variable (t : Target)

/-! ### What targets take out, as nodes -/

/-- A node that carries the tag is taken out, and no other. -/
theorem map_asIs? (v : Value) :
    (t.asIs? v).map t.toValue = if v.tag = t.tag then some v.taken else none := by
  cases h : t.asIs? v with
  | some x =>
    have htag := (isSome_asIs?_iff t v).mp (by rw [h]; rfl)
    rw [if_pos htag, Option.map_some, toValue_of_asIs? h]
  | none =>
    have htag : ¬ v.tag = t.tag := by
      rw [← isSome_asIs?_iff, h]
      exact Bool.false_ne_true
    rw [if_neg htag, Option.map_none]

/-- After conversion the converted node is taken out, which carries the tag. -/
theorem map_cast? (v : Value) :
    (t.cast? v).map t.toValue = (coerce v t.tag).map fun o => (o.on v).taken := by
  rw [cast?_eq_bind]
  cases h : coerce v t.tag with
  | none => rfl
  | some o => rw [Option.bind_some, map_asIs?, if_pos (tag_of_coerce h), Option.map_some]

/-- The fallback is taken out of the default node of the tag. -/
theorem toValue_fallback : t.toValue t.fallback = t.tag.defaultValue.taken :=
  toValue_of_asIs? t.asIs?_fallback

end Target

namespace Place

variable (p : Place)

/-! ### Lookups by tag -/

/-- The node that the lookup by tag makes of the node at a place. -/
def castNode (tag : Tag) : Option Value :=
  p.node.bind fun v => (p.castTagged tag).map (·.on v)

theorem castNode_eq (tag : Tag) :
    p.castNode tag = p.node.bind fun v => (coerce v tag).map (·.on v) := by
  unfold castNode castTagged
  cases p.node <;> rfl

theorem isSome_castNode (tag : Tag) : (p.castNode tag).isSome = (p.castTagged tag).isSome := by
  unfold castNode castTagged
  cases p.node with
  | none => rfl
  | some v => rw [Option.bind_some, Option.bind_some, Option.isSome_map]

/-- The default of the tag stands in for a node that is missing or not converted. -/
theorem ensureCastValue_eq (tag : Tag) :
    p.ensureCastValue tag = (p.castNode tag).getD tag.defaultValue := by
  rw [ensureCastValue, castNode_eq]

theorem tag_ensureCastValue (tag : Tag) : (p.ensureCastValue tag).tag = tag := by
  rw [ensureCastValue_eq, castNode_eq]
  cases p.node with
  | none => exact tag.tag_defaultValue
  | some v =>
    rw [Option.bind_some]
    cases h : coerce v tag with
    | none => exact tag.tag_defaultValue
    | some o => exact tag_of_coerce h

/-! ### Lookups by target -/

variable (t : Target)

theorem map_optionalGet :
    (p.optionalGet t).map t.toValue = (p.getTagged t.tag).map Value.taken := by
  unfold optionalGet getTagged
  cases p.node with
  | none => rfl
  | some v =>
    rw [Option.bind_some, Target.map_asIs?, Option.filter_some, Tag.carriedBy]
    by_cases htag : v.tag = t.tag
    · rw [if_pos htag, if_pos (decide_eq_true htag), Option.map_some]
    · rw [if_neg htag, if_neg (by rwa [decide_eq_true_iff]), Option.map_none]

theorem map_optionalCast :
    (p.optionalCast t).map t.toValue = (p.castNode t.tag).map Value.taken := by
  rw [castNode_eq, optionalCast]
  cases p.node with
  | none => rfl
  | some v => rw [Option.bind_some, Option.bind_some, Target.map_cast?, Option.map_map]; rfl

theorem toValue_ensureCast : t.toValue (p.ensureCast t) = (p.ensureCastValue t.tag).taken :=
  calc t.toValue (p.ensureCast t)
    _ = ((p.optionalCast t).map t.toValue).getD (t.toValue t.fallback) :=
      (Option.getD_map t.toValue t.fallback (p.optionalCast t)).symm
    _ = ((p.castNode t.tag).map Value.taken).getD t.tag.defaultValue.taken := by
      rw [map_optionalCast, Target.toValue_fallback]
    _ = ((p.castNode t.tag).getD t.tag.defaultValue).taken := Option.getD_map _ _ _
    _ = (p.ensureCastValue t.tag).taken := by rw [ensureCastValue_eq]

/-! ### Agreement -/

/-- Whether the lookups by tag at a place deliver what the lookups by target do. A node that is
looked up by tag is compared with what is taken out of it. -/
structure TagsAgree : Prop where
  tag_ensured : ∀ tag, (p.ensureCastValue tag).tag = tag
  ensured : ∀ t : Target, t.toValue (p.ensureCast t) = (p.ensureCastValue t.tag).taken
  isSome_got : ∀ t : Target, (p.getTagged t.tag).isSome ↔ (p.optionalGet t).isSome
  got : ∀ t : Target, (p.optionalGet t).map t.toValue = (p.getTagged t.tag).map Value.taken
  isSome_cast : ∀ t : Target, (p.castTagged t.tag).isSome ↔ (p.optionalCast t).isSome
  cast : ∀ t : Target, (p.optionalCast t).map t.toValue = (p.castNode t.tag).map Value.taken

theorem tagsAgree : p.TagsAgree := by
  refine ⟨p.tag_ensureCastValue, p.toValue_ensureCast, ?_, p.map_optionalGet, ?_,
    p.map_optionalCast⟩
  · intro t
    have h := congrArg Option.isSome (p.map_optionalGet t)
    rw [Option.isSome_map, Option.isSome_map] at h
    rw [h]
  · intro t
    have h := congrArg Option.isSome (p.map_optionalCast t)
    rw [Option.isSome_map, Option.isSome_map, isSome_castNode] at h
    rw [h]

end Place

/-- By key in a mapping, by position in a sequence and along every path text, malformed ones
included, the lookups by tag deliver nodes with the tag, and they deliver what the lookups by target
do. Only a large word is taken out as something else than the node itself, which is a nearest
double. -/
theorem tagsAgree_places :
    (∀ (m : MapAccess) (key : String), (m.place key).TagsAgree) ∧
    (∀ (s : SeqAccess) (position : Nat), (s.place position).TagsAgree) ∧
    (∀ (a : Accessor) (text : String),
      (PathArgument.place (Path.parse text) a.toValue).TagsAgree) ∧
    ∀ w : Value, w.taken = w ∨ ∃ n x, w = .number (.large n) ∧ w.taken = .number (.float x) ∧
      x.IsNearest (Number.large n).units := by
  refine ⟨?_, ?_, ?_, Value.taken_eq_or⟩
  · intro m key
    exact (m.place key).tagsAgree
  · intro s position
    exact (s.place position).tagsAgree
  · intro a text
    exact (PathArgument.place (Path.parse text) a.toValue).tagsAgree

end DocShape
