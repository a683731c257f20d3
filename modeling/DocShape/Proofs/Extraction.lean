import DocShape.Access.Target
import DocShape.Proofs.Conversion
import DocShape.Proofs.NumberValue

/-!
Conversions, targets and tags decide the kind of a node alike.

A conversion has one function for each pair of tags, and a target one for nodes as they are and one
for nodes after conversion. No target refuses what a conversion to its tag delivers: the double is
taken out of any number, and containers, which are taken out only if they were kept, are never the
result of a conversion.

* `coerce_of_coerce`, `tag_eq_of_coerce`: what is converted carries the tag and stays as it is, and
  containers and null are not converted.
* `cast?_eq_bind`: after conversion a node is taken out as if it had been there from the start.
* `isSome_cast?_iff`, `cast?_of_asIs?`: where something is taken out, and that conversion changes
  nothing that can be taken out without.
* `Value.taken`, `toValue_of_asIs?`: what is taken out, as a node.
* `coerce_agrees_with_targets`: all of this for one node.
-/

namespace DocShape

/-! ### Converted nodes -/

/-- A node that was converted to a tag carries it, so it is kept by the same conversion. -/
theorem coerce_of_coerce {v : Value} {target : Tag} {o : Outcome} (h : coerce v target = some o) :
    coerce (o.on v) target = some .kept :=
  coerce_eq_kept_iff.mpr (tag_of_coerce h)

/-- No conversion starts from a container or from null. -/
theorem Coercion.conversion?_eq_none {origin : Tag} (h : origin.isContainer ∨ origin = .null)
    (target : Tag) : conversion? origin target = none := by
  rcases h with hcontainer | rfl
  · cases origin with
    | mapping => cases target <;> rfl
    | sequence => cases target <;> rfl
    | _ => cases hcontainer
  · cases target <;> rfl

/-- A container or null that is converted to a tag carries the tag already. -/
theorem tag_eq_of_coerce {v : Value} {target : Tag} (hv : v.tag.isContainer ∨ v.tag = .null)
    (h : (coerce v target).isSome) : v.tag = target := by
  by_contra hne
  rw [coerce, if_neg hne, Coercion.conversion?_eq_none hv] at h
  cases h

namespace Value

/-- The node that is taken out: a large word is taken out as the nearest double. -/
def taken : Value → Value
  | .number (.large n) => .number (.float (Number.large n).toBinary64)
  | v => v

/-- Only a large word is taken out as something else, which is a nearest double. -/
theorem taken_eq_or (v : Value) :
    v.taken = v ∨ ∃ n x, v = .number (.large n) ∧ v.taken = .number (.float x) ∧
      x.IsNearest (Number.large n).units := by
  cases v with
  | number n =>
    cases n with
    | large n => exact .inr ⟨n, _, rfl, rfl, Number.isNearest_toBinary64 _⟩
    | _ => exact .inl rfl
  | _ => exact .inl rfl

end Value

namespace Target

variable {t : Target} {v : Value}

/-! ### Nodes as they are -/

/-- What is taken out is the node, as a double if it is a large word. -/
theorem toValue_of_asIs? {x : t.Carrier} (h : t.asIs? v = some x) : t.toValue x = v.taken := by
  unfold asIs? at h
  split at h
  case h_8 => cases h
  all_goals
    cases h
    rfl

/-! ### Nodes after conversion -/

/-- A target gives out every number as a double after conversion, and before it only those that
carry the tag. -/
theorem asIs?_float_of_tag {n : Number} (h : (Value.number n).tag = .float) :
    asIs? .float (.number n) = some n.toBinary64 := by
  cases n with
  | integer n => cases h
  | large n => rfl
  | float x => rfl

/-- What a conversion to the tag of a target delivers is taken out as any other node with the tag.
The two ways to take out a node differ on integers that should be doubles and on containers that
were replaced, and neither is ever delivered. -/
theorem converted?_eq_asIs? {o : Outcome} (h : coerce v t.tag = some o) :
    t.converted? v o = t.asIs? (o.on v) := by
  have htag := tag_of_coerce h
  cases t with
  | string => rfl
  | integer => rfl
  | boolean => rfl
  | float =>
    rw [converted?]
    cases hnode : o.on v with
    | number n =>
      rw [hnode] at htag
      exact (asIs?_float_of_tag htag).symm
    | _ => rfl
  | mapping =>
    have hkept := coerce_eq_kept_iff.mpr (tag_eq_of_coerce_container rfl h)
    rw [h] at hkept
    cases hkept
    rfl
  | sequence =>
    have hkept := coerce_eq_kept_iff.mpr (tag_eq_of_coerce_container rfl h)
    rw [h] at hkept
    cases hkept
    rfl

/-- To take out a node after conversion is to convert it and to take out the result as it is. -/
theorem cast?_eq_bind (t : Target) (v : Value) :
    t.cast? v = (coerce v t.tag).bind fun o => t.asIs? (o.on v) := by
  rw [cast?]
  exact Option.bind_congr fun o ho => converted?_eq_asIs? ho

/-- No target refuses what is converted to its tag. -/
theorem isSome_cast?_iff (t : Target) (v : Value) :
    (t.cast? v).isSome ↔ (coerce v t.tag).isSome := by
  rw [cast?_eq_bind]
  cases h : coerce v t.tag with
  | none => exact Iff.rfl
  | some o =>
    have hsome := (isSome_asIs?_iff t (o.on v)).mpr (tag_of_coerce h)
    exact iff_of_true hsome rfl

/-- What can be taken out as it is, is taken out so after conversion too. -/
theorem cast?_of_asIs? {x : t.Carrier} (h : t.asIs? v = some x) : t.cast? v = some x := by
  have htag : v.tag = t.tag := (isSome_asIs?_iff t v).mp (by rw [h]; rfl)
  rw [cast?_eq_bind, coerce_eq_kept_iff.mpr htag]
  exact h

theorem exists_coerce_of_cast? {x : t.Carrier} (h : t.cast? v = some x) :
    ∃ o, coerce v t.tag = some o ∧ t.toValue x = (o.on v).taken := by
  rw [cast?_eq_bind] at h
  obtain ⟨o, ho, hx⟩ := Option.bind_eq_some_iff.mp h
  exact ⟨o, ho, toValue_of_asIs? hx⟩

end Target

/-- A converted node carries the tag and is kept by the same conversion; containers and null are
only ever kept. A target takes out a node exactly when the node carries its tag, and after
conversion exactly when the conversion succeeds. What is taken out is the converted node, or a
nearest double if that is a large word. -/
theorem coerce_agrees_with_targets (v : Value) :
    (∀ tag o, coerce v tag = some o → (o.on v).tag = tag ∧ coerce (o.on v) tag = some .kept) ∧
    (∀ tag, v.tag.isContainer ∨ v.tag = .null → (coerce v tag).isSome → v.tag = tag) ∧
    (∀ t : Target,
      ((t.asIs? v).isSome ↔ v.tag = t.tag) ∧
      ((t.cast? v).isSome ↔ (coerce v t.tag).isSome) ∧
      (∀ x, t.asIs? v = some x → t.cast? v = some x ∧ t.toValue x = v.taken) ∧
      ∀ x, t.cast? v = some x → ∃ o, coerce v t.tag = some o ∧ t.toValue x = (o.on v).taken) ∧
    ∀ w : Value, w.taken = w ∨ ∃ n x, w = .number (.large n) ∧ w.taken = .number (.float x) ∧
      x.IsNearest (Number.large n).units := by
  refine ⟨?_, ?_, ?_, Value.taken_eq_or⟩
  · intro tag o h
    exact ⟨tag_of_coerce h, coerce_of_coerce h⟩
  · intro tag hv h
    exact tag_eq_of_coerce hv h
  · intro t
    refine ⟨t.isSome_asIs?_iff v, t.isSome_cast?_iff v, ?_, ?_⟩
    · intro x h
      exact ⟨Target.cast?_of_asIs? h, Target.toValue_of_asIs? h⟩
    · intro x h
      exact Target.exists_coerce_of_cast? h

/-- The text `" 42 "` is converted to an integer and then kept, null is converted to no string, and
the largest word is taken out as a double, after conversion as before it. -/
theorem coerce_agrees_with_targets_text_and_word :
    ((Value.number (.integer 42)).tag = .integer ∧
      coerce (.number (.integer 42)) .integer = some .kept) ∧
    ¬ (coerce .null .string).isSome ∧
    Target.cast? .float (.number (.large ⟨0xFFFFFFFFFFFFFFFF, by decide⟩)) =
      some (.ofUInt64 0xFFFFFFFFFFFFFFFF) := by
  refine ⟨?_, ?_, ?_⟩
  · exact (coerce_agrees_with_targets (.string " 42 ")).1 .integer
      (.replaced (.number (.integer 42))) (by decide +kernel)
  · intro h
    have htag := (coerce_agrees_with_targets .null).2.1 .string (.inr rfl) h
    cases htag
  · have hword := coerce_agrees_with_targets (.number (.large ⟨0xFFFFFFFFFFFFFFFF, by decide⟩))
    exact ((hword.2.2.1 .float).2.2.1 (.ofUInt64 0xFFFFFFFFFFFFFFFF) rfl).1

end DocShape
