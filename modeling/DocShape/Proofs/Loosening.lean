import DocShape.Proofs.ExhaustiveWalk
import Mathlib.Logic.Relation

/-!
Loosening a schema: what was accepted stays accepted.

A schema is loosened one node at a time, by a modifier that permits more or by taking a rule away.
Whether the result is no stricter is a matter of that node alone: a container is no stricter if one
of its parts is replaced by a part that is no stricter. The condition that carries this through
objects has two halves, since a field that may be absent has to stay one.

* `Modifier.Loosens`, `Schema.drop`: the changes of one node.
* `LoosenedOnce`, `Loosened`: one change at a node at any depth, and any number of them.
* `NoStricter`: what one change keeps (`LoosenedOnce.noStricter`), and with it any number of them.
* `eq_drop_iff`: taking a rule away undoes the adding of it.
* `valid_of_loosened`: what is valid stays valid.
-/

namespace DocShape

/-- The modifiers that permit more. -/
def Modifier.Loosens : Modifier → Prop
  | .coerces | .isOptional | .nullable | .default _ | .isOpen true => True
  | .bound _ _ | .allow _ | .pattern _ | .isOpen false => False

/-- The rules that refuse documents of the right kind. -/
inductive Restriction where
  | bound (side : Side)
  | allowed
  | pattern

/-- The rule that a modifier adds or replaces. -/
def Modifier.restriction? : Modifier → Option Restriction
  | .bound side _ => some (.bound side)
  | .allow _ => some .allowed
  | .pattern _ => some .pattern
  | .coerces | .isOptional | .nullable | .default _ | .isOpen _ => none

namespace Schema

/-- The schema without a pattern. -/
def dropPattern : Schema → Schema
  | .leaf (.string _) r => .leaf (.string none) r
  | s => s

/-- The schema with a rule taken away, if there is one. -/
def drop (s : Schema) : Restriction → Schema
  | .bound .min => s.mapRules ({ · with min := none })
  | .bound .max => s.mapRules ({ · with max := none })
  | .allowed => s.mapRules ({ · with allowed := none })
  | .pattern => s.dropPattern

/-- One node of a schema is loosened: the root, or one below an array or an object. -/
inductive LoosenedOnce : Schema → Schema → Prop where
  | modified (s : Schema) {m : Modifier} : m.Loosens → LoosenedOnce s (s.modify m)
  | dropped (s : Schema) (k : Restriction) : LoosenedOnce s (s.drop k)
  | element {s t : Schema} (r : Rules) : LoosenedOnce s t → LoosenedOnce (.array s r) (.array t r)
  | field {s t : Schema} (before : List (String × Schema)) (key : String)
      (after : List (String × Schema)) (isOpen : Bool) (r : Rules) :
      LoosenedOnce s t → LoosenedOnce (.object (before ++ (key, s) :: after) isOpen r)
        (.object (before ++ (key, t) :: after) isOpen r)

/-- Nodes of a schema are loosened, any number of them and any of them several times. -/
def Loosened : Schema → Schema → Prop :=
  Relation.ReflTransGen LoosenedOnce

/-- The second schema accepts what the first one accepts, and may be absent where that may. -/
structure NoStricter (s t : Schema) : Prop where
  valid : ∀ v, s.valid v → t.valid v
  isOptional : s.isOptional → t.isOptional

end Schema

/-! ### Rules -/

/-- Rules that permit no less: they let through what is let through, are kept where the rules are
kept, and convert where the rules do. -/
structure Rules.NoStricter (r r' : Rules) : Prop where
  acceptsNull : r.acceptsNull → r'.acceptsNull
  isOptional : r.isOptional → r'.isOptional
  coerces : r.coerces → r'.coerces
  kept : ∀ v, r.failures v = [] → r'.failures v = []

namespace Rules

/-- More conversions prepare a node alike, if it could be prepared at all: what is converted in
addition did not have the tag before. -/
theorem NoStricter.prepared_eq {r r' : Rules} (h : r.NoStricter r') {t : Tag} {v : Value}
    (ht : (r.prepared t v).tag = t) : r'.prepared t v = r.prepared t v := by
  by_cases hv : v.tag = t
  · rw [prepared_eq_self hv, prepared_eq_self hv]
  · by_cases hc : r.coerces ∨ t = .float ∧ v.tag = .integer
    · rw [prepared, prepared, if_pos hc, if_pos (hc.imp_left h.coerces)]
    · rw [prepared, if_neg hc] at ht
      exact absurd ht hv

end Rules

namespace Schema

/-! ### Changes of one node -/

theorem noStricter_leaf {r r' : Rules} (h : r.NoStricter r') (kind : LeafKind) :
    (leaf kind r).NoStricter (leaf kind r') := by
  refine ⟨fun v => ?_, h.isOptional⟩
  cases kind with
  | any =>
    rw [valid_leaf_any_iff, valid_leaf_any_iff]
    exact Or.imp (And.imp_right h.acceptsNull) (h.kept v)
  | literal sample =>
    rw [valid_leaf_literal_iff, valid_leaf_literal_iff]
    exact Or.imp_left (And.imp_right h.acceptsNull)
  | _ =>
    rw [valid_leaf_iff rfl, valid_leaf_iff rfl]
    refine Or.imp (And.imp_right h.acceptsNull) ?_
    rintro ⟨htag, hkept, hpattern⟩
    rw [h.prepared_eq htag]
    exact ⟨htag, h.kept _ hkept, hpattern⟩

theorem noStricter_mapRules {f : Rules → Rules} (h : ∀ r : Rules, r.NoStricter (f r)) (s : Schema) :
    s.NoStricter (s.mapRules f) := by
  cases s with
  | leaf kind r => exact noStricter_leaf (h r) kind
  | array element r =>
    refine ⟨fun v => ?_, (h r).isOptional⟩
    rw [mapRules, valid_array_iff, valid_array_iff]
    refine Or.imp (And.imp_right (h r).acceptsNull) ?_
    rintro ⟨items, rfl, hkept, hitems⟩
    exact ⟨items, rfl, (h r).kept _ hkept, hitems⟩
  | object shape isOpen r =>
    refine ⟨fun v => ?_, (h r).isOptional⟩
    rw [mapRules, valid_object_iff, valid_object_iff]
    refine Or.imp (And.imp_right (h r).acceptsNull) ?_
    rintro ⟨fields, rfl, hkept, hfields⟩
    exact ⟨fields, rfl, (h r).kept _ hkept, hfields⟩

theorem noStricter_setOpen (s : Schema) : s.NoStricter (s.setOpen true) := by
  cases s with
  | object shape isOpen r =>
    refine ⟨fun v => ?_, id⟩
    rw [setOpen, valid_object_iff, valid_object_iff]
    refine Or.imp_right ?_
    rintro ⟨fields, rfl, hkept, hdeclared, -⟩
    exact ⟨fields, rfl, hkept, hdeclared, .inl rfl⟩
  | _ => exact ⟨fun _ => id, id⟩

theorem noStricter_dropPattern (s : Schema) : s.NoStricter s.dropPattern := by
  cases s with
  | leaf kind r =>
    cases kind with
    | string p =>
      refine ⟨fun v => ?_, id⟩
      rw [dropPattern, valid_leaf_iff rfl, valid_leaf_iff rfl]
      refine Or.imp_right ?_
      rintro ⟨htag, hkept, -⟩
      exact ⟨htag, hkept, by simp [LeafKind.patternFailures]⟩
    | _ => exact ⟨fun _ => id, id⟩
  | _ => exact ⟨fun _ => id, id⟩

theorem noStricter_modify {m : Modifier} (h : m.Loosens) (s : Schema) :
    s.NoStricter (s.modify m) := by
  cases m with
  | coerces =>
    apply noStricter_mapRules
    exact fun r => ⟨id, id, fun _ => rfl, fun _ => id⟩
  | isOptional =>
    apply noStricter_mapRules
    exact fun r => ⟨fun _ => by simp [Rules.acceptsNull], fun _ => rfl, id, fun _ => id⟩
  | nullable =>
    apply noStricter_mapRules
    exact fun r => ⟨fun _ => by simp [Rules.acceptsNull], id, id, fun _ => id⟩
  | default d =>
    apply noStricter_mapRules
    exact fun r => ⟨fun _ => by simp [Rules.acceptsNull], id, id, fun _ => id⟩
  | isOpen b =>
    cases b with
    | true => exact noStricter_setOpen s
    | false => exact h.elim
  | bound side b => exact h.elim
  | allow values => exact h.elim
  | pattern p => exact h.elim

theorem noStricter_drop (s : Schema) (k : Restriction) : s.NoStricter (s.drop k) := by
  cases k with
  | bound side =>
    cases side with
    | min =>
      apply noStricter_mapRules
      refine fun r => ⟨id, id, id, fun v => ?_⟩
      rw [Rules.failures_eq_nil_iff, Rules.failures_eq_nil_iff]
      exact And.imp_right (And.imp_left fun _ => rfl)
    | max =>
      apply noStricter_mapRules
      refine fun r => ⟨id, id, id, fun v => ?_⟩
      rw [Rules.failures_eq_nil_iff, Rules.failures_eq_nil_iff]
      exact And.imp_right (And.imp_right fun _ => rfl)
  | allowed =>
    apply noStricter_mapRules
    refine fun r => ⟨id, id, id, fun v => ?_⟩
    rw [Rules.failures_eq_nil_iff, Rules.failures_eq_nil_iff]
    exact And.imp_left fun _ => nofun
  | pattern => exact noStricter_dropPattern s

/-! ### Changes below the root -/

theorem NoStricter.admitsField {s t : Schema} (h : s.NoStricter t) {o : Option Value}
    (ho : s.AdmitsField o) : t.AdmitsField o := by
  cases o with
  | some v => exact h.valid v ho
  | none => exact h.isOptional ho

theorem NoStricter.array {s t : Schema} (h : s.NoStricter t) (r : Rules) :
    (array s r).NoStricter (array t r) := by
  refine ⟨fun v => ?_, id⟩
  rw [valid_array_iff, valid_array_iff]
  refine Or.imp_right ?_
  rintro ⟨items, rfl, hkept, hitems⟩
  exact ⟨items, rfl, hkept, fun x hx => h.valid x (hitems x hx)⟩

/-- An object looks at a field for its value, or for whether it may be absent, and for its key. -/
theorem NoStricter.object {s t : Schema} (h : s.NoStricter t) (before : List (String × Schema))
    (key : String) (after : List (String × Schema)) (isOpen : Bool) (r : Rules) :
    (object (before ++ (key, s) :: after) isOpen r).NoStricter
      (object (before ++ (key, t) :: after) isOpen r) := by
  refine ⟨fun v => ?_, id⟩
  rw [valid_object_iff, valid_object_iff]
  refine Or.imp_right ?_
  rintro ⟨fields, rfl, hkept, hdeclared, hunknown⟩
  refine ⟨fields, rfl, hkept, ?_, ?_⟩
  · simp only [List.forall_mem_append, List.forall_mem_cons] at hdeclared ⊢
    exact ⟨hdeclared.1, h.admitsField hdeclared.2.1, hdeclared.2.2⟩
  · simpa [Entries.keys] using hunknown

/-- One change makes no schema stricter, at whatever depth. -/
theorem LoosenedOnce.noStricter {s t : Schema} (h : LoosenedOnce s t) : s.NoStricter t := by
  induction h with
  | modified s hm => exact noStricter_modify hm s
  | dropped s k => exact noStricter_drop s k
  | element r _ ih => exact ih.array r
  | field before key after isOpen r _ ih => exact ih.object before key after isOpen r

theorem Loosened.noStricter {s t : Schema} (h : s.Loosened t) : s.NoStricter t := by
  induction h with
  | refl => exact ⟨fun _ => id, id⟩
  | tail _ hstep ih =>
    have hlast := hstep.noStricter
    exact ⟨fun v hv => hlast.valid v (ih.valid v hv), fun ho => hlast.isOptional (ih.isOptional ho)⟩

/-! ### Taking away and adding -/

theorem drop_drop (s : Schema) (k : Restriction) : (s.drop k).drop k = s.drop k := by
  cases k with
  | bound side => cases side <;> exact mapRules_mapRules _ _ s
  | allowed => exact mapRules_mapRules _ _ s
  | pattern =>
    cases s with
    | leaf kind r => cases kind <;> rfl
    | _ => rfl

/-- Nothing of an added rule is left when it is taken away. -/
theorem drop_modify {m : Modifier} {k : Restriction} (h : m.restriction? = some k) (s : Schema) :
    (s.modify m).drop k = s.drop k := by
  cases m with
  | bound side b =>
    cases h
    cases side <;> exact mapRules_mapRules _ _ s
  | allow values =>
    cases h
    exact mapRules_mapRules _ _ s
  | pattern p =>
    cases h
    cases s with
    | leaf kind r => cases kind <;> rfl
    | _ => rfl
  | _ => cases h

/-- A rule that is taken away was not there, or can be put back. -/
theorem eq_or_mapRules_put {α : Type} (get : Rules → Option α) (put : Option α → Rules → Rules)
    (hget : ∀ r, put (get r) r = r) (hput : ∀ o o' r, put o (put o' r) = put o r) (s : Schema) :
    s = s.mapRules (put none) ∨
      ∃ rule, s = (s.mapRules (put none)).mapRules (put (some rule)) := by
  have hself : s.mapRules (put (get s.rules)) = s := mapRules_eq_self (hget s.rules)
  cases hfound : get s.rules with
  | none =>
    left
    rw [← hfound, hself]
  | some rule =>
    right
    have hcomp : put (some rule) ∘ put none = put (some rule) := funext (hput _ _)
    refine ⟨rule, ?_⟩
    rw [mapRules_mapRules, hcomp, ← hfound, hself]

/-- What is taken away was not there, or some modifier adds it again. -/
theorem eq_or_modify_drop (s : Schema) (k : Restriction) :
    s = s.drop k ∨ ∃ m : Modifier, m.restriction? = some k ∧ s = (s.drop k).modify m := by
  cases k with
  | bound side =>
    cases side with
    | min =>
      refine (eq_or_mapRules_put (·.min) (fun o r => { r with min := o })
        (fun _ => rfl) (fun _ _ _ => rfl) s).imp_right ?_
      rintro ⟨b, hb⟩
      exact ⟨.bound .min b, rfl, hb⟩
    | max =>
      refine (eq_or_mapRules_put (·.max) (fun o r => { r with max := o })
        (fun _ => rfl) (fun _ _ _ => rfl) s).imp_right ?_
      rintro ⟨b, hb⟩
      exact ⟨.bound .max b, rfl, hb⟩
  | allowed =>
    refine (eq_or_mapRules_put (·.allowed) (fun o r => { r with allowed := o })
      (fun _ => rfl) (fun _ _ _ => rfl) s).imp_right ?_
    rintro ⟨values, hvalues⟩
    exact ⟨.allow values, rfl, hvalues⟩
  | pattern =>
    cases s with
    | leaf kind r =>
      cases kind with
      | string pattern =>
        cases pattern with
        | none => exact .inl rfl
        | some p => exact .inr ⟨.pattern p, rfl, rfl⟩
      | _ => exact .inl rfl
    | _ => exact .inl rfl

/-- One schema is another one without a rule exactly if it has no such rule, and the other one is
the same or comes of it by adding the rule. -/
theorem eq_drop_iff {s t : Schema} {k : Restriction} :
    t = s.drop k ↔
      t.drop k = t ∧ (s = t ∨ ∃ m : Modifier, m.restriction? = some k ∧ s = t.modify m) := by
  constructor
  · rintro rfl
    exact ⟨s.drop_drop k, s.eq_or_modify_drop k⟩
  · rintro ⟨ht, rfl | ⟨m, hm, rfl⟩⟩
    · exact ht.symm
    · rw [drop_modify hm, ht]

/-- Loosening never rejects more. Nodes at any depth may be loosened, by modifiers that permit more
or by taking rules away, which is the converse of adding rules where there are none. -/
theorem valid_of_loosened :
    (∀ s t : Schema, s.Loosened t → ∀ v, s.valid v → t.valid v) ∧
      ∀ (s t : Schema) (k : Restriction), t = s.drop k ↔
        t.drop k = t ∧ (s = t ∨ ∃ m : Modifier, m.restriction? = some k ∧ s = t.modify m) :=
  ⟨fun _ _ h => h.noStricter.valid, fun _ _ _ => eq_drop_iff⟩

/-- Elements lose their bound and are converted, the field with the array may be absent, and other
fields are permitted. -/
theorem valid_of_loosened_tags :
    (object [("tags", arrayOf (.leaf .integer { max := some ⟨.ofNumber (.integer 3), true⟩ }))]
        false {}).Loosened
      (object [("tags", .array (.leaf .integer { coerces := true }) { isOptional := true })]
        true {}) ∧
    (object [("tags", .array (.leaf .integer { coerces := true }) { isOptional := true })]
        true {}).valid
      (.object [("tags", .array [.number (.integer 1), .number (.integer 3)])]) := by
  have hloosened : (object [("tags",
        arrayOf (.leaf .integer { max := some ⟨.ofNumber (.integer 3), true⟩ }))] false {}).Loosened
      (object [("tags", .array (.leaf .integer { coerces := true }) { isOptional := true })]
        true {}) := by
    have hcoerces (s : Schema) : LoosenedOnce s (s.modify .coerces) := .modified s trivial
    have hoptional (s : Schema) : LoosenedOnce s (s.modify .isOptional) := .modified s trivial
    have hopen (s : Schema) : LoosenedOnce s (s.modify (.isOpen true)) := .modified s trivial
    refine .head (.field [] "tags" [] false {} (.element {} (.dropped _ (.bound .max)))) ?_
    refine .head (.field [] "tags" [] false {} (.element {} (hcoerces _))) ?_
    refine .head (.field [] "tags" [] false {} (hoptional _)) ?_
    exact .single (hopen _)
  exact ⟨hloosened, valid_of_loosened.1 _ _ hloosened _ (by decide +kernel)⟩

end Schema

end DocShape
