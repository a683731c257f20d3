import DocShape.Proofs.Acceptance
import DocShape.Proofs.ShapeTree

/-!
What becomes of an inferred schema when more samples are observed.

A node of a shape at which only null was seen, or nothing at all, leaves every document possible,
and the first sample of a kind narrows that. Where each node has seen a kind, more samples can only
widen what is accepted, and samples that are accepted already change nothing.

* `Shape.SeesKind`: the condition on a node. Without it more samples may narrow what is accepted.
* `accepts_append`: what samples accept they accept together with others.
* `acceptsOrNull_of_append`: samples whose values are accepted already add nothing, not even where
  null stands in for a key that some sample lacks.
* `valid_ofSamples_append`, `valid_ofSamples_append_accepted`: the same of inferred schemas.
-/

namespace DocShape

namespace Shape

/-- Whether a kind other than null was seen. -/
def SeesKind (s : Shape) : Prop :=
  1 ≤ s.kindCount

instance : DecidablePred SeesKind := fun s => inferInstanceAs (Decidable (1 ≤ s.kindCount))

end Shape

namespace Samples

/-! ### Informative samples -/

/-- Whether a kind other than null occurs at each position of the samples, which is said of their
summary. -/
def Informative (samples : List Value) : Prop :=
  ∃ s : Shape, s.Summarizes samples ∧ s.EachNode Shape.SeesKind

variable {samples xs ys : List Value} {v : Value} {κ : Kind} {key : String}

theorem Informative.exists_shows (h : Informative samples) : ∃ κ, shows samples κ := by
  obtain ⟨s, hs, heach⟩ := h
  have hcount : 1 ≤ s.kindCount := heach.root
  rw [Shape.kindCount_eq_length hs] at hcount
  obtain ⟨κ, hκ⟩ := List.exists_mem_of_length_pos hcount
  exact ⟨κ, (List.mem_filter.mp hκ).2⟩

theorem Informative.elements (h : Informative samples) (hs : has samples .sequence) :
    Informative (elements samples) := by
  obtain ⟨⟨k, i, r⟩, ⟨-, hi, -⟩, -, heach, -⟩ := h
  cases i with
  | none =>
    rw [hi] at hs
    cases hs
  | some e => exact ⟨e, hi.2, heach⟩

theorem Informative.atKey (h : Informative samples) (hk : HasKey samples key) :
    Informative (atKey samples key) := by
  obtain ⟨⟨k, i, r⟩, ⟨-, -, hr⟩, -, -, heach⟩ := h
  cases r with
  | none =>
    obtain ⟨fields, hfields, -⟩ := hk
    rw [mappings_eq_nil hr] at hfields
    cases hfields
  | some r =>
    obtain ⟨seen, fields⟩ := r
    obtain ⟨-, -, -, hkeys, hfields⟩ := hr
    obtain ⟨f, hf⟩ := Entries.mem_keys_iff.mp ((hkeys key).mpr hk)
    exact ⟨f.shape, (Shape.fieldsSummarize_iff.mp hfields key f hf).2,
      Shape.eachInFields_iff.mp heach (key, f) hf⟩

/-! ### More samples -/

theorem shows_append_left (h : shows xs κ) (ys : List Value) : shows (xs ++ ys) κ := by
  obtain ⟨v, hv, hk⟩ := shows_iff.mp h
  exact shows_iff.mpr ⟨v, List.mem_append_left ys hv, hk⟩

theorem has_append_left {t : Tag} (h : has xs t) (ys : List Value) : has (xs ++ ys) t := by
  rw [has_append, h, Bool.true_or]

theorem lacks_append : Lacks (xs ++ ys) key ↔ Lacks xs key ∨ Lacks ys key := by
  simp [Lacks, mappings_append, or_and_right, exists_or]

/-- Samples of two kinds stay samples of two kinds. -/
theorem not_showsOnly_append (h : Informative xs) (hno : ¬ ∃ κ, ShowsOnly xs κ) (ys : List Value) :
    ¬ ∃ κ, ShowsOnly (xs ++ ys) κ := by
  rintro ⟨κ, hκ⟩
  have hsub : ∀ κ', shows xs κ' → κ' = κ := by
    intro κ' hκ'
    exact (hκ κ').mp (shows_append_left hκ' ys)
  obtain ⟨κ', hκ'⟩ := h.exists_shows
  apply hno
  refine ⟨κ, fun κ'' => ⟨hsub κ'', ?_⟩⟩
  rintro rfl
  rw [← hsub κ' hκ']
  exact hκ'

/-- A key that only the other samples have is one that all mappings here lack. -/
theorem lacks_of_not_hasKey (hs : shows xs .mapping) (hk : ¬ HasKey xs key) : Lacks xs key := by
  obtain ⟨v, hv, hkind⟩ := shows_iff.mp hs
  cases v with
  | object fields =>
    have hfields : fields ∈ mappings xs := mem_mappings.mpr hv
    exact ⟨fields, hfields, fun hmem => hk ⟨fields, hfields, hmem⟩⟩
  | number n => cases n <;> cases hkind
  | _ => cases hkind

/-- What samples accept they accept together with others. The induction is on acceptance, whose
clauses ask of the samples what they still have with others added. -/
theorem accepts_append (h : Informative xs) (hv : Accepts xs v) (ys : List Value) :
    Accepts (xs ++ ys) v := by
  induction hv generalizing ys with
  | anything hno => exact .anything (not_showsOnly_append h hno ys)
  | null hnull => exact .null (has_append_left hnull ys)
  | boolean hs => exact .boolean (shows_append_left hs ys)
  | integer hs => exact .integer (shows_append_left hs ys)
  | number hf => exact .number (has_append_left hf ys)
  | string hs => exact .string (shows_append_left hs ys)
  | @array xs items hs hitems ih =>
    refine .array (shows_append_left hs ys) fun x hx => ?_
    rw [elements_append]
    exact ih x hx (h.elements hs) (Samples.elements ys)
  | @object xs fields hs hkeys habsent hpresent ih =>
    refine .object (shows_append_left hs ys) ?_ ?_ ?_
    · intro k hk
      exact hasKey_append.mpr (.inl (hkeys k hk))
    · intro k hk hnone
      apply lacks_append.mpr
      by_cases hold : HasKey xs k
      · exact .inl (habsent k hold hnone)
      · exact .inl (lacks_of_not_hasKey hs hold)
    · intro k x hk hfound hnull
      have hold : HasKey xs k := hkeys k (Entries.mem_keys_of_lookup_eq_some hfound)
      have hnull' : ¬ (x = .null ∧ Lacks xs k) := by
        rintro ⟨hx, hlacks⟩
        exact hnull ⟨hx, lacks_append.mpr (.inl hlacks)⟩
      rw [atKey_append]
      exact ih k x hold hfound hnull' (h.atKey hold) (Samples.atKey ys k)

/-! ### Samples that are accepted already -/

/-- Nulls and nodes of the one kind that occurs bring no other kind. -/
theorem showsOnly_append (h : ShowsOnly xs κ)
    (hys : ∀ y ∈ ys, y = .null ∨ y.tag.kind? = some κ) : ShowsOnly (xs ++ ys) κ := by
  intro κ'
  constructor
  · intro hs
    obtain ⟨v, hv, hk⟩ := shows_iff.mp hs
    rcases List.mem_append.mp hv with hv | hv
    · exact (h κ').mp (shows_iff.mpr ⟨v, hv, hk⟩)
    · rcases hys v hv with rfl | hkind
      · cases hk
      · rw [hkind] at hk
        exact (Option.some.inj hk).symm
  · rintro rfl
    exact shows_append_left ((h κ').mpr rfl) ys

theorem inside_object_iff {fields : List (String × Value)} :
    Inside Accepts samples (.object fields) ↔ FieldsFit samples fields := by
  simp only [Inside, FieldsFit, fieldFits_iff]

section Accepted

-- Besides what is accepted, null is let pass on the condition `c`.
variable {c : Prop} (hys : ∀ y ∈ ys, y = .null ∧ c ∨ Accepts xs y)

include hys

theorem kind_of_mem (h : ShowsOnly xs κ) : ∀ y ∈ ys, y = .null ∨ y.tag.kind? = some κ := by
  intro y hy
  rcases hys y hy with ⟨hnull, -⟩ | hy
  · exact .inl hnull
  · exact (kind_of_accepts h hy).imp_left And.left

theorem has_float_of_append (h : ShowsOnly xs .number) (hf : has (xs ++ ys) .float) :
    has xs .float := by
  obtain ⟨y, hy, htag⟩ := has_iff.mp hf
  rcases List.mem_append.mp hy with hy | hy
  · exact has_iff.mpr ⟨y, hy, htag⟩
  · rcases hys y hy with ⟨rfl, -⟩ | haccepts
    · cases htag
    · rcases (accepts_iff_number h).mp haccepts with ⟨rfl, -⟩ | hinteger | ⟨-, hf⟩
      · cases htag
      · rw [hinteger] at htag
        cases htag
      · exact hf

theorem accepts_of_mem_elements (h : ShowsOnly xs .sequence) :
    ∀ x ∈ Samples.elements ys, Accepts (Samples.elements xs) x := by
  intro x hx
  obtain ⟨items, hitems, hmem⟩ := mem_elements.mp hx
  rcases hys _ hitems with ⟨hnull, -⟩ | haccepts
  · cases hnull
  · rcases (accepts_iff_inside h).mp haccepts with ⟨hnull, -⟩ | ⟨-, hinside⟩
    · cases hnull
    · exact hinside x hmem

theorem fieldsFit_of_mem (h : ShowsOnly xs .mapping) {fields : List (String × Value)}
    (hfields : .object fields ∈ ys) : FieldsFit xs fields := by
  rcases hys _ hfields with ⟨hnull, -⟩ | haccepts
  · cases hnull
  · rcases (accepts_iff_inside h).mp haccepts with ⟨hnull, -⟩ | ⟨-, hinside⟩
    · cases hnull
    · exact inside_object_iff.mp hinside

theorem hasKey_of_append (h : ShowsOnly xs .mapping) (hk : HasKey (xs ++ ys) key) :
    HasKey xs key := by
  rcases hasKey_append.mp hk with hk | ⟨fields, hfields, hmem⟩
  · exact hk
  · exact (fieldsFit_of_mem hys h (mem_mappings.mp hfields)).1 key hmem

theorem lacks_of_append (h : ShowsOnly xs .mapping) (hk : HasKey xs key)
    (hl : Lacks (xs ++ ys) key) : Lacks xs key := by
  rcases lacks_append.mp hl with hl | ⟨fields, hfields, hmem⟩
  · exact hl
  · have hfit := (fieldsFit_of_mem hys h (mem_mappings.mp hfields)).2 key hk
    rw [Entries.lookup_eq_none_iff_notMem.mpr hmem] at hfit
    exact hfit

theorem fits_of_mem_atKey (h : ShowsOnly xs .mapping) (hk : HasKey xs key) :
    ∀ y ∈ Samples.atKey ys key,
      y = .null ∧ Lacks xs key ∨ Accepts (Samples.atKey xs key) y := by
  intro y hy
  obtain ⟨fields, hfields, hfound⟩ := mem_atKey.mp hy
  have hfit := (fieldsFit_of_mem hys h hfields).2 key hk
  rw [hfound] at hfit
  exact hfit

/-- What is accepted with such samples was accepted before, if it was so further down. -/
theorem acceptsOrNull_of_inside
    (hinside : ∀ κ, ShowsOnly xs κ → v.tag.kind? = some κ → Inside Accepts (xs ++ ys) v →
      Inside Accepts xs v)
    (hv : Accepts (xs ++ ys) v) : v = .null ∧ c ∨ Accepts xs v := by
  by_cases hone : ∃ κ, ShowsOnly xs κ
  · obtain ⟨κ, hκ⟩ := hone
    have hboth : ShowsOnly (xs ++ ys) κ := showsOnly_append hκ (kind_of_mem hys hκ)
    rcases (accepts_iff_inside hboth).mp hv with ⟨rfl, hnull⟩ | ⟨hkind, hv⟩
    · rw [has_null_iff] at hnull
      rcases List.mem_append.mp hnull with hnull | hnull
      · exact .inr (.null (has_null_iff.mpr hnull))
      · exact hys _ hnull
    · exact .inr ((accepts_iff_inside hκ).mpr (.inr ⟨hkind, hinside κ hκ hkind hv⟩))
  · exact .inr (.anything hone)

end Accepted

/-- Samples that are accepted already add nothing to what is accepted. Below a key that some sample
lacks they may be null without being accepted, so the induction, which is on the document, lets null
pass on a condition, and at each key the condition is another one. -/
theorem acceptsOrNull_of_append (v : Value) {xs ys : List Value} {c : Prop}
    (hys : ∀ y ∈ ys, y = .null ∧ c ∨ Accepts xs y) (hv : Accepts (xs ++ ys) v) :
    v = .null ∧ c ∨ Accepts xs v := by
  induction v using Value.induct generalizing xs ys c with
  | scalar v harray hobject =>
    refine acceptsOrNull_of_inside hys (fun κ hκ hkind hin => ?_) hv
    cases v with
    | number n =>
      have hnumber : κ = .number := by
        cases n <;> exact (Option.some.inj hkind).symm
      subst hnumber
      exact hin.imp_right (has_float_of_append hys hκ)
    | array items => exact absurd rfl (harray items)
    | object fields => exact absurd rfl (hobject fields)
    | _ => exact trivial
  | array items ih =>
    refine acceptsOrNull_of_inside hys (fun κ hκ hkind hin => ?_) hv
    cases hkind
    intro x hx
    have hitems := accepts_of_mem_elements hys hκ
    have hbefore := ih x hx (c := False) (fun y hy => .inr (hitems y hy))
      (elements_append xs ys ▸ hin x hx)
    exact hbefore.resolve_left And.right
  | object fields ih =>
    refine acceptsOrNull_of_inside hys (fun κ hκ hkind hin => ?_) hv
    cases hkind
    rw [inside_object_iff] at hin ⊢
    obtain ⟨hkeys, hfit⟩ := hin
    refine ⟨fun k hk => hasKey_of_append hys hκ (hkeys k hk), fun k hk => ?_⟩
    have hfit := hfit k (hasKey_append.mpr (.inl hk))
    cases hl : fields.lookup k with
    | none =>
      rw [hl] at hfit
      exact lacks_of_append hys hκ hk hfit
    | some x =>
      rw [hl] at hfit
      rcases hfit with ⟨hnull, hlacks⟩ | haccepts
      · exact .inl ⟨hnull, lacks_of_append hys hκ hk hlacks⟩
      · rw [atKey_append] at haccepts
        exact ih (k, x) (Entries.mem_of_lookup_eq_some hl) (fits_of_mem_atKey hys hκ hk) haccepts

/-- Samples that are accepted already neither add to what is accepted nor take away from it. -/
theorem accepts_append_iff (h : Informative xs) (hys : ∀ y ∈ ys, Accepts xs y) :
    Accepts (xs ++ ys) v ↔ Accepts xs v := by
  constructor
  · intro hv
    have hbefore := acceptsOrNull_of_append (c := False) v (fun y hy => .inr (hys y hy)) hv
    exact hbefore.resolve_left And.right
  · intro hv
    exact accepts_append h hv ys

end Samples

/-! ### Inferred schemas -/

theorem informative_of_observed {xs : List Value} (hx : ∀ v ∈ xs, v.WellFormed)
    (h : (Inference.start.observeAll xs).shape.EachNode Shape.SeesKind) :
    Samples.Informative xs :=
  ⟨_, Shape.summarizes_observeAll_start hx, h⟩

/-- Where a kind other than null was seen at each node of the state, a document that the schema of
the samples accepts is accepted after more samples too. -/
theorem valid_ofSamples_append {xs ys : List Value} (hx : ∀ v ∈ xs, v.WellFormed)
    (hy : ∀ v ∈ ys, v.WellFormed)
    (h : (Inference.start.observeAll xs).shape.EachNode Shape.SeesKind) {v : Value}
    (hv : (Schema.ofSamples xs).valid v) : (Schema.ofSamples (xs ++ ys)).valid v := by
  rw [valid_ofSamples_iff (List.forall_mem_append.mpr ⟨hx, hy⟩)]
  rw [valid_ofSamples_iff hx] at hv
  exact Samples.accepts_append (informative_of_observed hx h) hv ys

/-- Records with an integer among nulls; then null, and a record with a float in its place, a new
key and one key less. -/
theorem valid_ofSamples_append_float_and_key :
    (Inference.start.observeAll
        [.object [("a", .array [.number (.integer 1), .null]), ("b", .string "x")],
          .object [("b", .string "y"), ("a", .array [.number (.integer 2)])]]).shape.EachNode
        Shape.SeesKind ∧
      (Schema.ofSamples
        ([.object [("a", .array [.number (.integer 1), .null]), ("b", .string "x")],
            .object [("b", .string "y"), ("a", .array [.number (.integer 2)])]] ++
          [.null,
            .object [("c", .bool true), ("a", .array [.number (.float (.zero true))])]])).valid
        (.object [("b", .string ""), ("a", .array [.null, .number (.integer 3)])]) := by
  have h : (Inference.start.observeAll
      [.object [("a", .array [.number (.integer 1), .null]), ("b", .string "x")],
        .object [("b", .string "y"), ("a", .array [.number (.integer 2)])]]).shape.EachNode
      Shape.SeesKind := by decide
  refine ⟨h, valid_ofSamples_append ?_ ?_ h ?_⟩
  · simp [Value.WellFormed, Value.FieldsWellFormed, Value.ItemsWellFormed]
  · simp [Value.WellFormed, Value.FieldsWellFormed, Value.ItemsWellFormed]
  · decide

/-- After an empty array any elements are accepted, but not after an array of booleans too. -/
example : (Schema.ofSamples [.array []]).valid (.array [.string "x"]) ∧
    ¬ (Schema.ofSamples ([.array []] ++ [.array [.bool true]])).valid (.array [.string "x"]) := by
  decide

/-- Where a kind other than null was seen at each node of the state, a sample that the schema of the
samples accepts leaves what is accepted as it is. -/
theorem valid_ofSamples_append_accepted {xs : List Value} (hx : ∀ v ∈ xs, v.WellFormed)
    (h : (Inference.start.observeAll xs).shape.EachNode Shape.SeesKind) {v : Value}
    (hv : v.WellFormed) (haccepts : (Schema.ofSamples xs).valid v) (w : Value) :
    (Schema.ofSamples (xs ++ [v])).valid w = (Schema.ofSamples xs).valid w := by
  have hone : ∀ y ∈ [v], y.WellFormed := List.forall_mem_singleton.mpr hv
  rw [valid_ofSamples_iff hx] at haccepts
  rw [Bool.eq_iff_iff, valid_ofSamples_iff (List.forall_mem_append.mpr ⟨hx, hone⟩),
    valid_ofSamples_iff hx]
  exact Samples.accepts_append_iff (informative_of_observed hx h)
    (List.forall_mem_singleton.mpr haccepts)

/-- An integer among numbers of which one is a float, and null at a key that a record lacks; null
stays refused at the key that they all have. -/
theorem valid_ofSamples_append_accepted_null :
    (Schema.ofSamples
        ([.object [("a", .number (.integer 1)), ("b", .array [.string "x"])],
            .object [("a", .number (.float (.zero false)))]] ++
          [.object [("b", .null), ("a", .number (.integer 2))]])).valid
        (.object [("a", .null), ("b", .null)]) =
      (Schema.ofSamples
        [.object [("a", .number (.integer 1)), ("b", .array [.string "x"])],
          .object [("a", .number (.float (.zero false)))]]).valid
        (.object [("a", .null), ("b", .null)]) := by
  refine valid_ofSamples_append_accepted ?_ ?_ ?_ ?_ _
  · simp [Value.WellFormed, Value.FieldsWellFormed, Value.ItemsWellFormed]
  · decide
  · simp [Value.WellFormed, Value.FieldsWellFormed]
  · decide

end DocShape
