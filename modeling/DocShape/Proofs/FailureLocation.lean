import DocShape.Access.Place
import DocShape.Proofs.ExhaustiveWalk
import DocShape.Proofs.PathText
import DocShape.Proofs.SchemaTree

/-!
Reported failures locate their cause.

The path of a failure is text. Where all keys are plain it parses, and a walk along it through the
document leads to what the failure is about; where a field is missing, to its absence. A literal is
a schema like any other here, with a literal at each place where the sample has a node.

* `Schema.At`: a walk through a schema and a document side by side.
* `Schema.FailsHere`: what the first failure of a node is when it does not come from further inside.
* `error?_cases`, `exists_at_of_error?`: the first failure of a node is one of the node itself, or
  the first failure of a node below it, and so it is the failure of a node that a walk reaches.
* `error?_located`: the failure that is reported, its path as text, and what is found there.
-/

namespace DocShape

/-! ### Places in documents and schemas -/

namespace Value

mutual
/-- Whether something holds of each node of a document. -/
def EachNode (p : Value → Prop) : Value → Prop
  | .array items => p (.array items) ∧ EachItem p items
  | .object fields => p (.object fields) ∧ EachField p fields
  | v => p v
termination_by structural v => v

def EachItem (p : Value → Prop) : List Value → Prop
  | [] => True
  | v :: rest => EachNode p v ∧ EachItem p rest
termination_by structural items => items

def EachField (p : Value → Prop) : List (String × Value) → Prop
  | [] => True
  | (_, v) :: rest => EachNode p v ∧ EachField p rest
termination_by structural fields => fields
end

section EachNode

variable {p : Value → Prop}

theorem eachItem_iff {items : List Value} : EachItem p items ↔ ∀ v ∈ items, EachNode p v := by
  induction items with
  | nil => simp [EachItem]
  | cons v rest ih => simp [EachItem, ih]

theorem eachField_iff {fields : List (String × Value)} :
    EachField p fields ↔ ∀ e ∈ fields, EachNode p e.2 := by
  induction fields with
  | nil => simp [EachField]
  | cons e rest ih => simp [EachField, ih]

theorem EachNode.root {v : Value} (h : EachNode p v) : p v := by
  cases v with
  | array items => exact h.1
  | object fields => exact h.1
  | _ => exact h

/-- What a step leads to is a node of the document. -/
theorem EachNode.lookup? {v w : Value} (h : EachNode p v) {step : Step}
    (hw : step.lookup? v = some w) : EachNode p w := by
  cases step with
  | key name =>
    cases v with
    | object fields =>
      have hmem := Entries.mem_of_lookup_eq_some hw
      exact eachField_iff.mp h.2 (name, w) hmem
    | _ => cases hw
  | index position =>
    cases v with
    | array items => exact eachItem_iff.mp h.2 w (List.mem_of_getElem? hw)
    | _ => cases hw

end EachNode

/-- Whether all keys of a node are plain. -/
def HasPlainKeys : Value → Prop
  | .object fields => ∀ k ∈ Entries.keys fields, PlainKey k
  | _ => True

/-- Whether the positions of a node are those of a word. No array in memory is longer. -/
def FitsWord : Value → Prop
  | .array items => items.length ≤ UInt64.size
  | _ => True

theorem plain_of_lookup? {v w : Value} (hk : v.HasPlainKeys) (hl : v.FitsWord) {step : Step}
    (h : step.lookup? v = some w) : step.Plain := by
  cases step with
  | key name =>
    cases v with
    | object fields => exact hk name (Entries.mem_keys_of_lookup_eq_some h)
    | _ => cases h
  | index position =>
    cases v with
    | array items =>
      obtain ⟨hlt, -⟩ := List.getElem?_eq_some_iff.mp h
      exact Nat.lt_of_lt_of_le hlt hl
    | _ => cases h

/-- A walk that begins with a required step goes on from the node that the step leads to. -/
theorem resolve_required_cons {v w : Value} {step : Step} (h : step.lookup? v = some w) (p : Path) :
    v.resolve (.required step :: p) = (w.resolve p).mapError (.required step :: ·) := by
  have hfound : v.resolve [.required step] = .ok (some w) := by
    rw [resolve, walk_required_of_some h]
    rfl
  rw [← List.singleton_append, resolve_append, hfound]
  rfl

end Value

namespace Schema

/-- Whether all keys that a node of a schema declares, or a literal has, are plain. -/
def HasPlainKeys : Schema → Prop
  | .object shape _ _ => ∀ k ∈ Entries.keys shape, PlainKey k
  | .leaf (.literal sample) _ => sample.EachNode Value.HasPlainKeys
  | _ => True

/-- What a schema asks for at a step. -/
inductive Below : Schema → Step → Schema → Prop where
  | field {shape : List (String × Schema)} {isOpen : Bool} {r : Rules} {key : String} {t : Schema} :
      (key, t) ∈ shape → Below (.object shape isOpen r) (.key key) t
  | element {element : Schema} {r : Rules} {position : Nat} :
      Below (.array element r) (.index position) element
  | sampleField {want : List (String × Value)} {r : Rules} {key : String} {sample : Value} :
      (key, sample) ∈ want → Below (.leaf (.literal (.object want)) r) (.key key) (.literal sample)
  | sampleItem {want : List Value} {r : Rules} {position : Nat} {sample : Value} :
      want[position]? = some sample →
        Below (.leaf (.literal (.array want)) r) (.index position) (.literal sample)

/-- The keys that a schema for mappings knows. -/
def declared? : Schema → Option (List String)
  | .object shape _ _ => some (Entries.keys shape)
  | .leaf (.literal (.object want)) _ => some (Entries.keys want)
  | _ => none

/-- Whether a schema for mappings refuses the keys that it does not know. -/
def RefusesUnknown : Schema → Prop
  | .object _ isOpen _ => isOpen = false
  | .leaf (.literal (.object _)) _ => True
  | _ => False

/-- A walk along a path through a schema and a document side by side. -/
inductive At : Schema → Value → Path → Schema → Value → Prop where
  | root {s : Schema} {v : Value} : At s v [] s v
  | step {s t t' : Schema} {v w w' : Value} {step : Step} {p : Path} : Below s step t →
      step.lookup? v = some w → At t w p t' w' → At s v (.required step :: p) t' w'

variable {s t : Schema} {v w : Value} {p : Path}

theorem hasPlainKeys_below {step : Step} (h : Below s step t) (hs : s.EachNode HasPlainKeys) :
    t.EachNode HasPlainKeys := by
  cases h with
  | field hmem => exact eachField_iff.mp hs.2 _ hmem
  | element => exact hs.2
  | @sampleField want r key sample hmem =>
    have hwant : (Value.object want).EachNode Value.HasPlainKeys := hs
    exact Value.eachField_iff.mp hwant.2 (key, sample) hmem
  | @sampleItem want r position sample hmem =>
    have hwant : (Value.array want).EachNode Value.HasPlainKeys := hs
    exact Value.eachItem_iff.mp hwant.2 sample (List.mem_of_getElem? hmem)

theorem plain_of_mem_declared {declared : List String} (hd : s.declared? = some declared)
    (hs : s.HasPlainKeys) {key : String} (h : key ∈ declared) : PlainKey key := by
  cases s with
  | object shape isOpen r =>
    cases hd
    exact hs key h
  | array element r => cases hd
  | leaf kind r =>
    cases kind with
    | literal sample =>
      cases sample with
      | object want =>
        cases hd
        have hwant : (Value.object want).EachNode Value.HasPlainKeys := hs
        exact hwant.1 key h
      | _ => cases hd
    | _ => cases hd

theorem At.required (h : At s v p t w) : ∀ segment ∈ p, segment.isOptional = false := by
  induction h with
  | root => simp
  | step _ _ _ ih => exact List.forall_mem_cons.mpr ⟨rfl, ih⟩

theorem At.plain (h : At s v p t w) (hk : v.EachNode Value.HasPlainKeys)
    (hl : v.EachNode Value.FitsWord) : ∀ segment ∈ p, segment.step.Plain := by
  induction h with
  | root => simp
  | step _ hfound _ ih =>
    refine List.forall_mem_cons.mpr ⟨Value.plain_of_lookup? hk.root hl.root hfound, ?_⟩
    exact ih (hk.lookup? hfound) (hl.lookup? hfound)

theorem At.hasPlainKeys (h : At s v p t w) (hs : s.EachNode HasPlainKeys)
    (hk : v.EachNode Value.HasPlainKeys) :
    t.EachNode HasPlainKeys ∧ w.EachNode Value.HasPlainKeys := by
  induction h with
  | root => exact ⟨hs, hk⟩
  | step hbelow hfound _ ih => exact ih (hasPlainKeys_below hbelow hs) (hk.lookup? hfound)

theorem At.resolve (h : At s v p t w) : v.resolve p = .ok (some w) := by
  induction h with
  | root => rfl
  | step _ hfound _ ih =>
    rw [Value.resolve_required_cons hfound, ih]
    rfl

/-- A walk that goes on from the node that is reached is a walk from the root. -/
theorem At.resolve_append (h : At s v p t w) (q : Path) :
    v.resolve (p ++ q) = (w.resolve q).mapError (p ++ ·) := by
  rw [Value.resolve_append, h.resolve]

section AtKey

variable {fields : List (String × Value)} {key : String}

/-- A key of the mapping that is reached is found, or the walk breaks off there. -/
theorem At.resolve_atKey (h : At s v p t (.object fields)) :
    v.resolve (p.atKey key) =
      match fields.lookup key with
      | some x => .ok (some x)
      | none => .error (p.atKey key) := by
  rw [Path.atKey, h.resolve_append]
  unfold Value.resolve
  rw [Value.walk, Segment.lookup?, Segment.required, Step.lookup?]
  cases fields.lookup key <;> rfl

theorem At.required_atKey (h : At s v p t w) :
    ∀ segment ∈ p.atKey key, segment.isOptional = false := by
  intro segment hmem
  rcases List.mem_append.mp hmem with hmem | hmem
  · exact h.required segment hmem
  · rw [List.mem_singleton.mp hmem]
    rfl

/-- The way to a plain key of the node that is reached reads back. -/
theorem At.parse_atKey (h : At s v p t w) (hk : v.EachNode Value.HasPlainKeys)
    (hl : v.EachNode Value.FitsWord) (hkey : PlainKey key) :
    Path.parse (Path.text (p.atKey key)) = .ok (p.atKey key) := by
  refine Path.parse_text (by simp [Path.atKey]) ?_
  intro segment hmem
  rcases List.mem_append.mp hmem with hmem | hmem
  · exact h.plain hk hl segment hmem
  · rw [List.mem_singleton.mp hmem]
    exact hkey

end AtKey

end Schema

/-! ### Failures of a node -/

/-- Whether a cause is about the node that a failure is placed at, not about a key of the mapping
around it. -/
def Cause.OfNode : Cause → Prop
  | .missing _ | .unexpected _ => False
  | _ => True

theorem Cause.rule_of_ofNode {c : Cause} (h : c.OfNode) :
    c.rule ≠ .required ∧ c.rule ≠ .additionalProperties := by
  cases c with
  | missing key => exact h.elim
  | unexpected key => exact h.elim
  | outOfBound side bound measured => cases side <;> exact ⟨nofun, nofun⟩
  | _ => exact ⟨nofun, nofun⟩

/-- Whether a failure is placed at the root and is about it. -/
def Failure.IsOwn (f : Failure) : Prop :=
  ∃ cause : Cause, cause.OfNode ∧ f = .here cause

theorem Failure.isOwn_here {cause : Cause} (h : cause.OfNode) : (here cause).IsOwn :=
  ⟨cause, h, rfl⟩

theorem Rules.isOwn_of_mem_failures {r : Rules} {v : Value} {f : Failure} (h : f ∈ r.failures v) :
    f.IsOwn := by
  have hbound : ∀ side bound, f ∈ boundFailures side bound v → f.IsOwn := by
    intro side bound hmem
    unfold boundFailures at hmem
    split at hmem
    · split at hmem
      · cases hmem
      · rw [List.mem_singleton.mp hmem]
        exact Failure.isOwn_here trivial
    · cases hmem
  unfold failures at h
  rcases List.mem_append.mp h with h | h
  · rcases List.mem_append.mp h with h | h
    · split at h
      · split at h
        · cases h
        · rw [List.mem_singleton.mp h]
          exact Failure.isOwn_here trivial
      · cases h
    · exact hbound _ _ h
  · exact hbound _ _ h

theorem LeafKind.isOwn_of_mem_patternFailures {kind : LeafKind} {v : Value} {f : Failure}
    (h : f ∈ kind.patternFailures v) : f.IsOwn := by
  unfold patternFailures at h
  split at h
  · split at h
    · cases h
    · rw [List.mem_singleton.mp h]
      exact Failure.isOwn_here trivial
  · cases h

/-- The first failure of a node whose type does not fit is about its type. -/
theorem Rules.isOwn_or_of_head? {r : Rules} {expected : Option Tag} {v : Value}
    {rest : Value → List Failure} {f : Failure}
    (h : (r.failuresOnceAdmitted expected v rest).head? = some f) :
    f.IsOwn ∨ ∃ w, (rest w).head? = some f ∧
      ∀ t, expected = some t → w = r.prepared t v ∧ w.tag = t := by
  cases expected with
  | none => exact .inr ⟨v, h, nofun⟩
  | some t =>
    unfold failuresOnceAdmitted at h
    dsimp only at h
    split at h
    · rename_i htag
      refine .inr ⟨_, h, ?_⟩
      rintro _ ⟨⟩
      exact ⟨rfl, htag⟩
    · cases h
      exact .inl (Failure.isOwn_here trivial)

/-- Past its type a container is itself checked on. -/
theorem Rules.isOwn_or_of_head?_container {r : Rules} {t : Tag} (ht : t.isContainer) {v : Value}
    {rest : Value → List Failure} {f : Failure}
    (h : (r.failuresOnceAdmitted (some t) v fun w => r.failures w ++ rest w).head? = some f) :
    f.IsOwn ∨ v.tag = t ∧ (rest v).head? = some f := by
  rcases isOwn_or_of_head? h with h | ⟨w, hw, hprepared⟩
  · exact .inl h
  · obtain ⟨rfl, htag⟩ := hprepared t rfl
    rw [prepared_container ht] at hw htag
    rw [List.head?_append, Option.or_eq_some_iff] at hw
    rcases hw with hw | ⟨-, hw⟩
    · exact .inl (isOwn_of_mem_failures (List.mem_of_head? hw))
    · exact .inr ⟨htag, hw⟩

namespace Schema

/-- What the first failure of a node is when it does not come from further inside: a failure of the
node itself, or of a key of it that is missing or not known. -/
inductive FailsHere : Schema → Value → Path → Cause → Prop where
  | own {s : Schema} {v : Value} {cause : Cause} : cause.OfNode →
      s.error? v = some (.here cause) → FailsHere s v [] cause
  | missing {s : Schema} {fields : List (String × Value)} {declared : List String} {key : String} :
      s.declared? = some declared → key ∈ declared → fields.lookup key = none →
        FailsHere s (.object fields) (Path.atKey [] key) (.missing key)
  | unexpected {s : Schema} {fields : List (String × Value)} {declared : List String} {key : String}
      {w : Value} :
      s.RefusesUnknown → s.declared? = some declared → key ∉ declared →
        fields.lookup key = some w →
          FailsHere s (.object fields) (Path.atKey [] key) (.unexpected key)

/-- Whether a failure is the first one of a node below. -/
def FailsBelow (s : Schema) (v : Value) (f : Failure) : Prop :=
  ∃ step t w g, s.Below step t ∧ step.lookup? v = some w ∧ t.error? w = some g ∧
    f = g.under [.required step]

variable {s : Schema} {v : Value} {f : Failure}

theorem failsHere_of_isOwn (h : s.error? v = some f) (hown : f.IsOwn) :
    s.FailsHere v f.trail f.cause := by
  obtain ⟨cause, hcause, rfl⟩ := hown
  exact .own hcause h

theorem failsHere_of_head?_undeclaredFailures {declared : List String}
    {fields : List (String × Value)} (hr : s.RefusesUnknown) (hd : s.declared? = some declared)
    (h : (undeclaredFailures declared (Entries.keys fields)).head? = some f) :
    s.FailsHere (.object fields) f.trail f.cause := by
  obtain ⟨key, hkey, rfl⟩ := List.mem_map.mp (List.mem_of_head? h)
  obtain ⟨hmem, hunknown⟩ := List.mem_filter.mp hkey
  have hnot : key ∉ declared := by simpa using hunknown
  cases hl : fields.lookup key with
  | none => exact absurd hmem (Entries.lookup_eq_none_iff_notMem.mp hl)
  | some w => exact .unexpected hr hd hnot hl

/-- What is missing at a declared key, or the first failure of what is found there. -/
theorem fails_of_head?_fieldFailures {declared : List String} {fields : List (String × Value)}
    (hd : s.declared? = some declared) {shape : List (String × Schema)}
    (hshape : ∀ e ∈ shape, e.1 ∈ declared ∧ s.Below (.key e.1) e.2)
    (h : (fieldFailures shape fields).head? = some f) :
    s.FailsHere (.object fields) f.trail f.cause ∨ s.FailsBelow (.object fields) f := by
  induction shape with
  | nil => cases h
  | cons e rest ih =>
    obtain ⟨key, t⟩ := e
    rw [List.forall_mem_cons] at hshape
    obtain ⟨⟨hkey, hbelow⟩, hrest⟩ := hshape
    rw [fieldFailures, List.head?_append, Option.or_eq_some_iff] at h
    rcases h with h | ⟨-, h⟩
    · cases hl : fields.lookup key with
      | some w =>
        rw [hl] at h
        dsimp only at h
        rw [List.head?_map, Option.map_eq_some_iff] at h
        obtain ⟨g, hg, rfl⟩ := h
        rw [← error?_eq_head?] at hg
        exact .inr ⟨.key key, t, w, g, hbelow, hl, hg, rfl⟩
      | none =>
        rw [hl] at h
        dsimp only at h
        split at h
        · cases h
        · cases h
          exact .inl (.missing hd hkey hl)
    · exact ih hrest h

/-- The first mismatch item by item, from a position on that both arrays have come to. -/
theorem failsBelow_of_head?_itemMismatches {want items : List Value} {r : Rules} {i : Nat}
    (h : (itemMismatches (want.drop i) i (items.drop i)).head? = some f) :
    (leaf (.literal (.array want)) r).FailsBelow (.array items) f := by
  induction hrest : want.drop i generalizing i with
  | nil =>
    rw [hrest] at h
    cases h
  | cons sample rest ih =>
    rw [hrest] at h
    have hwant : want[i]? = some sample := by
      rw [← List.head?_drop, hrest]
      rfl
    have hlater : want.drop (i + 1) = rest := by
      rw [← List.tail_drop, hrest]
      rfl
    cases hitems : items.drop i with
    | nil =>
      rw [hitems] at h
      cases h
    | cons w later =>
      rw [hitems, itemMismatches, List.head?_append, Option.or_eq_some_iff] at h
      have hfound : items[i]? = some w := by
        rw [← List.head?_drop, hitems]
        rfl
      rcases h with h | ⟨-, h⟩
      · rw [List.head?_map, Option.map_eq_some_iff] at h
        obtain ⟨g, hg, rfl⟩ := h
        rw [← failures_literal, ← error?_eq_head?] at hg
        exact ⟨.index i, _, w, g, .sampleItem hwant, hfound, hg, rfl⟩
      · refine ih ?_ hlater
        have hitemsLater : items.drop (i + 1) = later := by
          rw [← List.tail_drop, hitems]
          rfl
        rw [hlater, hitemsLater]
        exact h

theorem failsBelow_of_head?_elementFailures {element : Schema} {r : Rules} {items : List Value}
    (h : (items.zipIdx.flatMap fun e => (element.failures e.1).map (.atIndex e.2)).head? = some f) :
    (array element r).FailsBelow (.array items) f := by
  rw [List.head?_flatMap] at h
  obtain ⟨⟨w, i⟩, hmem, h⟩ := List.exists_of_findSome?_eq_some h
  rw [List.head?_map, Option.map_eq_some_iff] at h
  obtain ⟨g, hg, rfl⟩ := h
  rw [← error?_eq_head?] at hg
  exact ⟨.index i, element, w, g, .element, List.mem_zipIdx_iff_getElem?.mp hmem, hg, rfl⟩

theorem fails_of_literal {sample : Value} {r : Rules}
    (h : (leaf (.literal sample) r).error? v = some f) (hm : (sample.mismatches v).head? = some f) :
    (leaf (.literal sample) r).FailsHere v f.trail f.cause ∨
      (leaf (.literal sample) r).FailsBelow v f := by
  unfold Value.mismatches at hm
  split at hm
  · rw [List.head?_append, Option.or_eq_some_iff] at hm
    rcases hm with hm | ⟨-, hm⟩
    · rw [fieldMismatches_eq] at hm
      refine fails_of_head?_fieldFailures rfl ?_ hm
      rw [List.forall_mem_map]
      intro e he
      exact ⟨Entries.mem_keys_of_mem he, .sampleField he⟩
    · exact .inl (failsHere_of_head?_undeclaredFailures trivial rfl hm)
  · split at hm
    · exact .inr (failsBelow_of_head?_itemMismatches (i := 0) hm)
    · cases hm
      exact .inl (failsHere_of_isOwn h (Failure.isOwn_here trivial))
  · split at hm
    · cases hm
      exact .inl (failsHere_of_isOwn h (Failure.isOwn_here trivial))
    · split at hm
      · cases hm
      · cases hm
        exact .inl (failsHere_of_isOwn h (Failure.isOwn_here trivial))

/-- The first failure of a node is one of the node itself or the first failure of a node below. -/
theorem error?_cases (h : s.error? v = some f) :
    s.FailsHere v f.trail f.cause ∨ s.FailsBelow v f := by
  have hfailures := h
  rw [error?_eq_head?] at hfailures
  cases s with
  | leaf kind r =>
    unfold failures at hfailures
    split at hfailures
    · cases hfailures
    · split at hfailures
      · exact fails_of_literal h hfailures
      · rcases Rules.isOwn_or_of_head? hfailures with hown | ⟨w, hw, -⟩
        · exact .inl (failsHere_of_isOwn h hown)
        · rcases List.mem_append.mp (List.mem_of_head? hw) with hw | hw
          · exact .inl (failsHere_of_isOwn h (Rules.isOwn_of_mem_failures hw))
          · exact .inl (failsHere_of_isOwn h (LeafKind.isOwn_of_mem_patternFailures hw))
  | array element r =>
    rw [failures] at hfailures
    split at hfailures
    · cases hfailures
    · rcases Rules.isOwn_or_of_head?_container rfl hfailures with hown | ⟨-, hitems⟩
      · exact .inl (failsHere_of_isOwn h hown)
      · split at hitems
        · exact .inr (failsBelow_of_head?_elementFailures hitems)
        · cases hitems
  | object shape isOpen r =>
    rw [failures] at hfailures
    split at hfailures
    · cases hfailures
    · rcases Rules.isOwn_or_of_head?_container rfl hfailures with hown | ⟨-, hfields⟩
      · exact .inl (failsHere_of_isOwn h hown)
      · split at hfields
        · rw [List.head?_append, Option.or_eq_some_iff] at hfields
          rcases hfields with hdeclared | ⟨-, hunknown⟩
          · refine fails_of_head?_fieldFailures rfl ?_ hdeclared
            intro e he
            exact ⟨Entries.mem_keys_of_mem he, .field he⟩
          · split at hunknown
            · cases hunknown
            · rename_i hclosed
              exact .inl
                (failsHere_of_head?_undeclaredFailures (eq_false_of_ne_true hclosed) rfl hunknown)
        · cases hfields

/-- The first failure is one of a node that a walk reaches, whose way is the beginning of the trail.
The induction is on the trail, whose first segment is the step to the node below. -/
theorem exists_at_of_error? (h : s.error? v = some f) :
    ∃ p t w rest, s.At v p t w ∧ t.FailsHere w rest f.cause ∧ f.trail = p ++ rest := by
  obtain ⟨trail, cause⟩ := f
  induction trail generalizing s v with
  | nil =>
    rcases error?_cases h with hhere | ⟨step, t, w, g, -, -, -, heq⟩
    · exact ⟨[], s, v, [], .root, hhere, rfl⟩
    · cases heq
  | cons segment trail ih =>
    rcases error?_cases h with hhere | ⟨step, t, w, g, hbelow, hfound, hg, heq⟩
    · exact ⟨[], s, v, segment :: trail, .root, hhere, rfl⟩
    · obtain ⟨trail', cause'⟩ := g
      cases heq
      obtain ⟨p, t', w', rest, hat, hhere, htrail⟩ := ih hg
      refine ⟨.required step :: p, t', w', rest, .step hbelow hfound hat, hhere, ?_⟩
      rw [List.cons_append, ← htrail]

/-! ### Reported failures -/

/-- Whether a node on its own fails with the rule and the message of a failure. -/
def FailsItself (s : Schema) (v : Value) (f : Failure) : Prop :=
  ∃ g, s.error? v = some g ∧ g.path = "" ∧ g.rule = f.rule ∧ g.message = f.message

/-- What is found at the path of a failure. Where a field is missing the walk breaks off at the very
end, in a mapping that should have the key; where a key is not known the walk leads to its value in
a mapping that may have no other keys than those declared; else it leads to a node that fails by
itself. -/
def Locates (s : Schema) (v : Value) (f : Failure) (p : Path) : Prop :=
  match f.rule with
  | .required => ∃ parent key t fields declared, p = parent.atKey key ∧
      s.At v parent t (.object fields) ∧ t.declared? = some declared ∧ key ∈ declared ∧
      v.resolve parent = .ok (some (.object fields)) ∧
      PathArgument.resolve (Path.parse f.path) v = .error (.absent f.path)
  | .additionalProperties => ∃ parent key t fields declared w, p = parent.atKey key ∧
      s.At v parent t (.object fields) ∧ t.RefusesUnknown ∧ t.declared? = some declared ∧
      key ∉ declared ∧
      v.resolve parent = .ok (some (.object fields)) ∧ fields.lookup key = some w ∧
      PathArgument.resolve (Path.parse f.path) v = .ok (some w)
  | _ => ∃ t w, s.At v p t w ∧ t.FailsItself w f ∧
      PathArgument.resolve (Path.parse f.path) v = .ok (some w)

section Locates

variable {t : Schema} {w : Value} {p : Path}

theorem locates_of_own {cause : Cause} (hat : s.At v p t w) (hcause : cause.OfNode)
    (hown : t.error? w = some (.here cause)) (hparse : Path.parse (Path.text p) = .ok p) :
    s.Locates v ⟨p, cause⟩ p := by
  obtain ⟨hmissing, hunknown⟩ := Cause.rule_of_ofNode hcause
  have hitself : t.FailsItself w ⟨p, cause⟩ := ⟨_, hown, rfl, rfl, rfl⟩
  have hresolve : PathArgument.resolve (Path.parse (Path.text p)) v = .ok (some w) := by
    rw [hparse, PathArgument.resolve, hat.resolve]
  unfold Locates
  split
  · rename_i hrule
    exact absurd hrule hmissing
  · rename_i hrule
    exact absurd hrule hunknown
  · exact ⟨t, w, hat, hitself, hresolve⟩

variable {fields : List (String × Value)} {declared : List String} {key : String}
  (hat : s.At v p t (.object fields)) (hdeclared : t.declared? = some declared)
  (hparse : Path.parse (Path.text (p.atKey key)) = .ok (p.atKey key))

include hat hdeclared hparse

theorem locates_of_missing (hmem : key ∈ declared) (hnone : fields.lookup key = none) :
    s.Locates v ⟨p.atKey key, .missing key⟩ (p.atKey key) := by
  refine ⟨p, key, t, fields, declared, rfl, hat, hdeclared, hmem, hat.resolve, ?_⟩
  have hbroken : v.resolve (p.atKey key) = .error (p.atKey key) := by
    rw [hat.resolve_atKey, hnone]
  rw [Failure.path, hparse, PathArgument.resolve, hbroken]

theorem locates_of_unexpected (hr : t.RefusesUnknown) (hnot : key ∉ declared)
    (hfound : fields.lookup key = some w) :
    s.Locates v ⟨p.atKey key, .unexpected key⟩ (p.atKey key) := by
  refine ⟨p, key, t, fields, declared, w, rfl, hat, hr, hdeclared, hnot, hat.resolve, hfound, ?_⟩
  have hreached : v.resolve (p.atKey key) = .ok (some w) := by
    rw [hat.resolve_atKey, hfound]
  rw [Failure.path, hparse, PathArgument.resolve, hreached]

end Locates

/-- Where all keys are plain, a reported failure is about the root and has no path, or its path
parses to required segments and locates its cause. -/
theorem error?_located (hs : s.EachNode HasPlainKeys) (hk : v.EachNode Value.HasPlainKeys)
    (hl : v.EachNode Value.FitsWord) (h : s.error? v = some f) :
    f.path = "" ∧ f.trail = [] ∧ f.rule ≠ .required ∧ f.rule ≠ .additionalProperties ∨
      ∃ p, Path.parse f.path = .ok p ∧ (∀ segment ∈ p, segment.isOptional = false) ∧
        s.Locates v f p := by
  obtain ⟨p, t, w, rest, hat, hhere, htrail⟩ := exists_at_of_error? h
  obtain ⟨htplain, hwplain⟩ := hat.hasPlainKeys hs hk
  obtain ⟨trail, cause⟩ := f
  dsimp only at hhere htrail
  subst htrail
  cases hhere with
  | own hcause hown =>
    rw [List.append_nil]
    by_cases hroot : p = []
    · subst hroot
      exact .inl ⟨rfl, rfl, Cause.rule_of_ofNode hcause⟩
    · have hparse : Path.parse (Path.text p) = .ok p := Path.parse_text hroot (hat.plain hk hl)
      exact .inr ⟨p, hparse, hat.required, locates_of_own hat hcause hown hparse⟩
  | missing hdeclared hmem hnone =>
    have hkey := plain_of_mem_declared hdeclared htplain.root hmem
    have hparse := hat.parse_atKey hk hl hkey
    exact .inr ⟨_, hparse, hat.required_atKey, locates_of_missing hat hdeclared hparse hmem hnone⟩
  | unexpected hr hdeclared hnot hfound =>
    have hkey := hwplain.root _ (Entries.mem_keys_of_lookup_eq_some hfound)
    have hparse := hat.parse_atKey hk hl hkey
    exact .inr ⟨_, hparse, hat.required_atKey,
      locates_of_unexpected hat hdeclared hparse hr hnot hfound⟩

/-- A key that a literal, the element of an array, lacks. -/
theorem error?_located_in_literal :
    ∃ f, (object [("rows", arrayOf (literal (.object [("id", .string "x")])))] false {}).error?
        (.object [("rows", .array [.object [("id", .string "x"), ("note", .null)]])]) = some f ∧
      f.path = "rows[0].note" ∧
      ∃ p, Path.parse f.path = .ok p ∧ (∀ segment ∈ p, segment.isOptional = false) ∧
        (object [("rows", arrayOf (literal (.object [("id", .string "x")])))] false {}).Locates
          (.object [("rows", .array [.object [("id", .string "x"), ("note", .null)]])]) f p := by
  refine ⟨⟨[.required (.key "rows"), .required (.index 0), .required (.key "note")],
    .unexpected "note"⟩, by decide, by decide +kernel, ?_⟩
  refine (error?_located ?_ ?_ ?_ ?_).resolve_left ?_
  · simp [EachNode, EachField, HasPlainKeys, arrayOf, literal, ofKind, PlainKey, Value.EachNode,
      Value.EachField, Value.HasPlainKeys]
  · simp [Value.EachNode, Value.EachField, Value.EachItem, Value.HasPlainKeys, PlainKey]
  · simp [Value.EachNode, Value.EachField, Value.EachItem, Value.FitsWord, UInt64.size]
  · decide
  · decide +kernel

end Schema
end DocShape
