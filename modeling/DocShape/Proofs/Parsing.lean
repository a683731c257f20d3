import DocShape.Proofs.EntryLaws
import DocShape.Proofs.TrailNeutrality
import Mathlib.Data.List.Forall2

/-!
What documents parse to, node by node and without trails.

* `parse_of_skips`: a null that is accepted parses to the default, if there is one.
* `parse_leaf_eq_ok_iff`, `eq_of_parse_untagged_leaf`: at a leaf the node is converted or kept.
* `parse_array_eq_ok_iff`: the items of an array are parsed one by one.
* `parse_object_eq_ok_iff`: the patches of the declared fields are put into an object.
* `settlesField_of_parse_object`, `parse_object_self`: what is found at a declared key is parsed
  there, the default is put where nothing is found, and an object of which this holds already
  parses to itself.
* `eq_null_of_parse_null`, `keys_of_checkFields`: without defaults null stays null and an object
  keeps its keys.
-/

namespace DocShape

section Success

variable {α β : Type}

theorem ok_bind (a : α) (f : α → Except Failure β) : .ok a >>= f = f a := rfl

theorem bind_eq_ok_iff {x : Except Failure α} {f : α → Except Failure β} {b : β} :
    x >>= f = .ok b ↔ ∃ a, x = .ok a ∧ f a = .ok b := by
  cases x <;> simp [bind, Except.bind]

/-- A test that comes first. -/
theorem test_bind_eq_ok_iff {x : Except Failure Unit} {f : Unit → Except Failure β} {b : β} :
    x >>= f = .ok b ↔ x = .ok () ∧ f () = .ok b := by
  cases x <;> simp [bind, Except.bind]

theorem pure_eq_ok_iff {a b : α} : (pure a : Except Failure α) = .ok b ↔ a = b := by
  simp [pure, Except.pure]

theorem map_eq_ok_iff {x : Except Failure α} {f : α → β} {b : β} :
    x.map f = .ok b ↔ ∃ a, x = .ok a ∧ f a = b := by
  cases x <;> simp [Except.map]

/-- A test that fails with the first of some failures succeeds when there is none. -/
theorem eq_ok_iff_of_firstFailure {x : Except Failure Unit} {trail : Path} {fs : List Failure}
    (h : firstFailure x = firstUnder trail fs) : x = .ok () ↔ fs = [] := by
  cases x <;> cases fs <;> simp [firstUnder] at h ⊢

end Success

theorem Rules.restrict_eq_ok_iff {r : Rules} {trail : Path} {v : Value} :
    r.restrict trail v = .ok () ↔ r.failures v = [] :=
  eq_ok_iff_of_firstFailure (r.firstFailure_restrict trail v)

theorem refuseUndeclared_eq_ok_iff {trail : Path} {declared keys : List String} :
    refuseUndeclared trail declared keys = .ok () ↔ ∀ k ∈ keys, k ∈ declared := by
  rw [eq_ok_iff_of_firstFailure (firstFailure_refuseUndeclared trail declared keys),
    Schema.undeclaredFailures_eq_nil_iff]

/-- A leaf with a tag replaces the node by the prepared one. -/
theorem LeafKind.on_check_iff {kind : LeafKind} {t : Tag} (ht : kind.tag? = some t)
    (trail : Path) {r : Rules} {v w : Value} :
    (∃ o, kind.check r trail v = .ok o ∧ o.on v = w) ↔
      w = r.prepared t v ∧ w.tag = t ∧ r.failures w = [] ∧ kind.patternFailures w = [] := by
  have hcheck : kind.check r trail v = r.admit trail (some t) v >>= fun o =>
      r.restrict trail (o.on v) >>= fun _ => kind.checkPattern trail (o.on v) >>= fun _ =>
        pure o := by
    cases kind <;> cases ht <;> rfl
  rw [hcheck]
  obtain ⟨o, ho, hp, htag⟩ | ⟨he, htag⟩ := r.admit_cases trail t v
  · rw [ho]
    simp only [ok_bind, test_bind_eq_ok_iff, Rules.restrict_eq_ok_iff,
      eq_ok_iff_of_firstFailure (firstFailure_checkPattern kind trail _), pure_eq_ok_iff]
    constructor
    · rintro ⟨o', ⟨hr, hk, rfl⟩, rfl⟩
      rw [hp] at hr hk ⊢
      exact ⟨rfl, htag, hr, hk⟩
    · rintro ⟨rfl, -, hr, hk⟩
      rw [← hp] at hr hk
      exact ⟨o, ⟨hr, hk, rfl⟩, hp⟩
  · rw [he]
    constructor
    · rintro ⟨o, ho, -⟩
      cases ho
    · rintro ⟨rfl, hw, -⟩
      exact absurd hw htag

/-! ### Rebuilding -/

/-- The items after a check of each of them. -/
def settledItems (items : List Value) (rs : List Outcome) : List Value :=
  List.zipWith (fun v r => r.on v) items rs

/-- One more item is put behind those before it, whether they were copied already or not. -/
theorem elim_copyItem (before rest : List Value) (copy : Option (Array Value)) (v : Value)
    (r : Outcome) :
    (copyItem (before ++ v :: rest) copy before.length v r).elim (before ++ [v]) Array.toList =
      copy.elim before Array.toList ++ [r.on v] := by
  cases r with
  | kept => cases copy <;> simp [copyItem]
  | replaced w => cases copy <;> simp [copyItem]

/-- The settled items are put behind those before them. The induction is on the items that are
left; up to the first one that is replaced there is no copy, and the array itself stands for it. -/
theorem elim_copyItems (before : List Value) {items : List Value} {rs : List Outcome}
    (hlen : rs.length = items.length) (copy : Option (Array Value)) :
    (copyItems (before ++ items) copy before.length (items.zip rs)).elim (before ++ items)
      Array.toList = copy.elim before Array.toList ++ settledItems items rs := by
  induction items generalizing before rs copy with
  | nil => simp [copyItems, settledItems]
  | cons v rest ih =>
    cases rs with
    | nil => cases hlen
    | cons r rs =>
      have hrest := ih (before ++ [v]) (Nat.succ.inj hlen)
        (copyItem (before ++ v :: rest) copy before.length v r)
      rw [List.append_assoc, List.singleton_append, List.length_append, List.length_singleton,
        elim_copyItem, List.append_assoc] at hrest
      exact hrest

/-- Whether an array is rebuilt or kept, its items are the settled ones. -/
theorem on_rebuildItems {items : List Value} {rs : List Outcome}
    (hlen : rs.length = items.length) :
    (rebuildItems items rs).on (.array items) = .array (settledItems items rs) := by
  have hcopy : (copyItems items none 0 (items.zip rs)).elim items Array.toList =
      settledItems items rs := elim_copyItems [] hlen none
  unfold rebuildItems
  rw [← hcopy]
  cases copyItems items none 0 (items.zip rs) <;> rfl

/-- Whether an object is rebuilt or kept, the patches are put into it. -/
theorem on_rebuildFields (fields patches : List (String × Value)) :
    (rebuildFields fields patches).on (.object fields) =
      .object (Entries.insertAll fields patches) := by
  unfold rebuildFields
  cases patches <;> rfl

theorem length_of_checkItems {check : Path → Value → Except Failure Outcome} {trail : Path}
    {i : Nat} {items : List Value} {rs : List Outcome}
    (h : checkItems check trail i items = .ok rs) :
    rs.length = items.length := by
  induction items generalizing i rs with
  | nil =>
    cases h
    rfl
  | cons v rest ih =>
    simp only [checkItems, bind_eq_ok_iff, pure_eq_ok_iff] at h
    obtain ⟨r, -, rs', hrest, rfl⟩ := h
    rw [List.length_cons, List.length_cons, ih hrest]

namespace Schema

/-- A document parses to what becomes of it in a check, at whatever trail. -/
theorem parse_eq_ok_iff {s : Schema} {v w : Value} (trail : Path) :
    s.parse v = .ok w ↔ ∃ o, s.check trail v = .ok o ∧ o.on v = w := by
  unfold parse
  rw [map_eq_ok_iff]
  constructor
  · rintro ⟨o, ho, hw⟩
    exact ⟨o, (trailNeutral_check s v).eq_ok ho trail, hw⟩
  · rintro ⟨o, ho, hw⟩
    exact ⟨o, (trailNeutral_check s v).eq_ok ho [], hw⟩

theorem mapM_eq_ok_iff {f : Value → Except Failure Value} {items ws : List Value} :
    items.mapM f = .ok ws ↔ List.Forall₂ (fun x w => f x = .ok w) items ws := by
  induction items generalizing ws with
  | nil => simp [pure, Except.pure, eq_comm]
  | cons x rest ih =>
    simp only [List.mapM_cons, bind_eq_ok_iff, pure_eq_ok_iff, ih, List.forall₂_cons_left_iff]
    constructor
    · rintro ⟨w, hw, later, hlater, rfl⟩
      exact ⟨w, later, hw, hlater, rfl⟩
    · rintro ⟨w, later, hw, hlater, rfl⟩
      exact ⟨w, hw, later, hlater, rfl⟩

theorem eq_map_of_mapM {f : Value → Except Failure Value} {g : Value → Value}
    {items ws : List Value} (h : ∀ x ∈ items, ∀ w, f x = .ok w → w = g x)
    (hitems : items.mapM f = .ok ws) : ws = items.map g := by
  rw [mapM_eq_ok_iff] at hitems
  induction hitems with
  | nil => rfl
  | cons hw _ ih =>
    rw [List.forall_mem_cons] at h
    rw [h.1 _ hw, ih h.2, List.map_cons]

/-- Items that are checked with success are those that parse one by one. -/
theorem mapM_parse_eq_ok_iff (trail : Path) (i : Nat) {s : Schema} {items ws : List Value} :
    items.mapM s.parse = .ok ws ↔
      ∃ rs, checkItems (fun t v => s.check t v) trail i items = .ok rs ∧
        settledItems items rs = ws := by
  induction items generalizing i ws with
  | nil => simp [checkItems, settledItems, pure, Except.pure]
  | cons v rest ih =>
    simp only [List.mapM_cons, checkItems, bind_eq_ok_iff, pure_eq_ok_iff,
      parse_eq_ok_iff (trail.atIndex i), ih (i + 1)]
    constructor
    · rintro ⟨w, ⟨r, hr, rfl⟩, ws', ⟨rs, hrs, rfl⟩, rfl⟩
      exact ⟨r :: rs, ⟨r, hr, rs, hrs, rfl⟩, rfl⟩
    · rintro ⟨-, ⟨r, hr, rs, hrs, rfl⟩, rfl⟩
      exact ⟨r.on v, ⟨r, hr, rfl⟩, _, ⟨rs, hrs, rfl⟩, rfl⟩

/-! ### Parsing at a node -/

/-- Whether the walk ends at a node because it is a null that is accepted. -/
def skips (s : Schema) (v : Value) : Bool :=
  v.isNull && s.rules.acceptsNull

theorem check_of_skips {s : Schema} {v : Value} (h : s.skips v) (trail : Path) :
    s.check trail v = .ok s.rules.onNull := by
  cases s <;> exact if_pos h

/-- Without leave to be null no null is skipped. -/
theorem skips_eq_false {s : Schema} (h : s.rules.acceptsNull = false) (v : Value) :
    s.skips v = false := by
  rw [skips, h, Bool.and_false]

/-- A null that is accepted parses to the default, if there is one. -/
theorem parse_of_skips {s : Schema} {v : Value} (h : s.skips v) :
    s.parse v = .ok (s.rules.default.getD .null) := by
  have hv : v = .null := Value.isNull_iff.mp (Bool.and_eq_true_iff.mp h).1
  unfold parse
  rw [check_of_skips h, hv]
  unfold Rules.onNull
  cases s.rules.default <;> rfl

/-- At a leaf with a tag the prepared node carries the tag and keeps the rules. -/
theorem parse_leaf_eq_ok_iff {kind : LeafKind} {t : Tag} (ht : kind.tag? = some t) {r : Rules}
    {v w : Value} (hv : (leaf kind r).skips v = false) :
    (leaf kind r).parse v = .ok w ↔
      w = r.prepared t v ∧ w.tag = t ∧ r.failures w = [] ∧ kind.patternFailures w = [] := by
  rw [parse_eq_ok_iff [], ← LeafKind.on_check_iff ht []]
  have hcheck : (leaf kind r).check [] v = kind.check r [] v := if_neg (ne_true_of_eq_false hv)
  rw [hcheck]

/-- At a leaf without a tag the node is kept. -/
theorem eq_of_parse_untagged_leaf {kind : LeafKind} (ht : kind.tag? = none) {r : Rules}
    {v w : Value} (hv : (leaf kind r).skips v = false) (h : (leaf kind r).parse v = .ok w) :
    w = v := by
  obtain ⟨o, ho, rfl⟩ := (parse_eq_ok_iff []).mp h
  have hcheck : (leaf kind r).check [] v = kind.check r [] v := if_neg (ne_true_of_eq_false hv)
  rw [hcheck] at ho
  cases kind with
  | any =>
    simp only [LeafKind.check, LeafKind.tag?, Rules.admit, bind_eq_ok_iff, Except.ok.injEq,
      exists_eq_left', pure_eq_ok_iff] at ho
    obtain ⟨-, -, -, -, rfl⟩ := ho
    rfl
  | literal sample =>
    simp only [LeafKind.check, bind_eq_ok_iff, pure_eq_ok_iff] at ho
    obtain ⟨-, -, rfl⟩ := ho
    rfl
  | _ => cases ht

/-- The items of an array are parsed one by one. -/
theorem parse_array_eq_ok_iff {element : Schema} {r : Rules} {v w : Value}
    (hv : (array element r).skips v = false) :
    (array element r).parse v = .ok w ↔
      ∃ items ws, v = .array items ∧ r.failures v = [] ∧ items.mapM element.parse = .ok ws ∧
        w = .array ws := by
  have hnull : ¬ (v.isNull && r.acceptsNull) = true := ne_true_of_eq_false hv
  simp only [parse_eq_ok_iff [], check, if_neg hnull]
  cases v with
  | array items =>
    simp only [test_bind_eq_ok_iff, Rules.restrict_eq_ok_iff]
    simp only [bind_eq_ok_iff, pure_eq_ok_iff, mapM_parse_eq_ok_iff [] 0]
    constructor
    · rintro ⟨-, ⟨hr, rs, hrs, rfl⟩, rfl⟩
      exact ⟨items, _, rfl, hr, ⟨rs, hrs, rfl⟩, on_rebuildItems (length_of_checkItems hrs)⟩
    · rintro ⟨_, _, ⟨rfl⟩, hr, ⟨rs, hrs, rfl⟩, rfl⟩
      exact ⟨_, ⟨hr, rs, hrs, rfl⟩, on_rebuildItems (length_of_checkItems hrs)⟩
  | _ => simp

/-- The patches of the declared fields are put into an object. -/
theorem parse_object_eq_ok_iff {shape : List (String × Schema)} {isOpen : Bool} {r : Rules}
    {v w : Value} (hv : (object shape isOpen r).skips v = false) :
    (object shape isOpen r).parse v = .ok w ↔
      ∃ fields patches, v = .object fields ∧ r.failures v = [] ∧
        checkFields shape [] fields = .ok patches ∧
        (isOpen ∨ ∀ k ∈ Entries.keys fields, k ∈ Entries.keys shape) ∧
        w = .object (Entries.insertAll fields patches) := by
  have hnull : ¬ (v.isNull && r.acceptsNull) = true := ne_true_of_eq_false hv
  simp only [parse_eq_ok_iff [], check, if_neg hnull]
  cases v with
  | object fields =>
    -- What comes after the declared fields.
    have hdone : ∀ (patched o : Outcome), (if isOpen then .ok () >>= fun _ => pure patched else
        refuseUndeclared [] (Entries.keys shape) (Entries.keys fields) >>= fun _ =>
          pure patched) = .ok o ↔
        (isOpen ∨ ∀ k ∈ Entries.keys fields, k ∈ Entries.keys shape) ∧ patched = o := by
      intro patched o
      cases isOpen with
      | true => simp only [if_true, ok_bind, pure_eq_ok_iff, true_or, true_and]
      | false =>
        simp only [Bool.false_eq_true, if_false, false_or, test_bind_eq_ok_iff,
          refuseUndeclared_eq_ok_iff, pure_eq_ok_iff]
    simp only [test_bind_eq_ok_iff, Rules.restrict_eq_ok_iff]
    simp only [bind_eq_ok_iff, hdone]
    constructor
    · rintro ⟨-, ⟨hr, patches, hpatches, hkeys, rfl⟩, rfl⟩
      exact ⟨fields, patches, rfl, hr, hpatches, hkeys, on_rebuildFields fields patches⟩
    · rintro ⟨_, patches, ⟨rfl⟩, hr, hpatches, hkeys, rfl⟩
      exact ⟨_, ⟨hr, patches, hpatches, hkeys, rfl⟩, on_rebuildFields fields patches⟩
  | _ => simp

/-! ### Parsing at a declared key -/

/-- Whether what is found at a declared key, if anything, leads to what is there afterwards. -/
def SettlesField (s : Schema) (found settled : Option Value) : Prop :=
  match found with
  | some v => ∃ w, s.parse v = .ok w ∧ settled = some w
  | none => s.isOptional ∧ settled = s.rules.default

/-- Whether a check of what is found at a declared key, if anything, leads to the patch. -/
def PatchesField (s : Schema) (trail : Path) (found patch : Option Value) : Prop :=
  match found with
  | some v => ∃ o, s.check trail v = .ok o ∧ o.replacement? = patch
  | none => s.isOptional ∧ s.rules.default = patch

theorem settlesField_of_patchesField {s : Schema} {trail : Path} {found patch : Option Value}
    (h : s.PatchesField trail found patch) : s.SettlesField found (patch.or found) := by
  cases found with
  | none => exact ⟨h.1, by rw [Option.or_none, h.2]⟩
  | some v =>
    obtain ⟨o, ho, rfl⟩ := h
    refine ⟨o.on v, (parse_eq_ok_iff trail).mpr ⟨o, ho, rfl⟩, ?_⟩
    cases o <;> rfl

/-- What a field leads to itself is patched by itself at most. -/
theorem exists_patchesField_of_settlesField {s : Schema} (trail : Path) {found : Option Value}
    (h : s.SettlesField found found) :
    ∃ patch, s.PatchesField trail found patch ∧ ∀ w, patch = some w → found = some w := by
  cases found with
  | none => exact ⟨none, ⟨h.1, h.2.symm⟩, by simp⟩
  | some v =>
    obtain ⟨w, hw, heq⟩ := h
    cases heq
    obtain ⟨o, ho, hon⟩ := (parse_eq_ok_iff trail).mp hw
    refine ⟨o.replacement?, ⟨o, ho, rfl⟩, ?_⟩
    rintro w hreplaced
    cases o with
    | kept => cases hreplaced
    | replaced w' =>
      cases hreplaced
      exact congrArg some hon.symm

/-- The patch of a field comes before the patches of the later ones. -/
theorem checkFields_cons_eq_ok_iff {k : String} {s : Schema} {rest : List (String × Schema)}
    {trail : Path} {fields patches : List (String × Value)} :
    checkFields ((k, s) :: rest) trail fields = .ok patches ↔ ∃ patch later,
      s.PatchesField (trail.atKey k) (fields.lookup k) patch ∧
      checkFields rest trail fields = .ok later ∧
      patches = (patch.map (k, ·)).toList ++ later := by
  rw [checkFields]
  unfold PatchesField
  cases fields.lookup k with
  | some v =>
    simp only [bind_eq_ok_iff, map_eq_ok_iff, pure_eq_ok_iff, @eq_comm _ patches]
    constructor
    · rintro ⟨patch, ho, later, hlater, hp⟩
      exact ⟨patch, later, ho, hlater, hp⟩
    · rintro ⟨patch, later, ho, hlater, hp⟩
      exact ⟨patch, ho, later, hlater, hp⟩
  | none =>
    dsimp only
    by_cases hopt : s.isOptional = true
    · rw [if_pos hopt, ok_bind]
      simp only [bind_eq_ok_iff, pure_eq_ok_iff, hopt, true_and, @eq_comm _ patches,
        exists_and_left, exists_eq_left']
    · rw [if_neg hopt]
      constructor
      · intro h
        cases h
      · rintro ⟨_, _, ⟨h, -⟩, -⟩
        exact absurd h hopt

/-- The patch of a field is found at its key, the later ones at theirs. -/
theorem lookup_patches (k : String) (patch : Option Value) (later : List (String × Value))
    (key : String) :
    ((patch.map (k, ·)).toList ++ later).lookup key =
      if key = k then patch.or (later.lookup key) else later.lookup key := by
  cases patch with
  | none => simp
  | some w =>
    change ((k, w) :: later).lookup key = _
    rw [Entries.lookup_cons, Option.some_or]

/-- Only declared keys are patched, each once and in the order of their declaration. -/
theorem keys_sublist_of_checkFields {shape : List (String × Schema)} {trail : Path}
    {fields patches : List (String × Value)} (h : checkFields shape trail fields = .ok patches) :
    (Entries.keys patches).Sublist (Entries.keys shape) := by
  induction shape generalizing patches with
  | nil =>
    cases h
    exact .slnil
  | cons e rest ih =>
    obtain ⟨patch, later, -, hlater, rfl⟩ := checkFields_cons_eq_ok_iff.mp h
    cases patch with
    | none => exact (ih hlater).cons _
    | some w => exact (ih hlater).cons_cons _

/-- With the patches put in, each declared key holds what its field leads to. -/
theorem settlesField_of_checkFields {shape : List (String × Schema)} {trail : Path}
    {fields patches : List (String × Value)} (hn : (Entries.keys shape).Nodup)
    (h : checkFields shape trail fields = .ok patches) :
    ∀ e ∈ shape, e.2.SettlesField (fields.lookup e.1)
      ((Entries.insertAll fields patches).lookup e.1) := by
  have hpatches := (keys_sublist_of_checkFields h).nodup hn
  simp only [Entries.lookup_insertAll hpatches]
  clear hpatches
  induction shape generalizing patches with
  | nil => simp
  | cons e rest ih =>
    obtain ⟨k, s⟩ := e
    obtain ⟨patch, later, hpatch, hlater, rfl⟩ := checkFields_cons_eq_ok_iff.mp h
    rw [Entries.keys_cons, List.nodup_cons] at hn
    have hk : k ∉ Entries.keys rest := hn.1
    have hnone : later.lookup k = none := Entries.lookup_eq_none_iff_notMem.mpr fun hlater' =>
      hk ((keys_sublist_of_checkFields hlater).subset hlater')
    rw [List.forall_mem_cons]
    constructor
    · rw [lookup_patches, if_pos rfl, hnone, Option.or_none]
      exact settlesField_of_patchesField hpatch
    · intro e he
      have hne : e.1 ≠ k := by
        rintro rfl
        exact hk (Entries.mem_keys_of_mem he)
      rw [lookup_patches, if_neg hne]
      exact ih hn.2 hlater e he

/-- Undeclared keys are left as they are. -/
theorem lookup_of_checkFields {shape : List (String × Schema)} {trail : Path}
    {fields patches : List (String × Value)} (hn : (Entries.keys shape).Nodup)
    (h : checkFields shape trail fields = .ok patches) {key : String}
    (hkey : key ∉ Entries.keys shape) :
    (Entries.insertAll fields patches).lookup key = fields.lookup key := by
  have hsublist := keys_sublist_of_checkFields h
  have hnone : patches.lookup key = none :=
    Entries.lookup_eq_none_iff_notMem.mpr fun hmem => hkey (hsublist.subset hmem)
  rw [Entries.lookup_insertAll (hsublist.nodup hn), hnone, Option.none_or]

/-- Where each declared key holds what its field leads to already, the patches change nothing. -/
theorem checkFields_of_settlesField {shape : List (String × Schema)}
    {fields : List (String × Value)} (trail : Path)
    (h : ∀ e ∈ shape, e.2.SettlesField (fields.lookup e.1) (fields.lookup e.1)) :
    ∃ patches, checkFields shape trail fields = .ok patches ∧
      ∀ e ∈ patches, fields.lookup e.1 = some e.2 := by
  induction shape with
  | nil => exact ⟨[], rfl, by simp⟩
  | cons e rest ih =>
    obtain ⟨k, s⟩ := e
    rw [List.forall_mem_cons] at h
    obtain ⟨later, hlater, hkept⟩ := ih h.2
    obtain ⟨patch, hpatch, hsame⟩ := exists_patchesField_of_settlesField (trail.atKey k) h.1
    refine ⟨_, checkFields_cons_eq_ok_iff.mpr ⟨patch, later, hpatch, hlater, rfl⟩, ?_⟩
    cases patch with
    | none => exact hkept
    | some w => exact List.forall_mem_cons.mpr ⟨hsame w rfl, hkept⟩

/-- In an object that parses, each declared key holds afterwards what its field leads to. -/
theorem settlesField_of_parse_object {shape : List (String × Schema)} {isOpen : Bool} {r : Rules}
    {v w : Value} (hn : (Entries.keys shape).Nodup) (hv : (object shape isOpen r).skips v = false)
    (h : (object shape isOpen r).parse v = .ok w) :
    ∃ fields fields', v = .object fields ∧ w = .object fields' ∧
      (isOpen ∨ ∀ k ∈ Entries.keys fields', k ∈ Entries.keys shape) ∧
      ∀ e ∈ shape, e.2.SettlesField (fields.lookup e.1) (fields'.lookup e.1) := by
  obtain ⟨fields, patches, rfl, -, hpatches, hkeys, rfl⟩ := (parse_object_eq_ok_iff hv).mp h
  refine ⟨fields, _, rfl, rfl, ?_, settlesField_of_checkFields hn hpatches⟩
  refine hkeys.imp_right fun hdeclared k hk => ?_
  rcases Entries.mem_keys_insertAll.mp hk with hk | hk
  · exact hdeclared k hk
  · exact (keys_sublist_of_checkFields hpatches).subset hk

/-- An object in which each declared key holds what its field leads to parses to itself. -/
theorem parse_object_self {shape : List (String × Schema)} {isOpen : Bool} {r : Rules}
    {fields : List (String × Value)} (hr : r.failures (.object fields) = [])
    (hkeys : isOpen ∨ ∀ k ∈ Entries.keys fields, k ∈ Entries.keys shape)
    (hfields : ∀ e ∈ shape, e.2.SettlesField (fields.lookup e.1) (fields.lookup e.1)) :
    (object shape isOpen r).parse (.object fields) = .ok (.object fields) := by
  obtain ⟨patches, hpatches, hkept⟩ := checkFields_of_settlesField [] hfields
  have hsame := Entries.insertAll_of_lookup hkept
  refine (parse_object_eq_ok_iff rfl).mpr ⟨fields, patches, rfl, hr, hpatches, hkeys, ?_⟩
  rw [hsame]

/-! ### Nodes without defaults -/

/-- A change of the rules that no test looks at matters for null only. -/
theorem parse_mapRules_of_ne_null {f : Rules → Rules} (hrestrict : ∀ r, (f r).restrict = r.restrict)
    (hprepare : ∀ r, Rules.admit (f r) = Rules.admit r) {s : Schema} {v : Value} (hv : v ≠ .null) :
    (s.mapRules f).parse v = s.parse v := by
  have hnull : v.isNull = false := by
    rw [← Bool.not_eq_true, Value.isNull_iff]
    exact hv
  unfold parse
  cases s with
  | leaf kind r =>
    have hkind : kind.check (f r) [] v = kind.check r [] v := by
      unfold LeafKind.check
      rw [hrestrict, hprepare]
    simp only [mapRules, check, hnull, Bool.false_and, Bool.false_eq_true, if_false, hkind]
  | array element r =>
    simp only [mapRules, check, hnull, Bool.false_and, Bool.false_eq_true, if_false, hrestrict]
  | object shape isOpen r =>
    simp only [mapRules, check, hnull, Bool.false_and, Bool.false_eq_true, if_false, hrestrict]

theorem parse_modify_nullable_of_ne_null {s : Schema} {v : Value} (hv : v ≠ .null) :
    (s.modify .nullable).parse v = s.parse v :=
  parse_mapRules_of_ne_null (f := fun r => { r with nullable := true }) (fun _ => rfl)
    (fun _ => rfl) hv

theorem parse_modify_isOptional_of_ne_null {s : Schema} {v : Value} (hv : v ≠ .null) :
    (s.modify .isOptional).parse v = s.parse v :=
  parse_mapRules_of_ne_null (f := fun r => { r with isOptional := true }) (fun _ => rfl)
    (fun _ => rfl) hv

theorem prepared_null (r : Rules) (t : Tag) : r.prepared t .null = .null := by
  unfold Rules.prepared
  split
  · cases t <;> rfl
  · rfl

/-- Null is replaced by a default only. -/
theorem eq_null_of_parse_null {s : Schema} (hd : s.rules.default = none) {w : Value}
    (h : s.parse .null = .ok w) : w = .null := by
  cases hskips : s.skips .null with
  | true =>
    rw [parse_of_skips hskips, hd] at h
    cases h
    rfl
  | false =>
    cases s with
    | leaf kind r =>
      cases ht : kind.tag? with
      | none => exact eq_of_parse_untagged_leaf ht hskips h
      | some t =>
        obtain ⟨hw, -⟩ := (parse_leaf_eq_ok_iff ht hskips).mp h
        rw [hw, prepared_null]
    | array element r =>
      obtain ⟨_, _, hv, -⟩ := (parse_array_eq_ok_iff hskips).mp h
      cases hv
    | object shape isOpen r =>
      obtain ⟨_, _, hv, -⟩ := (parse_object_eq_ok_iff hskips).mp h
      cases hv

/-- Where no field has a default, an object keeps its keys. -/
theorem keys_of_checkFields {shape : List (String × Schema)} {trail : Path}
    {fields patches : List (String × Value)} (hd : ∀ e ∈ shape, e.2.rules.default = none)
    (h : checkFields shape trail fields = .ok patches) :
    ∀ k ∈ Entries.keys patches, k ∈ Entries.keys fields := by
  induction shape generalizing patches with
  | nil =>
    cases h
    simp
  | cons e rest ih =>
    rw [List.forall_mem_cons] at hd
    obtain ⟨patch, later, hpatch, hlater, rfl⟩ := checkFields_cons_eq_ok_iff.mp h
    intro k hk
    rw [Entries.keys_append, List.mem_append] at hk
    rcases hk with hk | hk
    · cases hfound : fields.lookup e.1 with
      | none =>
        rw [hfound] at hpatch
        have hnone : patch = none := hpatch.2.symm.trans hd.1
        rw [hnone] at hk
        cases hk
      | some v =>
        have hke : k = e.1 := by
          cases patch with
          | none => cases hk
          | some w => exact List.mem_singleton.mp hk
        rw [hke]
        exact Entries.mem_keys_of_lookup_eq_some hfound
    · exact ih hd.2 hlater k hk

end Schema
end DocShape
