import DocShape.Command.Load
import Mathlib.Data.List.Forall2

/-!
Laws of loading.

Loading goes through the sources in order and stops at the first failure, so what several inputs
load is put together from what each of them loads.

* `sourcesOf_literal`, `sourcesOf_append`: the sources of inputs.
* `load_append`: inputs in two parts, all of whose patterns are in order.
* `load_congr`: an input more than once, or in another place, loads the same documents.
* `alike_loadLines`: the lines of a text are loaded like as many texts of their own.
-/

namespace DocShape.Command

/-- Files that are only named, with no tree in which patterns could find them. -/
def Files.named (texts : List (String × String)) : Files :=
  ⟨.folder [], fun path => texts.lookup path⟩

namespace Loaded

variable {a b : Loaded}

theorem append_of_failure {e : RunFailure} (h : a.failure = some e) : a.append b = a := by
  rw [append, h]

theorem append_of_complete (h : a.failure = none) :
    a.append b = ⟨a.documents ++ b.documents, b.failure⟩ := by
  rw [append, h]

theorem nothing_append (b : Loaded) : append ⟨[], none⟩ b = b := rfl

theorem append_nothing (a : Loaded) : a.append ⟨[], none⟩ = a := by
  obtain ⟨documents, failure⟩ := a
  cases failure <;> simp [append]

theorem failure_append_eq_none_iff :
    (a.append b).failure = none ↔ a.failure = none ∧ b.failure = none := by
  cases h : a.failure with
  | none => simp [append_of_complete h]
  | some e => simp [append_of_failure h, h]

theorem join_append (xs ys : List Loaded) : join (xs ++ ys) = (join xs).append (join ys) := by
  induction xs with
  | nil => exact (nothing_append _).symm
  | cons x xs ih => rw [List.cons_append, join, join, ih, append_assoc]

/-- Whether as much is loaded, with the same values: what the labels and the failure say is left
aside. -/
structure Alike (a b : Loaded) : Prop where
  values : a.documents.map (·.value) = b.documents.map (·.value)
  failure : a.failure.isSome = b.failure.isSome

theorem Alike.append {a' b' : Loaded} (ha : a.Alike a') (hb : b.Alike b') :
    (a.append b).Alike (a'.append b') := by
  have hfailure := ha.failure
  cases h : a.failure with
  | none =>
    rw [h] at hfailure
    have h' : a'.failure = none := by simpa using hfailure.symm
    rw [append_of_complete h, append_of_complete h']
    exact ⟨by simp only [List.map_append, ha.values, hb.values], hb.failure⟩
  | some e =>
    rw [h] at hfailure
    obtain ⟨e', h'⟩ := Option.isSome_iff_exists.mp hfailure.symm
    rw [append_of_failure h, append_of_failure h']
    exact ha

end Loaded

/-! ### Sources -/

/-- Literal paths are their own sources. -/
theorem sourcesOf_literal (t : Tree) {inputs : List String}
    (h : ∀ input ∈ inputs, Glob.isPattern input = false) : sourcesOf t inputs = .ok inputs := by
  induction inputs with
  | nil => rfl
  | cons input rest ih =>
    rw [List.forall_mem_cons] at h
    have hinput : pathsOf t input = .ok [input] := by
      rw [pathsOf, h.1]
      rfl
    rw [sourcesOf, ih h.2, hinput]
    rfl

theorem sourcesOf_append (t : Tree) (a b : List String) :
    sourcesOf t (a ++ b) = (sourcesOf t a).bind fun x => (sourcesOf t b).map (x ++ ·) := by
  induction a with
  | nil => cases h : sourcesOf t b <;> simp [sourcesOf, h, Except.bind, Except.map]
  | cons input rest ih =>
    rw [List.cons_append, sourcesOf, sourcesOf, ih]
    cases pathsOf t input with
    | error e => rfl
    | ok found =>
      cases sourcesOf t rest with
      | error e => rfl
      | ok x =>
        cases sourcesOf t b with
        | error e => rfl
        | ok y => exact congrArg Except.ok (List.append_assoc found x y).symm

/-! ### Inputs in parts -/

section Inputs

variable {files : Files} {s : InputSettings}

theorem load_eq_join {inputs sources : List String}
    (h : sourcesOf files.tree inputs = .ok sources) :
    load files s inputs = .join (sources.map (loadSource files s)) := by
  rw [load, h]

theorem load_append {a b x y : List String} (ha : sourcesOf files.tree a = .ok x)
    (hb : sourcesOf files.tree b = .ok y) :
    load files s (a ++ b) = (load files s a).append (load files s b) := by
  have hab : sourcesOf files.tree (a ++ b) = .ok (x ++ y) := by
    rw [sourcesOf_append, ha, hb]
    rfl
  rw [load_eq_join hab, load_eq_join ha, load_eq_join hb, List.map_append, Loaded.join_append]

/-- Inputs that load without a failure have sources. -/
theorem exists_sources_of_load {inputs : List String} (h : (load files s inputs).failure = none) :
    ∃ sources, sourcesOf files.tree inputs = .ok sources := by
  cases hs : sourcesOf files.tree inputs with
  | ok sources => exact ⟨sources, rfl⟩
  | error e =>
    rw [load, hs] at h
    cases h

theorem failure_load_append_eq_none_iff {a b : List String} :
    (load files s (a ++ b)).failure = none ↔
      (load files s a).failure = none ∧ (load files s b).failure = none := by
  constructor
  · intro h
    obtain ⟨sources, hsources⟩ := exists_sources_of_load h
    rw [sourcesOf_append] at hsources
    cases ha : sourcesOf files.tree a with
    | error e =>
      rw [ha] at hsources
      cases hsources
    | ok x =>
      cases hb : sourcesOf files.tree b with
      | error e =>
        rw [ha, hb] at hsources
        cases hsources
      | ok y =>
        rw [load_append ha hb] at h
        exact Loaded.failure_append_eq_none_iff.mp h
  · rintro ⟨ha, hb⟩
    obtain ⟨x, hx⟩ := exists_sources_of_load ha
    obtain ⟨y, hy⟩ := exists_sources_of_load hb
    rw [load_append hx hy]
    exact Loaded.failure_append_eq_none_iff.mpr ⟨ha, hb⟩

theorem documents_load_append {a b : List String} (ha : (load files s a).failure = none)
    (hb : (load files s b).failure = none) :
    (load files s (a ++ b)).documents =
      (load files s a).documents ++ (load files s b).documents := by
  obtain ⟨x, hx⟩ := exists_sources_of_load ha
  obtain ⟨y, hy⟩ := exists_sources_of_load hb
  rw [load_append hx hy, Loaded.append_of_complete ha]

theorem failure_load_eq_none_iff {inputs : List String} :
    (load files s inputs).failure = none ↔
      ∀ input ∈ inputs, (load files s [input]).failure = none := by
  induction inputs with
  | nil => exact iff_of_true rfl (List.forall_mem_nil _)
  | cons input rest ih =>
    rw [List.forall_mem_cons, ← ih]
    exact failure_load_append_eq_none_iff (a := [input])

theorem mem_documents_load {inputs : List String} (h : (load files s inputs).failure = none)
    {d : Document} :
    d ∈ (load files s inputs).documents ↔
      ∃ input ∈ inputs, d ∈ (load files s [input]).documents := by
  induction inputs with
  | nil => simp [load, sourcesOf, Loaded.join]
  | cons input rest ih =>
    obtain ⟨hinput, hrest⟩ := failure_load_append_eq_none_iff (a := [input]).mp h
    have hdocuments : (load files s (input :: rest)).documents =
        (load files s [input]).documents ++ (load files s rest).documents :=
      documents_load_append (a := [input]) hinput hrest
    simp only [hdocuments, List.mem_append, ih hrest, List.mem_cons, exists_eq_or_imp]

/-- In whatever order inputs are named, and however often, they load the same documents. -/
theorem load_congr {inputs inputs' : List String} (hmem : ∀ input, input ∈ inputs' ↔ input ∈ inputs)
    (h : (load files s inputs).failure = none) :
    (load files s inputs').failure = none ∧
      ∀ d, d ∈ (load files s inputs').documents ↔ d ∈ (load files s inputs).documents := by
  have h' : (load files s inputs').failure = none := by
    rw [failure_load_eq_none_iff] at h ⊢
    exact fun input hinput => h input ((hmem input).mp hinput)
  refine ⟨h', fun d => ?_⟩
  simp only [mem_documents_load h, mem_documents_load h', hmem]

end Inputs

/-! ### Settings -/

section Settings

variable {s s' : InputSettings}

theorem loadText_congr (h : s.pointer = s'.pointer) (label : String) (failure : RunFailure)
    (text : String) : loadText s label failure text = loadText s' label failure text := by
  rw [loadText, loadText, h]

theorem loadLines_congr (h : s.pointer = s'.pointer) (path : String) (number : Nat)
    (lines : List String) : loadLines s path number lines = loadLines s' path number lines := by
  induction lines generalizing number with
  | nil => rfl
  | cons line rest ih => rw [loadLines, loadLines, ih, loadText_congr h]

/-- What is loaded depends on how documents are told apart and on what is selected in them, and not
on the inputs that the settings name beside. -/
theorem load_settings_congr (hn : s.ndjson = s'.ndjson) (hp : s.pointer = s'.pointer)
    (files : Files) (inputs : List String) : load files s inputs = load files s' inputs := by
  have hsource : loadSource files s = loadSource files s' := by
    funext path
    unfold loadSource
    rw [hn]
    split
    · rfl
    · rw [loadLines_congr hp, loadText_congr hp]
  rw [load, load, hsource]

/-! ### Lines -/

theorem alike_loadText (h : s.pointer = s'.pointer) (label label' : String)
    (failure failure' : RunFailure) (text : String) :
    (loadText s label failure text).Alike (loadText s' label' failure' text) := by
  rw [loadText, loadText, h]
  cases Value.read? depthLimit text with
  | none => exact ⟨rfl, rfl⟩
  | some v =>
    cases s'.pointer with
    | none => exact ⟨rfl, rfl⟩
    | some pointer =>
      dsimp only
      cases v.pointer? pointer <;> exact ⟨rfl, rfl⟩

/-- Lines are loaded like texts of their own, one for each line with something on it. -/
theorem alike_loadLines (hp : s.pointer = s'.pointer) (hn : s'.ndjson = false) (files : Files)
    (path : String) (number : Nat) {lines sources : List String}
    (h : List.Forall₂ (fun source line => files.read? source = some line) sources
      (lines.filter fun line => !isBlankLine line)) :
    (loadLines s path number lines).Alike (.join (sources.map (loadSource files s'))) := by
  induction lines generalizing number sources with
  | nil =>
    cases h
    exact ⟨rfl, rfl⟩
  | cons line rest ih =>
    rw [loadLines]
    cases hblank : isBlankLine line with
    | true =>
      rw [List.filter_cons_of_neg (by simp [hblank])] at h
      exact ih (number + 1) h
    | false =>
      rw [List.filter_cons_of_pos (by simp [hblank])] at h
      cases h with
      | @cons source _ sources _ hsource hrest =>
        have hloaded : loadSource files s' source =
            loadText s' source (.unparsable source) line := by
          rw [loadSource, hsource]
          simp [hn]
        rw [List.map_cons, Loaded.join, hloaded]
        exact (alike_loadText hp _ _ _ _ line).append (ih (number + 1) hrest)

end Settings

end DocShape.Command
