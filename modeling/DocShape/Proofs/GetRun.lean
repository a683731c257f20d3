import DocShape.Command.Run
import DocShape.Proofs.Loading
import Mathlib.Data.List.TakeWhile

/-!
Runs of `get`.

What is written for a document does not depend on strictness. A strict run differs in one thing:
it ends before the first document in which a required segment finds nothing. So what a run prints
is a function of the values that were loaded, and whether it fails, of these and of whether loading
does.

* `printed_getAll`, `isSome_failure_getAll`: what is printed for documents, and when they fail.
* `strict_isPrefix_lenient`: a strict run prints a beginning of what the lenient run prints, and all
  of it when it succeeds.
* `getLoaded_append`, `get_in_parts`: inputs in two parts, and the lines of a text against as many
  texts of their own.
-/

namespace DocShape.Command

/-- What `get` writes for a document. -/
def written (path : Path) (cast : Option Tag) (v : Value) : String :=
  match cast with
  | some tag => ((PathArgument.place (.ok path) v).ensureCastValue tag).compact
  | none => ((v.find? path).getD .null).compact

/-- Whether `get` goes on after a document: a strict run does not where the walk is broken. -/
def passes (path : Path) (strict : Bool) (v : Value) : Bool :=
  !strict || (v.resolve path).toBool

/-- What `get` does with what was loaded. -/
def getLoaded (path : Path) (cast : Option Tag) (strict : Bool) (l : Loaded) : Report :=
  let r := getAll path cast strict l.documents
  ⟨r.printed, r.failure.or l.failure⟩

theorem runGet_eq_getLoaded (files : Files) (s : InputSettings) (path : Path) (cast : Option Tag)
    (strict : Bool) :
    runGet files s path cast strict = getLoaded path cast strict (load files s s.inputs) := rfl

/-- What is reported when a run goes on with another one, unless it fails. -/
def Report.andThen (a b : Report) : Report :=
  match a.failure with
  | some _ => a
  | none => ⟨a.printed ++ b.printed, b.failure⟩

theorem Report.status_eq_zero_iff {r : Report} : r.status = 0 ↔ r.failure = none := by
  unfold Report.status
  cases r.failure <;> simp

section Documents

variable {path : Path} {cast : Option Tag} {strict : Bool}

/-! ### Single documents -/

theorem find?_eq_of_resolve_ok {v : Value} {found : Option Value} (h : v.resolve path = .ok found) :
    v.find? path = found := by
  unfold Value.resolve at h
  unfold Value.find?
  cases hwalk : Value.walk path v with
  | broken i =>
    rw [hwalk] at h
    cases h
  | found w =>
    rw [hwalk] at h
    exact Except.ok.inj h
  | skipped =>
    rw [hwalk] at h
    exact Except.ok.inj h

/-- A document is written, and one at which the run ends is a failure. -/
theorem getOne_cases (d : Document) :
    passes path strict d.value = true ∧
        getOne path cast strict d = .ok (written path cast d.value) ∨
      passes path strict d.value = false ∧ ∃ e, getOne path cast strict d = .error e := by
  cases strict with
  | false => exact .inl ⟨rfl, by cases cast <;> rfl⟩
  | true =>
    cases h : d.value.resolve path with
    | ok found =>
      have hresolve : PathArgument.resolve (.ok path) d.value = .ok found := by
        rw [PathArgument.resolve, h]
      refine .inl ⟨by rw [passes, h]; rfl, ?_⟩
      unfold written
      rw [getOne, find?_eq_of_resolve_ok h]
      dsimp only
      rw [hresolve]
      cases cast <;> rfl
    | error missing =>
      have hresolve : PathArgument.resolve (.ok path) d.value = .error (.absent missing.text) := by
        rw [PathArgument.resolve, h]
      refine .inr ⟨by rw [passes, h]; rfl, .notFound d.label (.absent missing.text), ?_⟩
      rw [getOne]
      dsimp only
      rw [hresolve]
      rfl

/-- A strict run goes on where the walk is not broken by an absent node. -/
theorem passes_true_iff {v : Value} :
    passes path true v ↔
      ∀ location, PathArgument.resolve (.ok path) v ≠ .error (.absent location) := by
  cases h : v.resolve path with
  | ok found =>
    have hresolve : PathArgument.resolve (.ok path) v = .ok found := by
      rw [PathArgument.resolve, h]
    rw [hresolve, passes, h]
    exact iff_of_true rfl fun _ => nofun
  | error missing =>
    have hresolve : PathArgument.resolve (.ok path) v = .error (.absent missing.text) := by
      rw [PathArgument.resolve, h]
    rw [hresolve, passes, h]
    exact iff_of_false nofun fun hne => hne _ rfl

/-! ### Documents one after the other -/

/-- The values up to the first one at which the run ends are written. -/
theorem printed_getAll (ds : List Document) :
    (getAll path cast strict ds).printed =
      ((ds.map (·.value)).takeWhile (passes path strict)).map (written path cast) := by
  induction ds with
  | nil => rfl
  | cons d rest ih =>
    rw [getAll, List.map_cons]
    rcases @getOne_cases path cast strict d with ⟨hpass, hone⟩ | ⟨hpass, e, hone⟩
    · rw [hone, List.takeWhile_cons_of_pos hpass, List.map_cons, ← ih]
    · rw [hone, List.takeWhile_cons_of_neg (by simp [hpass])]
      rfl

theorem isSome_failure_getAll (ds : List Document) :
    (getAll path cast strict ds).failure.isSome = !(ds.map (·.value)).all (passes path strict) := by
  induction ds with
  | nil => rfl
  | cons d rest ih =>
    rw [getAll, List.map_cons, List.all_cons]
    rcases @getOne_cases path cast strict d with ⟨hpass, hone⟩ | ⟨hpass, e, hone⟩
    · rw [hone, hpass, Bool.true_and, ← ih]
    · rw [hone, hpass]
      rfl

theorem getAll_append (ds es : List Document) :
    getAll path cast strict (ds ++ es) =
      (getAll path cast strict ds).andThen (getAll path cast strict es) := by
  induction ds with
  | nil => rfl
  | cons d rest ih =>
    rw [List.cons_append, getAll, getAll, ih]
    cases getOne path cast strict d with
    | error e => rfl
    | ok line =>
      obtain ⟨printed, failure⟩ := getAll path cast strict rest
      cases failure <;> rfl

/-! ### What was loaded -/

theorem isSome_failure_getLoaded (l : Loaded) :
    (getLoaded path cast strict l).failure.isSome =
      (!(l.documents.map (·.value)).all (passes path strict) || l.failure.isSome) := by
  rw [getLoaded, Option.isSome_or, isSome_failure_getAll]

theorem status_getLoaded_eq_zero_iff {l : Loaded} :
    (getLoaded path cast strict l).status = 0 ↔
      l.failure = none ∧ ∀ d ∈ l.documents, passes path strict d.value := by
  rw [Report.status_eq_zero_iff, ← Option.not_isSome_iff_eq_none, isSome_failure_getLoaded]
  simp [and_comm]

/-- Neither labels nor what a failure says makes a difference to what is printed and to the
status. -/
theorem getLoaded_congr {a b : Loaded} (h : a.Alike b) :
    (getLoaded path cast strict a).printed = (getLoaded path cast strict b).printed ∧
      (getLoaded path cast strict a).status = (getLoaded path cast strict b).status := by
  constructor
  · rw [getLoaded, getLoaded, printed_getAll, printed_getAll, h.values]
  · rw [Report.status, Report.status, isSome_failure_getLoaded, isSome_failure_getLoaded, h.values,
      h.failure]

theorem getLoaded_append (a b : Loaded) :
    getLoaded path cast strict (a.append b) =
      (getLoaded path cast strict a).andThen (getLoaded path cast strict b) := by
  cases h : a.failure with
  | some e =>
    have hfailure : ((getAll path cast strict a.documents).failure.or a.failure).isSome := by
      rw [h, Option.isSome_or, Option.isSome_some, Bool.or_true]
    obtain ⟨e', he'⟩ := Option.isSome_iff_exists.mp hfailure
    rw [Loaded.append_of_failure h, getLoaded, Report.andThen, he']
  | none =>
    rw [Loaded.append_of_complete h, getLoaded, getLoaded, h, Option.or_none, getAll_append]
    obtain ⟨printed, failure⟩ := getAll path cast strict a.documents
    cases failure <;> rfl

end Documents

/-! ### Strict and lenient runs -/

/-- A strict run prints a beginning of what the lenient run prints. It succeeds exactly when the
lenient run does and no selected document breaks the walk, and then it prints the same. -/
theorem strict_isPrefix_lenient (files : Files) (s : InputSettings) (path : Path)
    (cast : Option Tag) :
    (runGet files s path cast true).printed <+: (runGet files s path cast false).printed ∧
      ((runGet files s path cast true).status = 0 ↔
        (runGet files s path cast false).status = 0 ∧
          ∀ d ∈ (load files s s.inputs).documents, ∀ location,
            PathArgument.resolve (.ok path) d.value ≠ .error (.absent location)) ∧
      ((runGet files s path cast true).status = 0 →
        (runGet files s path cast true).printed = (runGet files s path cast false).printed) := by
  have hlenient : (runGet files s path cast false).printed =
      ((load files s s.inputs).documents.map (·.value)).map (written path cast) := by
    rw [runGet_eq_getLoaded, getLoaded, printed_getAll, List.takeWhile_eq_self_iff.mpr]
    exact fun _ _ => rfl
  have hstrict : (runGet files s path cast true).status = 0 ↔
      (load files s s.inputs).failure = none ∧
        ∀ d ∈ (load files s s.inputs).documents, passes path true d.value := by
    rw [runGet_eq_getLoaded, status_getLoaded_eq_zero_iff]
  refine ⟨?_, ?_, ?_⟩
  · rw [hlenient, runGet_eq_getLoaded, getLoaded, printed_getAll]
    exact (List.takeWhile_prefix _).map _
  · rw [hstrict, runGet_eq_getLoaded, status_getLoaded_eq_zero_iff]
    simp only [passes_true_iff]
    have hpasses : ∀ d ∈ (load files s s.inputs).documents, passes path false d.value :=
      fun _ _ => rfl
    rw [and_iff_left hpasses]
  · intro h
    rw [hlenient, runGet_eq_getLoaded, getLoaded, printed_getAll, List.takeWhile_eq_self_iff.mpr]
    exact List.forall_mem_map.mpr (hstrict.mp h).2

/-- One file has nothing at an optional segment, and one has null there. -/
theorem strict_isPrefix_lenient_quiet :
    (runGet (.named [("a", "[[1]]"), ("b", "[]"), ("c", "[null]")])
        ⟨false, none, ["a", "b", "c"]⟩ [⟨.index 0, true⟩, .required (.index 0)] none true).printed =
      (runGet (.named [("a", "[[1]]"), ("b", "[]"), ("c", "[null]")])
        ⟨false, none, ["a", "b", "c"]⟩ [⟨.index 0, true⟩, .required (.index 0)] none
        false).printed :=
  (strict_isPrefix_lenient _ _ _ _).2.2 (by decide +kernel)

/-! ### Inputs in parts -/

/-- A run over the lines of a text prints the same, and ends with the same status, as one over files
that hold one line each, those left out that have nothing on them. A run over literal paths in two
parts ends with the first part if that fails, and else goes on with the second. -/
theorem get_in_parts (path : Path) (cast : Option Tag) (strict : Bool) :
    (∀ (files files' : Files) (pointer : Option String) (inputs inputs' sources : List String)
        (source text : String),
      sourcesOf files.tree inputs = .ok [source] → files.read? source = some text →
      sourcesOf files'.tree inputs' = .ok sources →
      List.Forall₂ (fun source line => files'.read? source = some line) sources
        ((Text.lines text).filter fun line => !isBlankLine line) →
      (runGet files ⟨true, pointer, inputs⟩ path cast strict).printed =
          (runGet files' ⟨false, pointer, inputs'⟩ path cast strict).printed ∧
        (runGet files ⟨true, pointer, inputs⟩ path cast strict).status =
          (runGet files' ⟨false, pointer, inputs'⟩ path cast strict).status) ∧
    ∀ (files : Files) (s : InputSettings) (a b : List String),
      (∀ input ∈ a ++ b, Glob.isPattern input = false) →
      runGet files { s with inputs := a ++ b } path cast strict =
        (runGet files { s with inputs := a } path cast strict).andThen
          (runGet files { s with inputs := b } path cast strict) := by
  constructor
  · intro files files' pointer inputs inputs' sources source text hsource htext hsources hlines
    have hloaded : load files ⟨true, pointer, inputs⟩ inputs =
        loadLines ⟨true, pointer, inputs⟩ source 1 (Text.lines text) := by
      rw [load_eq_join hsource, List.map_singleton, Loaded.join, Loaded.join,
        Loaded.append_nothing, loadSource, htext]
      rfl
    have hpointer : InputSettings.pointer ⟨true, pointer, inputs⟩ =
        InputSettings.pointer ⟨false, pointer, inputs'⟩ := rfl
    rw [runGet_eq_getLoaded, runGet_eq_getLoaded, hloaded, load_eq_join hsources]
    exact getLoaded_congr (alike_loadLines hpointer rfl files' source 1 hlines)
  · intro files s a b h
    rw [List.forall_mem_append] at h
    have hload := load_append (s := { s with inputs := a ++ b })
      (sourcesOf_literal files.tree h.1) (sourcesOf_literal files.tree h.2)
    have hsettings : ∀ inputs, load files { s with inputs := a ++ b } inputs =
        load files { s with inputs := inputs } inputs := by
      intro inputs
      apply load_settings_congr <;> rfl
    rw [runGet_eq_getLoaded, runGet_eq_getLoaded, runGet_eq_getLoaded, hload, getLoaded_append,
      hsettings a, hsettings b]

/-- Lines with both line ends, one of them blank and one malformed, and the files that hold them in
two parts: the malformed one is in the second part. -/
theorem get_in_parts_malformed_line :
    ((runGet (.named [("all", "[1]\r\n \r\n[[2]]\n[\n[3]\n")])
          ⟨true, none, ["all"]⟩ [.required (.index 0)] none true).printed =
        (runGet (.named [("a", "[1]"), ("b", "[[2]]"), ("c", "["), ("d", "[3]")])
          ⟨false, none, ["a", "b", "c", "d"]⟩ [.required (.index 0)] none true).printed ∧
      (runGet (.named [("all", "[1]\r\n \r\n[[2]]\n[\n[3]\n")])
          ⟨true, none, ["all"]⟩ [.required (.index 0)] none true).status =
        (runGet (.named [("a", "[1]"), ("b", "[[2]]"), ("c", "["), ("d", "[3]")])
          ⟨false, none, ["a", "b", "c", "d"]⟩ [.required (.index 0)] none true).status) ∧
    runGet (.named [("a", "[1]"), ("b", "[[2]]"), ("c", "["), ("d", "[3]")])
        ⟨false, none, ["a", "b"] ++ ["c", "d"]⟩ [.required (.index 0)] none true =
      (runGet (.named [("a", "[1]"), ("b", "[[2]]"), ("c", "["), ("d", "[3]")])
          ⟨false, none, ["a", "b"]⟩ [.required (.index 0)] none true).andThen
        (runGet (.named [("a", "[1]"), ("b", "[[2]]"), ("c", "["), ("d", "[3]")])
          ⟨false, none, ["c", "d"]⟩ [.required (.index 0)] none true) := by
  have hlines : ((Text.lines "[1]\r\n \r\n[[2]]\n[\n[3]\n").filter fun line => !isBlankLine line) =
      ["[1]", "[[2]]", "[", "[3]"] := by decide +kernel
  refine ⟨(get_in_parts _ _ _).1 _ _ _ _ _ _ _ _ rfl rfl rfl ?_,
    (get_in_parts _ _ _).2 _ ⟨false, none, []⟩ _ _ (by decide)⟩
  rw [hlines]
  exact .cons rfl (.cons rfl (.cons rfl (.cons rfl .nil)))

end DocShape.Command
