import DocShape.Proofs.Loosening
import DocShape.Proofs.OpenRoot
import DocShape.Proofs.OutputLines
import DocShape.Proofs.ReadDocuments
import DocShape.Proofs.SampleSets

/-!
Runs of `check`.

A check that loads everything says something of each document, or in JSON of each that fails, and
then how many of them failed. Which ones fail depends on the samples as a set: a check is made with
the schema that they give, and what that accepts is said of the samples alone.

* `printed_checkAll_text`, `printed_checkAll_json`: what is printed for documents.
* `isLine_textReport_iff`, `isLine_jsonReport`: which reports take one line. Texts name keys as they
  are, so a report takes more lines when a key or a label does; in JSON newlines are escaped.
* `valid_schemaOf_congr`, `valid_schemaOf_of_equals`: samples with the same values, and documents
  that are among them.
* `check_outcome`: what a check that loads everything prints, and how it ends.
-/

namespace DocShape.Command

open Text

/-! ### Reports -/

/-- What is said in text of a document, which may have failed. -/
def textReport (d : Document) : Option Failure → String
  | none => "✔ " ++ d.label
  | some f =>
    "✘ " ++ d.label ++ ": " ++ f.message ++ " at " ++ f.location ++ ": " ++ f.rule.name

/-- What is said in JSON of a document that failed. -/
def jsonReport (d : Document) (f : Failure) : String :=
  (Value.object
    [("document", .string d.label),
      ("error", .object
        [("path", .string f.path), ("rule", .string f.rule.name),
          ("message", .string f.message)])]).compact

theorem isLine_location_iff {f : Failure} : IsLine f.location ↔ IsLine f.path := by
  unfold Failure.location
  split
  · rename_i hempty
    rw [String.isEmpty_iff.mp hempty]
    exact iff_of_true (by decide) (by decide)
  · exact Iff.rfl

theorem isLine_textReport_iff {d : Document} {o : Option Failure} :
    IsLine (textReport d o) ↔
      IsLine d.label ∧ ∀ f, o = some f → IsLine f.message ∧ IsLine f.path := by
  have hmark : IsLine "✔ " ∧ IsLine "✘ " ∧ IsLine ": " ∧ IsLine " at " := by decide
  cases o with
  | none => simp [textReport, hmark]
  | some f =>
    have hrule : IsLine f.rule.name := by
      cases f.rule <;> decide
    simp [textReport, hmark, hrule, isLine_location_iff, and_assoc]

theorem isLine_jsonReport (d : Document) (f : Failure) : IsLine (jsonReport d f) :=
  Value.isLine_compact _

theorem getLast?_jsonReport (d : Document) (f : Failure) :
    (jsonReport d f).toList.getLast? = some '\x7d' := by
  rw [jsonReport, Value.compact, String.toList_append]
  exact List.getLast?_concat

/-! ### Documents one after the other -/

section Documents

variable {schema : Schema} {loaded : Loaded} {asJson : Bool}

/-- The documents that a schema refuses. -/
def refused (schema : Schema) (ds : List Document) : List Document :=
  ds.filter fun d => !schema.valid d.value

theorem checkLine_false (d : Document) :
    checkLine false schema d = some (textReport d (schema.error? d.value)) := by
  unfold checkLine
  cases schema.error? d.value with
  | none => rfl
  | some f => simp [textReport, Failure.text, String.append_assoc]

theorem checkLine_true (d : Document) :
    checkLine true schema d = (schema.error? d.value).map (jsonReport d) := by
  unfold checkLine
  cases schema.error? d.value <;> rfl

/-- In text each document has a report. -/
theorem printed_checkAll_text :
    (checkAll false schema loaded).printed =
      loaded.documents.map fun d => textReport d (schema.error? d.value) := by
  simp only [checkAll, checkLine_false, List.filterMap_eq_map']

/-- In JSON each document that fails has a report. -/
theorem printed_checkAll_json :
    (checkAll true schema loaded).printed =
      loaded.documents.filterMap fun d => (schema.error? d.value).map (jsonReport d) := by
  simp only [checkAll, checkLine_true]

/-- The JSON reports are the lines of the output. -/
theorem lines_checkAll_json :
    lines (checkAll true schema loaded).output = (checkAll true schema loaded).printed := by
  refine lines_join ?_
  rw [printed_checkAll_json]
  intro report hreport
  obtain ⟨d, -, hreport⟩ := List.mem_filterMap.mp hreport
  obtain ⟨f, -, rfl⟩ := Option.map_eq_some_iff.mp hreport
  refine ⟨isLine_jsonReport d f, ?_⟩
  rw [getLast?_jsonReport]
  decide

/-- The text output has a line for each document exactly when no report needs more. -/
theorem length_lines_checkAll_text_iff :
    (lines (checkAll false schema loaded).output).length = loaded.documents.length ↔
      ∀ d ∈ loaded.documents, IsLine d.label ∧
        ∀ f, schema.error? d.value = some f → IsLine f.message ∧ IsLine f.path := by
  have hlength : loaded.documents.length = (checkAll false schema loaded).printed.length := by
    rw [printed_checkAll_text, List.length_map]
  rw [hlength, length_lines_output_eq_iff, printed_checkAll_text, List.forall_mem_map]
  simp only [isLine_textReport_iff]

theorem failure_checkAll (h : loaded.failure = none) :
    (checkAll asJson schema loaded).failure =
      if refused schema loaded.documents = [] then none
      else some (.rejected (refused schema loaded.documents).length loaded.documents.length) := by
  unfold checkAll
  dsimp only
  rw [h, Option.none_or, ← refused]
  by_cases hnone : refused schema loaded.documents = []
  · simp [hnone]
  · rw [if_neg hnone, if_pos (List.length_pos_iff.mpr hnone)]

end Documents

/-! ### The schema of samples -/

section Samples

variable {samples samples' : List Document}

/-- Samples that are the same but for their order and for repetitions give schemas that accept the
same documents. -/
theorem valid_schemaOf_congr (h : ∀ d ∈ samples, d.value.WellFormed)
    (hmem : ∀ d, d ∈ samples' ↔ d ∈ samples) (allowAdditional : Bool) (v : Value) :
    (schemaOf samples' allowAdditional).valid v = (schemaOf samples allowAdditional).valid v := by
  have h' : ∀ d ∈ samples', d.value.WellFormed := fun d hd => h d ((hmem d).mp hd)
  have hvalues : ∀ w, w ∈ samples'.map (·.value) ↔ w ∈ samples.map (·.value) := by
    intro w
    simp only [List.mem_map, hmem]
  have hsame := Samples.sameValues_of_mem_iff (List.forall_mem_map.mpr h') hvalues
  have hvalid : ∀ w, (Schema.ofSamples (samples'.map (·.value))).valid w =
      (Schema.ofSamples (samples.map (·.value))).valid w := by
    intro w
    rw [Bool.eq_iff_iff, valid_ofSamples_iff (List.forall_mem_map.mpr h'),
      valid_ofSamples_iff (List.forall_mem_map.mpr h)]
    exact Samples.accepts_congr w (List.forall_mem_map.mpr h') hsame
  cases allowAdditional with
  | false => exact hvalid v
  | true =>
    exact Schema.valid_setOpen_congr (Shape.eachNode_lower _) (Shape.eachNode_lower _) hvalid v

/-- A document that equals a sample is accepted. -/
theorem valid_schemaOf_of_equals (h : ∀ d ∈ samples, d.value.WellFormed) {d : Document}
    (hd : d ∈ samples) {v : Value} (hv : v.WellFormed) (hequal : d.value.equals v)
    (allowAdditional : Bool) : (schemaOf samples allowAdditional).valid v := by
  have hvalues : ∀ w ∈ samples.map (·.value), w.WellFormed := List.forall_mem_map.mpr h
  have hself := fun w hw => Value.equals_self (hvalues w hw)
  -- With the document among them, the samples hold the same values.
  have hsame : Samples.SameValues (samples.map (·.value)) (v :: samples.map (·.value)) := by
    constructor
    · intro w hw
      exact ⟨w, List.mem_cons_of_mem v hw, hself w hw⟩
    · intro w hw
      rcases List.mem_cons.mp hw with rfl | hw
      · exact ⟨d.value, List.mem_map_of_mem hd, hequal⟩
      · exact ⟨w, hw, hself w hw⟩
  have hvalid : (Schema.ofSamples (samples.map (·.value))).valid v := by
    rw [valid_ofSamples_iff hvalues, Samples.accepts_congr v hvalues hsame]
    exact Samples.accepts_of_mem v hv List.mem_cons_self
  cases allowAdditional with
  | false => exact hvalid
  | true => exact (Schema.noStricter_setOpen _).valid v hvalid

end Samples

/-! ### Runs -/

section Runs

variable (files : Files) (s : InputSettings) (samples : List String) (allowAdditional : Bool)

/-- The documents that are selected for a check. -/
def checked : List Document :=
  (load files s s.inputs).documents

/-- The documents that the samples are. -/
def sampled : List Document :=
  (load files s samples).documents

/-- The failure that a check finds in a document, if there is one. -/
def verdict (d : Document) : Option Failure :=
  (schemaOf (sampled files s samples) allowAdditional).error? d.value

/-- The documents that fail. -/
def failing : List Document :=
  refused (schemaOf (sampled files s samples) allowAdditional) (checked files s)

variable {files s samples}

theorem runCheck_eq_checkAll (hsamples : (load files s samples).failure = none)
    (hsome : sampled files s samples ≠ []) (asJson : Bool) :
    runCheck files s samples allowAdditional asJson =
      checkAll asJson (schemaOf (sampled files s samples) allowAdditional)
        (load files s s.inputs) := by
  have hempty : (load files s samples).documents.isEmpty = false :=
    Bool.eq_false_iff.mpr fun h => hsome (List.isEmpty_iff.mp h)
  unfold runCheck
  dsimp only
  rw [hsamples]
  dsimp only
  rw [if_neg (by simp [hempty])]
  rfl

theorem failure_runCheck (hsamples : (load files s samples).failure = none)
    (hsome : sampled files s samples ≠ []) (hinputs : (load files s s.inputs).failure = none)
    (asJson : Bool) :
    (runCheck files s samples allowAdditional asJson).failure =
      if failing files s samples allowAdditional = [] then none
      else some (.rejected (failing files s samples allowAdditional).length
        (checked files s).length) := by
  rw [runCheck_eq_checkAll allowAdditional hsamples hsome, failure_checkAll hinputs]
  rfl

/-- The samples in another order, or some of them more than once, let the same documents fail. -/
theorem failing_congr {samples' : List String} (hsamples : (load files s samples).failure = none)
    (hmem : ∀ sample, sample ∈ samples' ↔ sample ∈ samples) :
    failing files s samples' allowAdditional = failing files s samples allowAdditional := by
  have hdocuments := (load_congr hmem hsamples).2
  have hvalid := valid_schemaOf_congr (wellFormed_load samples) hdocuments allowAdditional
  unfold failing refused
  exact List.filter_congr fun d _ => congrArg not (hvalid d.value)

theorem failing_eq_nil_of_equals
    (h : ∀ d ∈ checked files s, ∃ e ∈ sampled files s samples, e.value.equals d.value) :
    failing files s samples allowAdditional = [] := by
  rw [failing, refused, List.filter_eq_nil_iff]
  intro d hd
  obtain ⟨e, he, hequal⟩ := h d hd
  have hvalid : (schemaOf (sampled files s samples) allowAdditional).valid d.value :=
    valid_schemaOf_of_equals (wellFormed_load samples) he (wellFormed_load s.inputs d hd) hequal
      allowAdditional
  simp [hvalid]

/-- A check that loads everything reports on each document in text, and in JSON on each line on one
that fails, and it fails when there is one, telling how many there are. Which ones fail depends
neither on the order of the samples nor on how often they are named, and none fails of those that
occur among the samples. -/
theorem check_outcome (hsamples : (load files s samples).failure = none)
    (hsome : sampled files s samples ≠ []) (hinputs : (load files s s.inputs).failure = none) :
    ((runCheck files s samples allowAdditional false).printed =
        (checked files s).map fun d => textReport d (verdict files s samples allowAdditional d)) ∧
    ((lines (runCheck files s samples allowAdditional false).output).length =
        (checked files s).length ↔
      ∀ d ∈ checked files s, IsLine d.label ∧
        ∀ f, verdict files s samples allowAdditional d = some f →
          IsLine f.message ∧ IsLine f.path) ∧
    (lines (runCheck files s samples allowAdditional true).output =
      (checked files s).filterMap fun d =>
        (verdict files s samples allowAdditional d).map (jsonReport d)) ∧
    (∀ asJson,
      (runCheck files s samples allowAdditional asJson).status =
          (if failing files s samples allowAdditional = [] then 0 else 1) ∧
        (runCheck files s samples allowAdditional asJson).failure.map RunFailure.message =
          if failing files s samples allowAdditional = [] then none
          else some (toString (failing files s samples allowAdditional).length ++ " of " ++
            toString (checked files s).length ++ " documents failed validation")) ∧
    (∀ samples', (∀ sample, sample ∈ samples' ↔ sample ∈ samples) →
      failing files s samples' allowAdditional = failing files s samples allowAdditional ∧
        ∀ asJson, (runCheck files s samples' allowAdditional asJson).status =
          (runCheck files s samples allowAdditional asJson).status) ∧
    ((∀ d ∈ checked files s, ∃ e ∈ sampled files s samples, e.value.equals d.value) →
      ∀ asJson, (runCheck files s samples allowAdditional asJson).status = 0) := by
  have hrun := runCheck_eq_checkAll allowAdditional hsamples hsome
  have hfailure := failure_runCheck allowAdditional hsamples hsome hinputs
  have hstatus : ∀ asJson, (runCheck files s samples allowAdditional asJson).status =
      if failing files s samples allowAdditional = [] then 0 else 1 := by
    intro asJson
    rw [Report.status, hfailure]
    split <;> rfl
  refine ⟨?_, ?_, ?_, fun asJson => ⟨hstatus asJson, ?_⟩, fun samples' hmem => ?_, ?_⟩
  · rw [hrun, printed_checkAll_text]
    rfl
  · rw [hrun]
    exact length_lines_checkAll_text_iff
  · rw [hrun, lines_checkAll_json, printed_checkAll_json]
    rfl
  · rw [hfailure]
    split <;> rfl
  · have hfailing := failing_congr allowAdditional hsamples hmem
    obtain ⟨hsamples', hdocuments⟩ := load_congr hmem hsamples
    have hsome' : sampled files s samples' ≠ [] := by
      obtain ⟨d, hd⟩ := List.exists_mem_of_ne_nil _ hsome
      exact List.ne_nil_of_mem ((hdocuments d).mpr hd)
    refine ⟨hfailing, fun asJson => ?_⟩
    rw [Report.status, Report.status, hfailure,
      failure_runCheck allowAdditional hsamples' hsome' hinputs, hfailing]
  · intro hequals asJson
    rw [hstatus, failing_eq_nil_of_equals allowAdditional hequals]
    rfl

end Runs

/-- One of two documents fails. -/
theorem check_outcome_one_of_two :
    lines (runCheck (.named [("s", "[1]"), ("t", "[2,3]"), ("u", "[4,true]")])
        ⟨false, none, ["t", "u"]⟩ ["s"] false true).output =
      ["\x7b\"document\":\"u\",\"error\":\x7b\"path\":\"[1]\",\"rule\":\"type\"," ++
        "\"message\":\"expected integer, found boolean\"\x7d\x7d"] ∧
    (runCheck (.named [("s", "[1]"), ("t", "[2,3]"), ("u", "[4,true]")])
        ⟨false, none, ["t", "u"]⟩ ["s"] false true).failure.map RunFailure.message =
      some "1 of 2 documents failed validation" := by
  have houtcome := @check_outcome (.named [("s", "[1]"), ("t", "[2,3]"), ("u", "[4,true]")])
    ⟨false, none, ["t", "u"]⟩ ["s"] false (by decide +kernel) (by decide +kernel)
    (by decide +kernel)
  obtain ⟨-, -, hlines, hend, -⟩ := houtcome
  exact ⟨hlines.trans (by decide +kernel), (hend true).2.trans (by decide +kernel)⟩

/-- A report names a key as it is, so one document whose key has a newline in it takes three lines,
the key being named twice. -/
theorem check_prints_three_lines :
    (load (.named [("s", "\x7b\x7d"), ("t", "\x7b\"a\\nb\":1\x7d")])
        ⟨false, none, ["t"]⟩ ["s"]).failure = none ∧
      sampled (.named [("s", "\x7b\x7d"), ("t", "\x7b\"a\\nb\":1\x7d")])
        ⟨false, none, ["t"]⟩ ["s"] ≠ [] ∧
      (load (.named [("s", "\x7b\x7d"), ("t", "\x7b\"a\\nb\":1\x7d")])
        ⟨false, none, ["t"]⟩ ["t"]).failure = none ∧
      (checked (.named [("s", "\x7b\x7d"), ("t", "\x7b\"a\\nb\":1\x7d")])
        ⟨false, none, ["t"]⟩).length = 1 ∧
      (lines (runCheck (.named [("s", "\x7b\x7d"), ("t", "\x7b\"a\\nb\":1\x7d")])
        ⟨false, none, ["t"]⟩ ["s"] false false).output).length = 3 := by
  decide +kernel

end DocShape.Command
