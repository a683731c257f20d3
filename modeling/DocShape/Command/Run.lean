import DocShape.Command.Load
import DocShape.Schema.Check
import DocShape.Shape.Observe

/-!
Running the commands. `get` writes the node at a path in each document; `check` infers a shape from
samples and writes for each document whether it has that shape.
-/

namespace DocShape.Command

/-- What a run printed, and why it failed if it did. -/
structure Report where
  printed : List String
  failure : Option RunFailure

/-- The exit status: failures are told by a one. -/
def Report.status (r : Report) : Nat :=
  if r.failure.isSome then 1 else 0

/-- The lines that were printed. -/
def Report.lines (r : Report) : List String :=
  r.printed.flatMap (·.splitOn "\n")

/-- What `get` writes for a document, or why it stops there. -/
def getOne (path : Path) (cast : Option Tag) (strict : Bool) (d : Document) :
    Except RunFailure String := do
  let argument : PathArgument := .ok path
  let found ←
    if strict then (argument.resolve d.value).mapError (.notFound d.label)
    else .ok (argument.find? d.value)
  return match cast with
    | some tag => ((argument.place d.value).ensureCastValue tag).compact
    | none => (found.getD .null).compact

/-- What `get` writes for documents, up to the first failure. -/
def getAll (path : Path) (cast : Option Tag) (strict : Bool) : List Document → Report
  | [] => ⟨[], none⟩
  | d :: rest =>
    match getOne path cast strict d with
    | .error e => ⟨[], some e⟩
    | .ok line =>
      let r := getAll path cast strict rest
      ⟨line :: r.printed, r.failure⟩

/-- The run of `get`. A failure in a document comes before one in loading what is behind it. -/
def runGet (files : Files) (s : InputSettings) (path : Path) (cast : Option Tag) (strict : Bool) :
    Report :=
  let loaded := load files s s.inputs
  let r := getAll path cast strict loaded.documents
  ⟨r.printed, r.failure.or loaded.failure⟩

/-- What `check` writes for a document; in JSON only failures are written. -/
def checkLine (asJson : Bool) (schema : Schema) (d : Document) : Option String :=
  match schema.error? d.value, asJson with
  | none, true => none
  | none, false => some ("✔ " ++ d.label)
  | some f, true =>
    some (Value.object [("document", .string d.label), ("error", f.toValue)]).compact
  | some f, false => some ("✘ " ++ d.label ++ ": " ++ f.text)

/-- The schema that documents are checked against. -/
def schemaOf (samples : List Document) (allowAdditional : Bool) : Schema :=
  let s := Schema.ofSamples (samples.map (·.value))
  if allowAdditional then s.modify (.isOpen true) else s

/-- What `check` writes for documents, and its verdict once all are checked. -/
def checkAll (asJson : Bool) (schema : Schema) (loaded : Loaded) : Report :=
  let failed := (loaded.documents.filter fun d => !schema.valid d.value).length
  let verdict :=
    if 0 < failed then some (RunFailure.rejected failed loaded.documents.length) else none
  ⟨loaded.documents.filterMap (checkLine asJson schema), loaded.failure.or verdict⟩

/-- The run of `check`. -/
def runCheck (files : Files) (s : InputSettings) (samples : List String)
    (allowAdditional asJson : Bool) : Report :=
  let seen := load files s samples
  match seen.failure with
  | some e => ⟨[], some e⟩
  | none =>
    if seen.documents.isEmpty then ⟨[], some .noSamples⟩
    else checkAll asJson (schemaOf seen.documents allowAdditional) (load files s s.inputs)

/-- The run of a request. -/
def run (files : Files) : Request → Report
  | .get s path cast strict => runGet files s path cast strict
  | .check s samples allowAdditional asJson => runCheck files s samples allowAdditional asJson

/-- The inputs that a request names. -/
def Request.inputs : Request → List String
  | .get s _ _ _ => s.inputs
  | .check s samples _ _ => s.inputs ++ samples

end DocShape.Command
