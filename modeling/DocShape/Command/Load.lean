import DocShape.Access.Place
import DocShape.Command.Arguments
import DocShape.Files.Glob
import DocShape.Text.Lines
import DocShape.Value.Pointer
import DocShape.Value.Reader

/-!
Loading documents from files. What is loaded are the documents up to the first failure, each with
the label of its source.

Main statement: `append_assoc`, loading in parts.
-/

namespace DocShape.Command

/-- Why the program fails. -/
inductive RunFailure where
  | noMatch (pattern : String)
  | badPattern (e : WildcardError)
  | unreadable (path : String)
  | unparsable (path : String)
  | unparsableLine (label : String)
  | notFound (label : String) (e : AccessError)
  | noSamples
  | rejected (failed all : Nat)
deriving DecidableEq

namespace RunFailure

/-- The message of a failure. -/
def message : RunFailure → String
  | .noMatch _ | .badPattern _ => "failed to resolve input file paths"
  | .unreadable path => "failed to read source file (" ++ path ++ ")"
  | .unparsable path => "failed to parse JSON source file (" ++ path ++ ")"
  | .unparsableLine label => "failed to parse NDJSON line (" ++ label ++ ")"
  | .notFound label _ => "in " ++ label
  | .noSamples => "no sample documents to infer a shape from"
  | .rejected failed all =>
    toString failed ++ " of " ++ toString all ++ " documents failed validation"

/-- What caused the failure, as far as the program itself can tell. -/
def cause? : RunFailure → Option String
  | .noMatch pattern => some ("glob pattern matched no files: " ++ pattern)
  | .badPattern e => some e.message
  | .notFound _ e => some e.message
  | _ => none

end RunFailure

/-- What the program sees of the outside: a tree to list paths in, and the contents of files. -/
structure Files where
  tree : Tree
  read? : String → Option String

/-- Files in memory. -/
def Files.ofTree (t : Tree) : Files := ⟨t, t.read?⟩

/-- A document and the label of its source. -/
structure Document where
  label : String
  value : Value

/-- Documents up to the first failure, if there is one. -/
structure Loaded where
  documents : List Document
  failure : Option RunFailure

namespace Loaded

/-- What is loaded first and then second. -/
def append (a b : Loaded) : Loaded :=
  match a.failure with
  | some _ => a
  | none => ⟨a.documents ++ b.documents, b.failure⟩

/-- Nothing but a failure. -/
def failed (e : RunFailure) : Loaded := ⟨[], some e⟩

/-- Everything that is loaded, in order. -/
def join : List Loaded → Loaded
  | [] => ⟨[], none⟩
  | a :: rest => a.append (join rest)

theorem append_assoc (a b c : Loaded) : (a.append b).append c = a.append (b.append c) := by
  obtain ⟨_, fa⟩ := a
  obtain ⟨_, fb⟩ := b
  cases fa <;> cases fb <;> simp [append, List.append_assoc]

end Loaded

/-- How many containers may be open at a time in a document. -/
def depthLimit : Nat := 127

/-- The paths that an input stands for: a literal path itself, and for a pattern the paths that fit,
of which there has to be one. -/
def pathsOf (t : Tree) (input : String) : Except RunFailure (List String) :=
  if Glob.isPattern input then
    match Glob.ofText input with
    | .error e => .error (.badPattern e)
    | .ok g => if (g.paths t).isEmpty then .error (.noMatch input) else .ok (g.paths t)
  else .ok [input]

/-- The paths that inputs stand for. -/
def sourcesOf (t : Tree) : (inputs : List String) → Except RunFailure (List String)
  | [] => .ok []
  | input :: rest => do
    let found ← pathsOf t input
    let more ← sourcesOf t rest
    return found ++ more

/-- The document that the settings select in a text; none when the pointer selects nothing. -/
def loadText (s : InputSettings) (label : String) (failure : RunFailure) (text : String) : Loaded :=
  match Value.read? depthLimit text with
  | none => .failed failure
  | some v =>
    match s.pointer with
    | none => ⟨[⟨label, v⟩], none⟩
    | some pointer =>
      match v.pointer? pointer with
      | some w => ⟨[⟨label, w⟩], none⟩
      | none => ⟨[], none⟩

/-- Whether there is nothing but white space on a line. -/
def isBlankLine (line : String) : Bool :=
  line.toList.all Text.isBlank

/-- The documents on the lines of a text; lines with nothing on them are left out, but counted. -/
def loadLines (s : InputSettings) (path : String) : (number : Nat) → List String → Loaded
  | _, [] => ⟨[], none⟩
  | number, line :: rest =>
    let label := path ++ ":" ++ toString number
    let here :=
      if isBlankLine line then ⟨[], none⟩ else loadText s label (.unparsableLine label) line
    here.append (loadLines s path (number + 1) rest)

/-- The documents in a file. -/
def loadSource (files : Files) (s : InputSettings) (path : String) : Loaded :=
  match files.read? path with
  | none => .failed (.unreadable path)
  | some text =>
    if s.ndjson then loadLines s path 1 (Text.lines text)
    else loadText s path (.unparsable path) text

/-- The documents that inputs stand for. -/
def load (files : Files) (s : InputSettings) (inputs : List String) : Loaded :=
  match sourcesOf files.tree inputs with
  | .error e => .failed e
  | .ok sources => .join (sources.map (loadSource files s))

end DocShape.Command
