import DocShape.Command.Run

/-!
The command line. What lies outside is looked at before a command runs: the names in the working
folder, if an input is a pattern, and the contents of the files that the inputs stand for.
-/

namespace DocShape.Command

/-- How the program is used. -/
def usage : String :=
  "usage: docshape get   -i FILE.. -p PATH [--cast TAG] [--strict] [SETTINGS]\n" ++
  "       docshape check -i FILE.. --like FILE.. [--allow-additional] [--json] [SETTINGS]\n\n" ++
  "  -i, --input          files to read, or patterns such as data/*.json\n" ++
  "  -p, --path           path to resolve, such as pets[0]?.name\n" ++
  "      --cast           tag to convert the result to\n" ++
  "      --strict         fail when a required step of the path finds nothing\n" ++
  "      --like           samples that the expected shape is inferred from\n" ++
  "      --allow-additional  accept keys that the samples never had\n" ++
  "      --json           print failures as JSON lines\n" ++
  "settings:\n" ++
  "      --ndjson         one document on each line\n" ++
  "      --json-pointer   node to select in each document, such as /data/items/0\n"

/-- The names below some entries of a folder; links are not followed. -/
partial def namesBelow (entries : Array IO.FS.DirEntry) : IO Tree := do
  let below ← entries.toList.mapM fun e => do
    let kind := (← e.path.symlinkMetadata).type
    let t ← if kind == .dir then namesBelow (← e.path.readDir) else pure (Tree.file "")
    return (e.fileName, t)
  return .folder below

/-- The contents of a file that can be read as text. -/
def contentsOf (path : String) : IO (Option String) := do
  try
    return some (← IO.FS.readFile path)
  catch _ =>
    return none

/-- What a request may look at. -/
def look (r : Request) : IO Files := do
  let tree ←
    if r.inputs.any Glob.isPattern then namesBelow (← (← IO.currentDir).readDir)
    else pure (Tree.folder [])
  let sources := r.inputs.flatMap fun input => ((sourcesOf tree [input]).toOption).getD []
  let contents ← sources.mapM fun path => return (path, ← contentsOf path)
  return ⟨tree, fun path => (contents.lookup path).join⟩

/-- Answers a request and tells its outcome. -/
def perform (r : Request) : IO UInt32 := do
  let report := run (← look r) r
  for line in report.printed do
    IO.println line
  match report.failure with
  | none => return 0
  | some e =>
    IO.eprintln ("Error: " ++ e.message)
    if let some cause := e.cause? then
      IO.eprintln ("\nCaused by:\n    " ++ cause)
    return 1

/-- The whole program: status two tells that the arguments were refused. -/
def start (arguments : List String) : IO UInt32 := do
  match parse arguments with
  | .ok r => perform r
  | .error .help =>
    IO.print usage
    return 0
  | .error .refused =>
    IO.eprint usage
    return 2

end DocShape.Command

def main (arguments : List String) : IO UInt32 :=
  DocShape.Command.start arguments
