/-!
A tree of files in memory, and the way that path texts take through it. Paths are relative to the
root; what lies outside of it does not exist.
-/

namespace DocShape

/-- A file with its contents, or a folder with named entries. -/
inductive Tree where
  | file (contents : String)
  | folder (entries : List (String × Tree))

namespace Tree

instance : Inhabited Tree := ⟨.folder []⟩

def isFolder : Tree → Bool
  | .folder _ => true
  | .file _ => false

/-- The names in a folder; a file has none. -/
def names : Tree → List String
  | .folder entries => entries.map (·.1)
  | .file _ => []

/-- The entry of a folder. -/
def entry? (name : String) : Tree → Option Tree
  | .folder entries => entries.lookup name
  | .file _ => none

mutual
/-- How many folders are inside each other at most. -/
def depth : Tree → Nat
  | .file _ => 0
  | .folder entries => entriesDepth entries + 1
termination_by structural t => t

def entriesDepth : List (String × Tree) → Nat
  | [] => 0
  | (_, t) :: rest => max t.depth (entriesDepth rest)
termination_by structural entries => entries
end

/-- A file put at the end of a way through folders that are made on demand. -/
def insert (contents : String) : (way : List String) → Tree → Tree
  | [], t => t
  | name :: way, t =>
    let entries : List (String × Tree) :=
      match t with
      | .folder entries => entries
      | .file _ => []
    let below : Tree :=
      match way with
      | [] => .file contents
      | _ :: _ => insert contents way ((entries.lookup name).getD (.folder []))
    if entries.any (·.1 == name) then
      .folder (entries.map fun e => if e.1 = name then (name, below) else e)
    else .folder (entries ++ [(name, below)])

/-- The tree of some files with their path texts. -/
def ofFiles (files : List (String × String)) : Tree :=
  files.foldl (fun t (path, contents) => t.insert contents (path.splitOn "/")) (.folder [])

/-- The node at the end of a way. An empty component and a single dot stay at a folder, two dots
go back to the one before. -/
def walk? : (components : List String) → (above : List Tree) → Tree → Option Tree
  | [], _, t => some t
  | name :: rest, above, t =>
    if !t.isFolder then none
    else if name = "" ∨ name = "." then walk? rest above t
    else if name = ".." then
      match above with
      | [] => none
      | parent :: above => walk? rest above parent
    else
      match t.entry? name with
      | some next => walk? rest (t :: above) next
      | none => none

/-- The node at a path. -/
def at? (t : Tree) (path : String) : Option Tree :=
  if path = "" ∨ path.startsWith "/" then none else walk? (path.splitOn "/") [] t

/-- The contents of the file at a path. -/
def read? (t : Tree) (path : String) : Option String :=
  match t.at? path with
  | some (.file contents) => some contents
  | _ => none

/-- Whether there is a folder at a path. -/
def isFolderAt (t : Tree) (path : String) : Bool :=
  (t.at? path).any isFolder

end Tree
end DocShape
