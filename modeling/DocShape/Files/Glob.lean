import DocShape.Files.Tree
import DocShape.Files.Wildcard

/-!
Listing the paths in a tree that fit a pattern, in the order of their names, folder by folder. A
pattern that ends in a slash fits folders only.
-/

namespace DocShape

/-- A path pattern: its components, and whether it is for folders only. -/
structure Glob where
  components : List NamePattern
  foldersOnly : Bool

namespace Glob

/-- Whether a text has wildcards. An opening brace counts as one but stands for itself. -/
def isPattern (text : String) : Bool :=
  text.toList.any fun c => c == '*' || c == '?' || c == '[' || c == '\x7b'

/-- The components of a path text; a slash at the end does not begin one. -/
def componentsOf (text : String) : List String :=
  let pieces := text.splitOn "/"
  if pieces.getLast? = some "" then pieces.dropLast else pieces

/-- The pattern that a text writes: the text as a whole has to be in order, then each component. -/
def ofText (text : String) : Except WildcardError Glob := do
  let _ ← NameToken.ofText text.toList
  let components ← (componentsOf text).mapM fun c => NamePattern.mk <$> NameToken.ofText c.toList
  return ⟨components, text.endsWith "/"⟩

/-- Whether a path is the one to begin with, spelled in any way. -/
def isStart (path : String) : Bool :=
  path.startsWith "." && (path.splitOn "/").all fun c => c == "" || c == "."

/-- A path one name further on. -/
def below (path name : String) : String :=
  if path.endsWith "/" then path ++ name else path ++ "/" ++ name

/-- A path one name further on; the name alone from where the search begins. -/
def child (path name : String) : String :=
  if isStart path then name else below path name

/-- The paths that fit the components from a path on. Each step either takes a component or goes
one folder down, so a bound on both bounds the steps. -/
def search (t : Tree) (foldersOnly : Bool) : Nat → List NamePattern → String → List String
  | 0, _, _ => []
  | _ + 1, [], _ => []
  | n + 1, p :: rest, path =>
    let kept (path : String) : List String :=
      if !foldersOnly || t.isFolderAt path then [path] else []
    let arrive (path : String) : List String :=
      if rest.isEmpty then kept path else search t foldersOnly n rest path
    match p.literal? with
    | some name =>
      let next := child path name
      let found :=
        if name = "." ∨ name = ".." then t.isFolderAt path && t.isFolderAt (below path name)
        else (t.at? next).isSome
      if found then arrive next else []
    | none =>
      let names := ((t.at? path).map Tree.names).getD []
      let sorted := names.mergeSort fun a b => a ≤ b
      let dots :=
        if p.beginsWithDot && t.isFolderAt path then ["..", "."].filter p.fits else []
      let fit (q : NamePattern) (further : List NamePattern) (name : String) : List String :=
        if !q.fits name then []
        else if further.isEmpty then kept (child path name)
        else if t.isFolderAt (child path name) then
          search t foldersOnly n further (child path name)
        else []
      let visit (name : String) : List String :=
        let next := child path name
        if p.isRecursive then
          let deeper :=
            if t.isFolderAt next then
              search t foldersOnly n (p :: rest.dropWhile NamePattern.isRecursive) next
            else []
          match rest.dropWhile NamePattern.isRecursive with
          | [] => if t.isFolderAt next then next :: deeper else []
          | q :: further => fit q further name ++ deeper
        else fit p rest name
      (dots.flatMap fun name => arrive (below path name)) ++ sorted.flatMap visit

/-- The paths in a tree that a pattern fits. -/
def paths (t : Tree) (g : Glob) : List String :=
  search t g.foldersOnly ((g.components.length + 1) * (t.depth + 2)) g.components "."

end Glob
end DocShape
