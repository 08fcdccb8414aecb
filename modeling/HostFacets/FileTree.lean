import HostFacets.Text.Cut

/-!
Files in folders, found by their paths.

A path is walked from the folder in which the service runs: its segments lie between slashes, an
empty one and a single dot stay where they are, two dots go back. What lies around that folder is
not known.
-/

namespace HostFacets

inductive FileTree where
  | file (text : String)
  | folder (entries : List (String × FileTree))

namespace FileTree

/-- Why a path leads to no text. -/
inductive Fault where
  | missing
  | isFolder
  /-- A file stands where a folder is needed. -/
  | noFolder
deriving DecidableEq, Repr

def Fault.message : Fault → String
  | .missing => "No such file or directory (os error 2)"
  | .isFolder => "Is a directory (os error 21)"
  | .noFolder => "Not a directory (os error 20)"

/-- What a path has led to, and the folders around it, innermost first. -/
structure Place where
  here : FileTree
  around : List FileTree

def Place.step (p : Place) (segment : String) : Except Fault Place :=
  match p.here with
  | .file _ => .error .noFolder
  | .folder entries =>
    match segment with
    | "" | "." => .ok p
    | ".." =>
      match p.around with
      | here :: around => .ok ⟨here, around⟩
      | [] => .error .missing
    | name =>
      match entries.lookup name with
      | some entry => .ok ⟨entry, p.here :: p.around⟩
      | none => .error .missing

/-- The text of the file at a path. -/
def read (tree : FileTree) (path : String) : Except Fault String := do
  if path.isEmpty || path.startsWith "/" then throw .missing
  let segments := (Text.split (· == '/') path.toList).map String.ofList
  match (← segments.foldlM Place.step ⟨tree, []⟩).here with
  | .file text => return text
  | .folder _ => throw .isFolder

end FileTree

end HostFacets
