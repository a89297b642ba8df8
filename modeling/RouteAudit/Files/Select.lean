import RouteAudit.Files.Tree
import RouteAudit.Pattern.Glob

/-! # Selecting files

`Selection.select` lists the files below a directory whose relative path is included and not
excluded. Directories that are excluded themselves are not entered. A directory's own files, links
that lead nowhere among them, come before those of its directories, both in the order of their
names. -/

namespace RouteAudit

/-- The globs that choose files. -/
structure Selection where
  included : List String
  excluded : List String
deriving DecidableEq, Repr

namespace Selection

/-- A path relative to the target, as the globs see it. -/
def relative (parts : List String) : String := Text.join "/" parts

/-- The file is included and not excluded. -/
def takes (s : Selection) (parts : List String) : Bool :=
  matchesAnyGlob (relative parts) s.included && !matchesAnyGlob (relative parts) s.excluded

/-- The directory is excluded as a whole. -/
def prunes (s : Selection) (parts : List String) : Bool :=
  matchesAnyGlob (relative parts ++ "/") s.excluded

/-- What was selected in one entry of a directory. -/
structure Branch where
  name : String
  isDirectory : Bool
  paths : List (List String)

/-- Branches in the order of their names. -/
def inOrder (bs : List Branch) : List Branch := bs.mergeSort fun a b => decide (a.name ≤ b.name)

mutual

/-- The files selected below a tree, which itself lies at some parts. -/
def select (s : Selection) (above : List String) : FileTree → List (List String)
  | .directory entries =>
    let branches := selectEntries s above entries
    (inOrder (branches.filter fun b => !b.isDirectory) ++
      inOrder (branches.filter fun b => b.isDirectory)).flatMap fun b => b.paths
  | _ => []

def selectEntries (s : Selection) (above : List String) : List (String × FileTree) → List Branch
  | [] => []
  | (name, .directory entries) :: rest =>
    let path := above ++ [name]
    ⟨name, true, if s.prunes path then [] else select s path (.directory entries)⟩ ::
      selectEntries s above rest
  | (name, _) :: rest =>
    let path := above ++ [name]
    ⟨name, false, if s.takes path then [path] else []⟩ :: selectEntries s above rest

end

/-- The files to scan at a path: a single file if it is Go source, and else the selected ones
below. -/
def collect (s : Selection) (target : Path) : FileTree → List Path
  | .directory entries =>
    (s.select [] (.directory entries)).map fun parts =>
      { target with parts := target.parts ++ parts }
  | _ => if target.suffix == ".go" then [target] else []

end Selection

end RouteAudit
