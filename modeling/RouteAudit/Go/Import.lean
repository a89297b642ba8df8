import RouteAudit.Data.Assoc
import RouteAudit.Go.Literal
import RouteAudit.Text.Digit

/-! # Imports

`importsOf` lists the imports of a file with the name each is known by, in the order of their first
appearance; a path that is imported again takes the later name. `defaultAlias` names a path that is
imported without a name. -/

namespace RouteAudit.Go

/-- Imported paths with the names they are known by. -/
abbrev Imports := List (String × String)

/-- A version suffix: the letter v and digits. A line break may follow. -/
def isVersion : List Char → Bool
  | 'v' :: rest =>
    let digits := rest.takeWhile Text.isDecimal
    let after := rest.dropWhile Text.isDecimal
    !digits.isEmpty && (after == [] || after == ['\n'])
  | _ => false

/-- The last segment of an import path, or the one before it when the last is a version. -/
def defaultAlias (path : String) : String :=
  match ((Text.split '/' path).filter fun p => p != "").reverse with
  | [] => ""
  | [last] => last
  | last :: before :: _ => if isVersion last.toList then before else last

namespace Imports

def has (imports : Imports) (path : String) : Bool := imports.any fun i => i.1 == path

/-- Some import is the path itself or lies below it. -/
def hasBelow (imports : Imports) (path : String) : Bool :=
  let base := Text.trimEnd (· == '/') path
  imports.any fun i => i.1 == base || Text.startsWith i.1 (base ++ "/")

end Imports

/-- Path and name of an import specification. -/
def importOf? (spec : Node) : Option (String × String) :=
  match (spec.child? .path).bind Node.stringValue? with
  | some path =>
    some (path, match spec.child? .name with
      | some name => name.text
      | none => defaultAlias path)
  | none => none

/-- The imports of a tree. -/
def importsOf (root : Node) : Imports :=
  root.walk.foldl (fun imports n =>
    if n.kind = .importSpec then
      match importOf? n with
      | some (path, name) => Assoc.set path name imports
      | none => imports
    else imports) []

/-- The line of the first broken node, or of the root when none is broken. -/
def firstErrorLine (root : Node) : Nat :=
  match root.walk.find? fun n => n.info.broken with
  | some n => n.line
  | none => root.line

end RouteAudit.Go
