import RouteAudit.Config.Settings
import RouteAudit.Files.Tree
import RouteAudit.Go.Import
import RouteAudit.Go.Parse.File

/-! # Source files

A `SourceFile` is a Go file with its tree and imports. `SourceFile.parse` makes one from bytes and
`SourceFile.load` from a path; a `FileError` is the reason why a file yields nothing. The parser of
Go is a parameter, for which the program takes `Go.parseFile`. -/

namespace RouteAudit

/-- A way to read the bytes of a Go file: its tree, or the line near which it does not parse. -/
abbrev GoParser := List UInt8 → Except Nat Go.Node

/-- A Go file that was parsed. -/
structure SourceFile where
  path : String
  root : Go.Node
  imports : Go.Imports

/-- Why a file yields nothing. -/
inductive FileError where
  | tooLarge (bytes : Nat) (limit : SizeLimit)
  | unreadable (path : String) (e : AccessError)
  | syntaxError (line : Nat)
  /-- A finder gave up on it. -/
  | failed (reason : String)
  /-- Its scan did not end in time. -/
  | timedOut (seconds : Int)
  /-- Its scan cannot be waited for. -/
  | unawaited
deriving DecidableEq, Repr

/-- What is said about a wait that is too long to begin. -/
def FileError.waitMessage : String := "timestamp too large to convert to C _PyTime_t"

def FileError.message : FileError → String
  | tooLarge bytes limit =>
    "file too large (" ++ Binary64.fixedRatio 1 bytes (1024 * 1024) ++ "MB > " ++ limit.text ++
      "MB)"
  | unreadable path e => "cannot read file: " ++ e.message path
  | syntaxError line => "syntax error near line " ++ natText line
  | failed reason => "analysis failed: " ++ reason
  | timedOut seconds => "timed out after " ++ intText seconds ++ "s"
  | unawaited => "analysis failed: " ++ waitMessage

namespace SourceFile

/-- Parse the bytes of a file. -/
def parse (parser : GoParser) (path : String) (bytes : List UInt8) :
    Except FileError SourceFile :=
  match parser bytes with
  | .ok root => .ok ⟨path, root, Go.importsOf root⟩
  | .error line => .error (.syntaxError line)

/-- A file that a limit excludes is not read. -/
def checkSize (limit : Option SizeLimit) (t : FileTree) : Except FileError Unit :=
  match limit with
  | some l => if l.excludes t.size then .error (.tooLarge t.size l) else .ok ()
  | none => .ok ()

/-- Read the file at a path and parse it. -/
def load (parser : GoParser) (fs : FileSystem) (limit : Option SizeLimit) (path : String) :
    Except FileError SourceFile := do
  let name := (Path.ofText path).text
  let t ← (fs.find name).mapError (.unreadable name)
  checkSize limit t
  let bytes ← (fs.read name).mapError (.unreadable name)
  parse parser path bytes

end SourceFile

end RouteAudit
