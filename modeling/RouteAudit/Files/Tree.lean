import RouteAudit.Data.Assoc
import RouteAudit.Files.Path
import RouteAudit.Text.Quoted

/-! # Files and directories

A `FileTree` is a file with its bytes, a directory with named entries in the order in which the
system lists them, or a link that leads nowhere. A `FileSystem` is the tree from the root on
together with the working directory; `find` follows a path as it is written, part by part, and names
the reason when it leads nowhere. -/

namespace RouteAudit

/-- Why a path gives no access. -/
inductive AccessError where
  | missing
  | notDirectory
  | isDirectory
deriving DecidableEq, Repr

/-- The system's words for a path that gives no access. -/
def AccessError.message (path : String) : AccessError → String
  | missing => "[Errno 2] No such file or directory: " ++ Text.quoted path
  | notDirectory => "[Errno 20] Not a directory: " ++ Text.quoted path
  | isDirectory => "[Errno 21] Is a directory: " ++ Text.quoted path

/-- A file or a directory. -/
inductive FileTree where
  | file (content : List UInt8)
  | directory (entries : List (String × FileTree))
  /-- A link whose target is gone: its directory lists it, but nothing stands there. -/
  | dangling
deriving Repr

namespace FileTree

def empty : FileTree := directory []

def isFile : FileTree → Bool
  | file _ => true
  | _ => false

def isDirectory : FileTree → Bool
  | directory _ => true
  | _ => false

/-- Something stands there. -/
def stands : FileTree → Bool
  | dangling => false
  | _ => true

/-- The entries of a directory; anything else has none. -/
def entries : FileTree → List (String × FileTree)
  | directory es => es
  | _ => []

/-- What stands at the entry with a name. -/
def child? (t : FileTree) (name : String) : Option FileTree :=
  (t.entries.lookup name).filter stands

/-- What stands at the end of some parts. -/
def at? (t : FileTree) : List String → Option FileTree
  | [] => some t
  | p :: rest => (t.child? p).bind (·.at? rest)

@[simp] theorem at?_nil (t : FileTree) : t.at? [] = some t := rfl

/-- Put something at the end of some parts, with the directories on the way. -/
def put (t : FileTree) : List String → FileTree → FileTree
  | [], node => node
  | p :: rest, node =>
    directory (Assoc.update p (fun old => (old.getD empty).put rest node) t.entries)

/-- The number of bytes of a file. A directory takes one block. -/
def size : FileTree → Nat
  | file content => content.length
  | directory _ => 4096
  | dangling => 0

/-- The bytes of a file. -/
def content : FileTree → Except AccessError (List UInt8)
  | file bytes => .ok bytes
  | directory _ => .error .isDirectory
  | dangling => .error .missing

end FileTree

/-! ### Access by path -/

/-- The files at hand and the directory that relative paths start from. -/
structure FileSystem where
  root : FileTree := .empty
  directory : Path := ⟨"/", []⟩

namespace FileSystem

/-- The tree at an absolute path without double dots. -/
def at? (fs : FileSystem) (p : Path) : Option FileTree := fs.root.at? p.parts

/-- The absolute path that a text means. -/
def resolve (fs : FileSystem) (text : String) : Path := fs.directory.resolve (Path.ofText text)

def isFile (fs : FileSystem) (p : Path) : Bool := ((fs.at? p).map FileTree.isFile).getD false

/-- One part further from a place, which is given with the directories above it, the nearest first.
Every part has to start from a directory, also an empty one. -/
def step : List FileTree → String → Except AccessError (List FileTree)
  | [], _ => .error .missing
  | here :: above, part =>
    if here.isFile then .error .notDirectory
    else if part == "" || part == "." then .ok (here :: above)
    else if part == ".." then .ok (if above.isEmpty then [here] else above)
    else match here.child? part with
      | some t => .ok (t :: here :: above)
      | none => .error .missing

/-- The working directory with the directories above it. -/
def start (fs : FileSystem) : List FileTree :=
  fs.directory.parts.foldl
    (fun places part => (((places.head?).bind (·.child? part)).getD .empty) :: places) [fs.root]

/-- Follow a path as it is written. -/
def find (fs : FileSystem) (text : String) : Except AccessError FileTree := do
  if text.isEmpty then throw .missing
  let first := if Text.startsWith text "/" then [fs.root] else fs.start
  let places ← (Text.split '/' text).foldlM step first
  match places with
  | t :: _ => return t
  | [] => throw .missing

/-- The bytes of the file that a path names. -/
def read (fs : FileSystem) (text : String) : Except AccessError (List UInt8) := do
  (← fs.find text).content

/-- Whether a file can be written at a path: its directory has to be there. -/
def checkWrite (fs : FileSystem) (p : Path) : Except AccessError Unit :=
  match fs.find p.text with
  | .ok (.directory _) => .error .isDirectory
  | .ok _ => .ok ()
  | .error .missing => do
    if (← fs.find p.parent.text).isFile then throw .notDirectory
  | .error e => .error e

end FileSystem

end RouteAudit
