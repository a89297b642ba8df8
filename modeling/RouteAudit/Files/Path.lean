import RouteAudit.Text.Basic

/-! # Paths

A path is a root (empty, one slash or two) and the parts between slashes, without empty parts and
single dots. `Path.ofText` reads one, `Path.text` writes it; `name`, `suffix`, `relativeTo?` are the
usual questions. -/

namespace RouteAudit

/-- A path in the file system. -/
structure Path where
  root : String := ""
  parts : List String := []
deriving DecidableEq, Repr

namespace Path

/-- The root that a text starts with: two slashes count as such, three or more as one. -/
def rootOf : List Char → String
  | '/' :: '/' :: '/' :: _ => "/"
  | '/' :: '/' :: _ => "//"
  | '/' :: _ => "/"
  | _ => ""

/-- The parts that a text lists. -/
def partsOf (s : String) : List String := (Text.split '/' s).filter fun p => p != "" && p != "."

def ofText (s : String) : Path := ⟨rootOf s.toList, partsOf s⟩

/-- The text of a path; the empty one is a dot. -/
def text (p : Path) : String :=
  if p.root.isEmpty && p.parts.isEmpty then "." else p.root ++ Text.join "/" p.parts

def isAbsolute (p : Path) : Bool := !p.root.isEmpty

/-- The last part, empty when there is none. -/
def name (p : Path) : String := p.parts.getLastD ""

/-- The path without its last part. -/
def parent (p : Path) : Path := { p with parts := p.parts.dropLast }

/-- The path one part further down. -/
def child (p : Path) (part : String) : Path := { p with parts := p.parts ++ [part] }

/-- The path followed by another; an absolute one replaces it. -/
def join (p q : Path) : Path := if q.isAbsolute then q else { p with parts := p.parts ++ q.parts }

/-- The end of a name from its last dot on, when something stands before and after that dot. -/
def suffixOf (name : String) : String :=
  let after := name.toList.reverse.takeWhile (· != '.')
  let before := (name.toList.reverse.dropWhile (· != '.')).drop 1
  if after.isEmpty || before.isEmpty then "" else String.ofList ('.' :: after.reverse)

def suffix (p : Path) : String := suffixOf p.name

/-- The path with an ending added to its last part. -/
def addSuffix (p : Path) (ending : String) : Path :=
  { p with parts := p.parts.dropLast ++ [p.name ++ ending] }

/-- The rest of a path below another. -/
def relativeTo? (p base : Path) : Option Path :=
  if base.root.isEmpty && base.parts.isEmpty then
    if p.isAbsolute then none else some p
  else if p.root = base.root ∧ base.parts.isPrefixOf p.parts then
    some ⟨"", p.parts.drop base.parts.length⟩
  else none

/-- One part after the parts so far, the latest first: a double dot steps up, but not above the
root. -/
def step (done : List String) (part : String) : List String :=
  if part = ".." then done.drop 1 else part :: done

/-- The absolute path that a path means in a directory, without double dots. -/
def resolve (directory p : Path) : Path :=
  let full := directory.join p
  ⟨"/", (full.parts.foldl step []).reverse⟩

end Path

end RouteAudit
