import RouteAudit.Text.Basic

/-! # Globs

A glob is a list of items: a star stands for any characters, slashes included, a question mark for
one character, brackets for one character of a set, and every other character for itself.
`Glob.parse` reads a glob and `Glob.fits` holds of the texts it covers as a whole. -/

namespace RouteAudit

/-- Characters from one to another. -/
structure CharRange where
  low : Char
  high : Char
deriving DecidableEq, Repr

def CharRange.holds (r : CharRange) (c : Char) : Bool := r.low ≤ c && c ≤ r.high

/-- One item of a glob. -/
inductive GlobItem where
  | star
  | any
  | one (c : Char)
  | set (negated : Bool) (ranges : List CharRange)
deriving DecidableEq, Repr

abbrev Glob := List GlobItem

namespace Glob

/-! ### Sets -/

/-- Cut the inside of brackets at the dashes that make ranges: a dash counts when it is not among
the first `wait` characters. After a cut the next two characters do not count. `chunk` holds the
characters since the last cut, the latest first. -/
def cutRanges : (wait : Nat) → (chunk : List Char) → List Char → List (List Char)
  | _, chunk, [] => [chunk.reverse]
  | 0, chunk, '-' :: rest => chunk.reverse :: cutRanges 2 [] rest
  | 0, chunk, c :: rest => cutRanges 0 (c :: chunk) rest
  | wait + 1, chunk, c :: rest => cutRanges wait (c :: chunk) rest

/-- A dash at the very end stands for itself. -/
def closeDash : List (List Char) → List (List Char)
  | [] => []
  | [last] => [last]
  | [before, []] => [before ++ ['-']]
  | chunk :: rest => chunk :: closeDash rest

/-- Join a chunk with the chunks after it where the range between them would be empty. -/
def joinEmpty (chunk : List Char) : List (List Char) → List (List Char)
  | [] => [chunk]
  | next :: rest =>
    match chunk.getLast?, next.head? with
    | some a, some b =>
      if b < a then (chunk.dropLast ++ next.drop 1) :: rest else chunk :: next :: rest
    | _, _ => chunk :: next :: rest

/-- Drop the empty ranges, from the last to the first. -/
def dropEmptyRanges : List (List Char) → List (List Char)
  | [] => []
  | chunk :: rest => joinEmpty chunk (dropEmptyRanges rest)

/-- The ranges of chunks with dashes between them. `low` is the start of a range that the first
character of the next chunk ends. -/
def chunkRanges : (low : Option Char) → List (List Char) → List CharRange
  | _, [] => []
  | low, chunk :: rest =>
    let inner := match low, chunk with
      | some l, c :: cs => (⟨l, c⟩ : CharRange) :: cs.map fun d => ⟨d, d⟩
      | _, cs => cs.map fun d => ⟨d, d⟩
    match rest, inner.reverse with
    | _ :: _, last :: before => before.reverse ++ chunkRanges (some last.high) rest
    | _, _ => inner ++ chunkRanges none rest

/-- The item that the inside of brackets stands for. An exclamation mark in front negates; nothing
after it means any character, and nothing at all none. -/
def setItem (inside : List Char) : GlobItem :=
  let wait := match inside with
    | '!' :: _ => 2
    | _ => 1
  match dropEmptyRanges (closeDash (cutRanges wait [] inside)) with
  | ['!'] :: [] => .any
  | ('!' :: first) :: rest => .set true (chunkRanges none (first :: rest))
  | chunks => .set false (chunkRanges none chunks)

/-- The inside of brackets up to the closing one, and the rest. A closing bracket right at the
start, or after an exclamation mark, belongs to the set. -/
def splitSet (cs : List Char) : Option (List Char × List Char) :=
  let lead := match cs with
    | '!' :: ']' :: _ => 2
    | '!' :: _ => 1
    | ']' :: _ => 1
    | _ => 0
  (Text.cutAt ']' (cs.drop lead)).map fun p => (cs.take lead ++ p.1, p.2)

/-! ### Items -/

/-- The items of a glob; `bound` is at least the number of characters. Neighbouring stars are one.
-/
def items : (bound : Nat) → List Char → Glob
  | 0, _ => []
  | _, [] => []
  | bound + 1, '*' :: rest =>
    match items bound rest with
    | .star :: more => .star :: more
    | more => .star :: more
  | bound + 1, '?' :: rest => .any :: items bound rest
  | bound + 1, '[' :: rest =>
    match splitSet rest with
    | some (inside, after) => setItem inside :: items bound after
    | none => .one '[' :: items bound rest
  | bound + 1, c :: rest => .one c :: items bound rest

def parse (pattern : String) : Glob := items pattern.length pattern.toList

/-! ### Matching -/

/-- A single character matches an item other than a star. -/
def accepts : GlobItem → Char → Bool
  | .star, _ => false
  | .any, _ => true
  | .one d, c => c == d
  | .set negated ranges, c => (ranges.any fun r => r.holds c) != negated

/-- Some rest of the characters, possibly all of them, satisfies a predicate. -/
def someRest (p : List Char → Bool) : List Char → Bool
  | [] => p []
  | c :: cs => p (c :: cs) || someRest p cs

/-- The characters as a whole match the glob. -/
def covers : Glob → List Char → Bool
  | [], cs => cs.isEmpty
  | .star :: rest, cs => someRest (covers rest) cs
  | _ :: _, [] => false
  | item :: rest, c :: cs => accepts item c && covers rest cs

def fits (pattern text : String) : Bool := covers (parse pattern) text.toList

end Glob

/-- Some pattern matches a relative path, with or without a slash in front. The slash lets a pattern
that starts with a star and a slash match at the top. -/
def matchesAnyGlob (path : String) (patterns : List String) : Bool :=
  patterns.any fun p => Glob.fits p path || Glob.fits p ("/" ++ path)

end RouteAudit
