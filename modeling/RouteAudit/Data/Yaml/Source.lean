/-! # A text under reading

`Source` is the rest of a text with the line and column where it starts, and `Reading` the
readers that move along it and may refuse. Line breaks are a newline, U+0085 and the two Unicode
separators. -/

namespace RouteAudit.Yaml

/-! ### Characters -/

def isBreak (c : Char) : Bool :=
  c == '\n' || c == '\u0085' || c == '\u2028' || c == '\u2029'

def isSpace (c : Char) : Bool := c == ' ' || c == '\t'

/-- Characters that part one word from the next. -/
def isGap (c : Char) : Bool := isSpace c || isBreak c

/-- Nothing but a gap, or the end of the text, comes next. -/
def isApart : List Char → Bool
  | [] => true
  | c :: _ => isGap c

/-- The end of a line comes next. -/
def isLineEnd : List Char → Bool
  | [] => true
  | c :: _ => isBreak c

/-- The characters of names of anchors, handles and directives. -/
def isNameChar (c : Char) : Bool := c.isAlphanum || c == '-' || c == '_'

/-- Three dashes or three dots that stand alone: the borders of documents. -/
def isBorder : List Char → Bool
  | '-' :: '-' :: '-' :: rest => isApart rest
  | '.' :: '.' :: '.' :: rest => isApart rest
  | _ => false

/-- Characters that a document may hold. -/
def isAllowed (c : Char) : Bool :=
  let n := c.toNat
  n == 9 || n == 10 || n == 13 || (32 ≤ n && n ≤ 126) || n == 0x85 ||
    (0xA0 ≤ n && n ≤ 0xFFFD) || 0x10000 ≤ n

/-! ### Moving along a text -/

/-- The rest of a text, with the place where it starts. -/
structure Source where
  rest : List Char
  index : Nat := 0
  line : Nat := 0
  column : Nat := 0

namespace Source

/-- One character further. A byte order mark takes no column. -/
def next (s : Source) : Source :=
  match s.rest with
  | [] => s
  | c :: rest =>
    if isBreak c then ⟨rest, s.index + 1, s.line + 1, 0⟩
    else if c == '\ufeff' then ⟨rest, s.index + 1, s.line, s.column⟩
    else ⟨rest, s.index + 1, s.line, s.column + 1⟩

def skip : Nat → Source → Source
  | 0, s => s
  | n + 1, s => skip n s.next

end Source

/-- Readers of a text. -/
abbrev Reading := StateT Source Option

variable {α β : Type}

def upcoming : Reading (List Char) := do return (← get).rest

def peek : Reading (Option Char) := do return (← get).rest.head?

def skip (n : Nat) : Reading Unit := modify (Source.skip n)

/-- Take the leading characters of a kind. -/
def takeWhile (p : Char → Bool) : Reading (List Char) := do
  let taken := (← upcoming).takeWhile p
  skip taken.length
  return taken

/-- Take one line break. The Unicode separators stay what they are, any other is a newline. -/
def lineBreak? : Reading (Option Char) := do
  match ← peek with
  | some c =>
    if isBreak c then
      skip 1
      return some (if c == '\u0085' then '\n' else c)
    else return none
  | none => return none

/-- Repeat a step until it comes to a result. -/
def repeatFor (step : α → Reading (α ⊕ β)) : (bound : Nat) → α → Reading β
  | 0, _ => failure
  | n + 1, a => do
    match ← step a with
    | .inl more => repeatFor step n more
    | .inr result => return result

/-- Repeat a step that moves on until it comes to a result. -/
def repeatUntil (step : α → Reading (α ⊕ β)) (start : α) : Reading β := do
  repeatFor step ((← upcoming).length + 2) start

/-- Skip blanks and a comment; the line has to end there. -/
def restOfLine : Reading Unit := do
  let _ ← takeWhile (· == ' ')
  if (← peek) == some '#' then
    let _ ← takeWhile (!isBreak ·)
  unless isLineEnd (← upcoming) do failure
  let _ ← lineBreak?

end RouteAudit.Yaml
