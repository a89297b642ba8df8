import RouteAudit.Data.Yaml.Scalar

/-! # Tokens of a document

`tokens?` reads a text into tokens. Indentation becomes tokens of its own: a line further to the
right than the ones before opens a collection, a line further to the left closes those it leaves. A
key is known only at the colon after it, so the places where one may have started are remembered as
candidates, one per depth of brackets, and the tokens that open it are put in at that place. -/

namespace RouteAudit.Yaml

/-! ### Tokens -/

/-- A line for the reader of the document. -/
inductive Directive where
  | version (major : Nat)
  | handle (name expansion : String)
  | other
deriving DecidableEq, Repr

inductive Token where
  | directive (d : Directive)
  | documentStart
  | documentEnd
  | sequenceStart
  | mappingStart
  | blockEnd
  | bracketOpen
  | bracketClose
  | braceOpen
  | braceClose
  | comma
  | dash
  | key
  | colon
  | alias (name : String)
  | anchor (name : String)
  /-- A tag: a handle, if it has one, and the part after it. -/
  | tag (handle : Option String) (suffix : String)
  | scalar (isPlain : Bool) (text : String)
deriving DecidableEq, Repr

/-! ### State -/

/-- A place where a key may have started. -/
structure Candidate where
  /-- The number of tokens before it. -/
  position : Nat
  /-- It stands where only a key may stand. -/
  required : Bool
  index : Nat
  line : Nat
  column : Nat

/-- What has been read so far. -/
structure Layout where
  source : Source
  /-- The tokens, the latest first. -/
  done : List Token := []
  /-- The number of open brackets. -/
  depth : Nat := 0
  /-- The columns of the open collections, the innermost first. -/
  columns : List Nat := []
  keyAllowed : Bool := true
  /-- The candidates by the number of open brackets. -/
  candidates : List (Nat × Candidate) := []

abbrev Scanner := StateT Layout Option

variable {α : Type}

def reading (r : Reading α) : Scanner α := do
  let s ← get
  let (a, source) ← r s.source
  set { s with source }
  return a

def emit (t : Token) : Scanner Unit := modify fun s => { s with done := t :: s.done }

/-- Put a token where a candidate started. -/
def emitAt (position : Nat) (t : Token) : Scanner Unit := modify fun s =>
  { s with done := s.done.insertIdx (s.done.length - position) t }

def allowKey (allowed : Bool) : Scanner Unit := modify fun s => { s with keyAllowed := allowed }

/-- The leftmost column of what belongs to the innermost collection. -/
def margin : Scanner Nat := do
  match (← get).columns with
  | [] => return 0
  | c :: _ => return c + 1

/-! ### Keys -/

/-- A candidate is stale on another line, or when it lies too far back. -/
def Candidate.isStale (s : Source) (c : Candidate) : Bool :=
  c.line != s.line || s.index - c.index > 1024

/-- Forget the stale candidates; one that had to be a key must not be among them. -/
def dropStale : Scanner Unit := do
  let s ← get
  let (stale, fresh) := s.candidates.partition fun c => c.2.isStale s.source
  if stale.any fun c => c.2.required then failure
  set { s with candidates := fresh }

/-- Forget the candidate at the present depth, which must not have had to be a key. -/
def dropCandidate : Scanner Unit := do
  let s ← get
  if s.candidates.any fun c => c.1 == s.depth && c.2.required then failure
  set { s with candidates := s.candidates.filter fun c => c.1 != s.depth }

/-- A key may start here. -/
def saveCandidate : Scanner Unit := do
  let s ← get
  if s.keyAllowed then
    dropCandidate
    let c : Candidate :=
      { position := s.done.length
        required := s.depth == 0 && s.columns.head? == some s.source.column
        index := s.source.index
        line := s.source.line
        column := s.source.column }
    modify fun s => { s with candidates := (s.depth, c) :: s.candidates }

/-! ### Indentation -/

/-- Close the collections that lie further to the right than a column. -/
def closeBeyond (column : Nat) : Scanner Unit := modify fun s =>
  let left := s.columns.takeWhile (column < ·)
  { s with
    columns := s.columns.drop left.length
    done := List.replicate left.length Token.blockEnd ++ s.done }

/-- Close the collections that the present line leaves. Brackets suspend indentation. -/
def closeLeft : Scanner Unit := do
  let s ← get
  if s.depth == 0 then closeBeyond s.source.column

/-- Close all collections. -/
def closeAll : Scanner Unit := do
  let s ← get
  if s.depth == 0 then
    set { s with columns := [], done := List.replicate s.columns.length Token.blockEnd ++ s.done }

/-- Open a collection at a column, unless one is open there. -/
def openAt (column : Nat) : Scanner Bool := do
  if (← margin) ≤ column then
    modify fun s => { s with columns := column :: s.columns }
    return true
  return false

/-! ### Names and tags -/

/-- A name that is not empty. -/
def name : Reading String := do
  let cs ← takeWhile isNameChar
  if cs.isEmpty then failure
  return String.ofList cs

/-- A blank or the end of the line comes next. -/
def isBlankNext (rest : List Char) : Bool := rest.head? == some ' ' || isLineEnd rest

/-- The name of an anchor, after its sign. -/
def anchorName : Reading String := do
  skip 1
  let n ← name
  let rest ← upcoming
  unless isApart rest || rest.head?.any ("?:,]\x7d%@`".toList.contains ·) do failure
  return n

/-- The characters of a tag after its handle. -/
def isTagChar (c : Char) : Bool := c.isAlphanum || "-;/?:@&=+$,_.!~*'()[]".toList.contains c

def tagText : Reading String := do
  let cs ← takeWhile isTagChar
  if cs.isEmpty then failure
  return String.ofList cs

/-- A handle: an exclamation mark, or a name between two. -/
def handle : Reading String := do
  unless (← peek) == some '!' do failure
  skip 1
  if (← peek) == some ' ' then return "!"
  let cs ← takeWhile isNameChar
  unless (← peek) == some '!' do failure
  skip 1
  return String.ofList ('!' :: cs ++ ['!'])

/-- A second exclamation mark stands in the tag. -/
def hasHandle (rest : List Char) : Bool :=
  (rest.takeWhile fun c => c != ' ' && !isBreak c).contains '!'

def tag : Reading Token := do
  let t ← do
    match ← upcoming with
    | _ :: '<' :: _ =>
      skip 2
      let text ← tagText
      unless (← peek) == some '>' do failure
      skip 1
      pure (Token.tag none text)
    | _ :: rest =>
      if isApart rest then
        skip 1
        pure (Token.tag none "!")
      else if hasHandle rest then
        let h ← handle
        pure (Token.tag (some h) (← tagText))
      else
        skip 1
        pure (Token.tag (some "!") (← tagText))
    | [] => failure
  unless isBlankNext (← upcoming) do failure
  return t

/-! ### Directives -/

/-- A decimal number. -/
def number : Reading Nat := do
  let ds ← takeWhile Char.isDigit
  if ds.isEmpty then failure
  return ds.foldl (fun n c => 10 * n + (c.toNat - 48)) 0

def version : Reading Directive := do
  let _ ← takeWhile (· == ' ')
  let major ← number
  unless (← peek) == some '.' do failure
  skip 1
  let _ ← number
  unless isBlankNext (← upcoming) do failure
  return .version major

def handleDirective : Reading Directive := do
  let _ ← takeWhile (· == ' ')
  let h ← handle
  unless (← peek) == some ' ' do failure
  let _ ← takeWhile (· == ' ')
  let text ← tagText
  unless isBlankNext (← upcoming) do failure
  return .handle h text

def directive : Reading Token := do
  skip 1
  let n ← name
  unless isBlankNext (← upcoming) do failure
  let d ← do
    if n == "YAML" then version
    else if n == "TAG" then handleDirective
    else
      let _ ← takeWhile (!isBreak ·)
      pure Directive.other
  restOfLine
  return .directive d

/-! ### The next token -/

/-- Skip blanks, comments and line breaks; a new line allows a key outside brackets. -/
def skipGap (crossed : Bool) : Reading (Bool ⊕ Bool) := do
  let _ ← takeWhile (· == ' ')
  if (← peek) == some '#' then
    let _ ← takeWhile (!isBreak ·)
  match ← lineBreak? with
  | some _ => return .inl true
  | none => return .inr crossed

def toNextToken : Scanner Unit := do
  if ← reading (repeatUntil skipGap false) then
    if (← get).depth == 0 then allowKey true

/-- A token of one character. -/
def sign (t : Token) : Scanner Unit := do
  reading (skip 1)
  emit t

def openBracket (t : Token) : Scanner Unit := do
  saveCandidate
  modify fun s => { s with depth := s.depth + 1 }
  allowKey true
  sign t

/-- Close a bracket. One that was not opened is left to the reader of the tokens. -/
def closeBracket (t : Token) : Scanner Unit := do
  dropCandidate
  modify fun s => { s with depth := s.depth - 1 }
  allowKey false
  sign t

def border (t : Token) : Scanner Unit := do
  closeAll
  dropCandidate
  allowKey false
  reading (skip 3)
  emit t

def dashSign : Scanner Unit := do
  let s ← get
  if s.depth == 0 then
    unless s.keyAllowed do failure
    if ← openAt s.source.column then emit .sequenceStart
  allowKey true
  dropCandidate
  sign .dash

/-- A question mark opens a key of any kind. -/
def keySign : Scanner Unit := do
  let s ← get
  if s.depth == 0 then
    unless s.keyAllowed do failure
    if ← openAt s.source.column then emit .mappingStart
  allowKey (s.depth == 0)
  dropCandidate
  sign .key

/-- A colon ends a key: the candidate at this depth, or one that a question mark opened. -/
def colonSign : Scanner Unit := do
  let s ← get
  match s.candidates.lookup s.depth with
  | some c =>
    set { s with candidates := s.candidates.filter fun c => c.1 != s.depth }
    emitAt c.position .key
    if s.depth == 0 then
      if ← openAt c.column then emitAt c.position .mappingStart
    allowKey false
  | none =>
    if s.depth == 0 then
      unless s.keyAllowed do failure
      if ← openAt s.source.column then emit .mappingStart
    allowKey (s.depth == 0)
    dropCandidate
  sign .colon

/-- A token that may start a key, and that none follows at once. -/
def word (r : Reading Token) : Scanner Unit := do
  saveCandidate
  allowKey false
  emit (← reading r)

def blockScalar (folds : Bool) : Scanner Unit := do
  allowKey true
  dropCandidate
  let m ← margin
  emit (.scalar false (← reading (block folds m)))

def plainScalar : Scanner Unit := do
  saveCandidate
  let (text, crossed) ← reading (plain ((← get).depth != 0) (← margin))
  allowKey crossed
  emit (.scalar true text)

/-- Characters that start no plain scalar, unless a dash, and outside brackets a question mark or
a colon, is followed by something. -/
def startsPlain (inFlow : Bool) (c : Char) (rest : List Char) : Bool :=
  if isGap c then false
  else if c == '-' then !isApart rest
  else if c == '?' || c == ':' then !inFlow && !isApart rest
  else !(",[]\x7b\x7d#&*!|>'\"%@`".toList.contains c)

/-- Read one token, with those that indentation adds; `false` at the end of the text. -/
def nextToken : Scanner Bool := do
  toNextToken
  dropStale
  closeLeft
  let s ← get
  let inFlow := s.depth != 0
  match s.source.rest with
  | [] =>
    closeAll
    dropCandidate
    return false
  | c :: rest =>
    let atStart := s.source.column == 0
    if c == '%' && atStart then
      closeAll
      dropCandidate
      allowKey false
      emit (← reading directive)
    else if c == '-' && atStart && isBorder s.source.rest then border .documentStart
    else if c == '.' && atStart && isBorder s.source.rest then border .documentEnd
    else if c == '[' then openBracket .bracketOpen
    else if c == '\x7b' then openBracket .braceOpen
    else if c == ']' then closeBracket .bracketClose
    else if c == '\x7d' then closeBracket .braceClose
    else if c == ',' then
      allowKey true
      dropCandidate
      sign .comma
    else if c == '-' && isApart rest then dashSign
    else if c == '?' && (inFlow || isApart rest) then keySign
    else if c == ':' && (inFlow || isApart rest) then colonSign
    else if c == '*' then word (do return .alias (← anchorName))
    else if c == '&' then word (do return .anchor (← anchorName))
    else if c == '!' then word tag
    else if c == '|' && !inFlow then blockScalar false
    else if c == '>' && !inFlow then blockScalar true
    else if c == '\'' then word (do return .scalar false (← quoted false))
    else if c == '"' then word (do return .scalar false (← quoted true))
    else if startsPlain inFlow c rest then plainScalar
    else failure
    return true

/-- Read tokens until the end. -/
def allTokens : (bound : Nat) → Scanner Unit
  | 0 => failure
  | n + 1 => do
    if ← nextToken then allTokens n

/-- The tokens of a text; a leading byte order mark is none. -/
def tokens? (text : List Char) : Option (List Token) := do
  guard (text.all isAllowed)
  let start : Source := { rest := text }
  let source := if text.head? == some '\ufeff' then start.next else start
  let (_, s) ← (allTokens (text.length + 2)).run { source }
  return s.done.reverse

end RouteAudit.Yaml
