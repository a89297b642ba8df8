import RouteAudit.Data.Yaml.Source
import RouteAudit.Text.CodeUnit
import RouteAudit.Text.Utf8

/-! # The texts of scalars

Scalars are written plainly, in single or double quotes, or as an indented block. A single line
break inside is read as a blank, each further one as itself; a block in the literal style keeps
all. -/

namespace RouteAudit.Yaml

/-- A line break and the ones that follow it, joined: alone it is a blank. -/
def folded (first : Char) (breaks : List Char) : List Char :=
  if first != '\n' then first :: breaks
  else if breaks.isEmpty then [' ']
  else breaks

/-! ### Plain scalars -/

/-- The characters that end a plain scalar inside brackets. -/
def isBracketed (c : Char) : Bool := ",?[]\x7b\x7d".toList.contains c

/-- A colon ends a plain scalar before a gap, and inside brackets before a bracket or comma. -/
def endsKey (inFlow : Bool) (rest : List Char) : Bool :=
  isApart rest || (inFlow && match rest with
    | c :: _ => c != '?' && isBracketed c
    | [] => false)

/-- The leading characters of a plain scalar up to a gap or its end. -/
def plainRun (inFlow : Bool) : List Char → List Char
  | [] => []
  | c :: rest =>
    if isGap c || (c == ':' && endsKey inFlow rest) || (inFlow && isBracketed c) then []
    else c :: plainRun inFlow rest

/-- Further line breaks between parts of a plain scalar; `none` before the border of a document. -/
def plainBreaks (done : List Char) : Reading (List Char ⊕ Option (List Char)) := do
  if (← peek) == some ' ' then
    skip 1
    return .inl done
  match ← lineBreak? with
  | some c => if isBorder (← upcoming) then return .inr none else return .inl (c :: done)
  | none => return .inr (some done.reverse)

/-- What stands between two parts of a plain scalar, and whether that crosses lines. Nothing stands
before the border of a document. -/
def plainGap : Reading (List Char × Bool) := do
  let blanks ← takeWhile (· == ' ')
  match ← lineBreak? with
  | none => return (blanks, false)
  | some first =>
    if isBorder (← upcoming) then return ([], true)
    match ← repeatUntil plainBreaks [] with
    | none => return ([], true)
    | some breaks => return (folded first breaks, true)

/-- A plain scalar so far. -/
structure PlainPart where
  text : List Char
  gap : List Char
  crossed : Bool

/-- Add one part to a plain scalar. Outside brackets the following lines are indented to `margin`.
-/
def plainPart (inFlow : Bool) (margin : Nat) (p : PlainPart) : Reading (PlainPart ⊕ PlainPart) := do
  if (← peek) == some '#' then return .inr p
  let run := plainRun inFlow (← upcoming)
  if run.isEmpty then return .inr p
  skip run.length
  let (gap, crossed) ← plainGap
  let part := ⟨p.text ++ p.gap ++ run, gap, crossed⟩
  let s ← get
  if gap.isEmpty || s.rest.head? == some '#' || (!inFlow && s.column < margin) then
    return .inr part
  return .inl part

/-- A plain scalar, and whether it was read on to a new line. -/
def plain (inFlow : Bool) (margin : Nat) : Reading (String × Bool) := do
  let p ← repeatUntil (plainPart inFlow margin) ⟨[], [], false⟩
  return (String.ofList p.text, p.crossed)

/-! ### Quoted scalars -/

/-- Characters with an escape of one letter. -/
def escaped? : Char → Option Char
  | '0' => some '\x00'
  | 'a' => some '\x07'
  | 'b' => some '\x08'
  | 't' => some '\t'
  | '\t' => some '\t'
  | 'n' => some '\n'
  | 'v' => some '\x0b'
  | 'f' => some '\x0c'
  | 'r' => some '\r'
  | 'e' => some '\x1b'
  | ' ' => some ' '
  | '"' => some '"'
  | '\\' => some '\\'
  | '/' => some '/'
  | 'N' => some '\u0085'
  | '_' => some '\u00a0'
  | 'L' => some '\u2028'
  | 'P' => some '\u2029'
  | _ => none

/-- The number of digits after an escape with a code. -/
def codeLength? : Char → Option Nat
  | 'x' => some 2
  | 'u' => some 4
  | 'U' => some 8
  | _ => none

def hexDigit? (c : Char) : Option Nat :=
  if c.isDigit then some (c.toNat - 48)
  else if 'a' ≤ c && c ≤ 'f' then some (c.toNat - 87)
  else if 'A' ≤ c && c ≤ 'F' then some (c.toNat - 55)
  else none

def hexNumber? (digits : List Char) : Option Nat :=
  digits.foldlM (fun n c => (hexDigit? c).map (16 * n + ·)) 0

/-- The character with a code; half of a pair is no character, and a code beyond the last is
refused. -/
def charOfCode? (n : Nat) : Option Char :=
  if n.isValidChar then some (Char.ofNat n)
  else if n < 0x110000 then some Text.replacement
  else none

/-- The character of a pair of code units when the second one is escaped next. -/
def paired? (high : Nat) : List Char → Option Char
  | '\\' :: 'u' :: rest => do Text.pairChar? high (← hexNumber? (rest.take 4))
  | _ => none

/-- Further line breaks inside quotes. -/
def quotedBreaks (done : List Char) : Reading (List Char ⊕ List Char) := do
  if isBorder (← upcoming) then failure
  let _ ← takeWhile isSpace
  match ← lineBreak? with
  | some c => return .inl (c :: done)
  | none => return .inr done.reverse

/-- The escape after a backslash. -/
def escape : Reading (List Char) := do
  match ← upcoming with
  | [] => failure
  | c :: rest =>
    if let some e := escaped? c then
      skip 1
      return [e]
    if let some n := codeLength? c then
      let digits := rest.take n
      if digits.length < n then failure
      let code ← hexNumber? digits
      skip (n + 1)
      if let some c := paired? code (← upcoming) then
        skip 6
        return [c]
      return [← charOfCode? code]
    match ← lineBreak? with
    | some _ => repeatUntil quotedBreaks []
    | none => failure

/-- Characters that neither end a part of a quoted scalar nor need a look. -/
def isUnmarked (c : Char) : Bool := !(isGap c || c == '\'' || c == '"' || c == '\\')

/-- A part of a quoted scalar without gaps. -/
def quotedRun (double : Bool) (done : List Char) : Reading (List Char ⊕ List Char) := do
  let text := done ++ (← takeWhile isUnmarked)
  match ← upcoming with
  | '\'' :: rest =>
    if double then
      skip 1
      return .inl (text ++ ['\''])
    else if rest.head? == some '\'' then
      skip 2
      return .inl (text ++ ['\''])
    else return .inr text
  | '"' :: _ =>
    if double then return .inr text
    else
      skip 1
      return .inl (text ++ ['"'])
  | '\\' :: _ =>
    skip 1
    if double then return .inl (text ++ (← escape))
    else return .inl (text ++ ['\\'])
  | _ => return .inr text

/-- Blanks and line breaks between two parts of a quoted scalar. -/
def quotedGap : Reading (List Char) := do
  let blanks ← takeWhile isSpace
  if (← upcoming).isEmpty then failure
  match ← lineBreak? with
  | some first => return folded first (← repeatUntil quotedBreaks [])
  | none => return blanks

/-- Add a part to a quoted scalar, unless its end is reached. -/
def quotedPart (double : Bool) (text : List Char) : Reading (List Char ⊕ List Char) := do
  if (← peek) == some (if double then '"' else '\'') then
    skip 1
    return .inr text
  let gap ← quotedGap
  return .inl (text ++ gap ++ (← repeatUntil (quotedRun double) []))

/-- A scalar in quotes. -/
def quoted (double : Bool) : Reading String := do
  skip 1
  let first ← repeatUntil (quotedRun double) []
  return String.ofList (← repeatUntil (quotedPart double) first)

/-! ### Blocks -/

/-- What happens to the line breaks at the end of a block: `clip` keeps one. -/
inductive Chomping where
  | clip
  | keep
  | strip
deriving DecidableEq, Repr

def chomping : Reading Chomping := do
  match ← peek with
  | some '+' => skip 1; return .keep
  | some '-' => skip 1; return .strip
  | _ => return .clip

/-- An explicit indentation, from one to nine. -/
def increment : Reading (Option Nat) := do
  match ← peek with
  | some c =>
    if c.isDigit then
      if c == '0' then failure
      skip 1
      return some (c.toNat - 48)
    else return none
  | none => return none

/-- The first line of a block: how it ends and its indentation, in either order. -/
def blockHeader : Reading (Chomping × Option Nat) := do
  skip 1
  let before ← chomping
  let size ← increment
  let after ← if before == .clip && size.isSome then chomping else pure before
  match ← peek with
  | some c => unless c == ' ' || isBreak c do failure
  | none => pure ()
  restOfLine
  return (after, size)

/-- Skip blanks up to a column. -/
def indentTo (column : Nat) : Reading Unit := do
  let s ← get
  skip ((s.rest.take (column - s.column)).takeWhile (· == ' ')).length

/-- The line breaks before a block, and the widest indentation seen among them. -/
def blockStart (done : List Char × Nat) : Reading ((List Char × Nat) ⊕ (List Char × Nat)) := do
  if (← peek) == some ' ' then
    skip 1
    return .inl (done.1, max done.2 (← get).column)
  match ← lineBreak? with
  | some c => return .inl (c :: done.1, done.2)
  | none => return .inr (done.1.reverse, done.2)

/-- The line breaks before a line that is indented to a column. -/
def blockBreaks (column : Nat) (done : List Char) : Reading (List Char ⊕ List Char) := do
  indentTo column
  match ← lineBreak? with
  | some c => return .inl (c :: done)
  | none => return .inr done.reverse

/-- A block so far: its text, the break that ends its last line, and the breaks after that. -/
structure BlockPart where
  text : List Char
  last : List Char
  breaks : List Char

/-- A further line of the block stands at the column. -/
def atBlockLine (column : Nat) : Reading Bool := do
  let s ← get
  return s.column == column && !s.rest.isEmpty

/-- Add a line to a block. -/
def blockLine (folds : Bool) (column : Nat) (p : BlockPart) : Reading (BlockPart ⊕ BlockPart) := do
  unless ← atBlockLine column do return .inr p
  let opening := ((← peek).map isSpace).getD false
  let line ← takeWhile (!isBreak ·)
  let last := (← lineBreak?).toList
  let breaks ← repeatUntil (blockBreaks column) []
  let text := p.text ++ p.breaks ++ line
  if ← atBlockLine column then
    let next := ((← peek).map isSpace).getD false
    if folds && last == ['\n'] && !opening && !next then
      return .inl ⟨text ++ (if breaks.isEmpty then [' '] else []), last, breaks⟩
    return .inl ⟨text ++ last, last, breaks⟩
  return .inr ⟨text, last, breaks⟩

/-- A scalar as a block whose lines are indented to at least `margin`. -/
def block (folds : Bool) (margin : Nat) : Reading String := do
  let (ending, size) ← blockHeader
  let least := max margin 1
  let (column, breaks) ← match size with
    | some n => do pure (least + n - 1, ← repeatUntil (blockBreaks (least + n - 1)) [])
    | none => do
      let (breaks, widest) ← repeatUntil blockStart ([], 0)
      pure (max least widest, breaks)
  let p ← repeatUntil (blockLine folds column) ⟨[], [], breaks⟩
  return String.ofList (p.text ++ match ending with
    | .clip => p.last
    | .keep => p.last ++ p.breaks
    | .strip => [])

end RouteAudit.Yaml
