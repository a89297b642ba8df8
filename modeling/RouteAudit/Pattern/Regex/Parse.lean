import RouteAudit.Number.Numeral
import RouteAudit.Pattern.Regex.Basic
import RouteAudit.Text.CharacterName

/-! # Reading regular expressions

`Regex.parse` reads an expression. Flags of the whole expression may stand at its very start only, a
group may be referred to once it is closed, and an expression to look behind has a fixed width.

A text that is refused is malformed, or it has a `PatternFault`, which those who ask for a search do
not expect. Which of the two a text with several flaws has is decided by the first flaw that is met.
Flags are compared once the text has been read as far as it goes, and what can be read but not
matched is met last. -/

namespace RouteAudit

/-- Flaws of a text that do not make it count as malformed. -/
inductive PatternFault where
  /-- Flags of the whole expression choose two alphabets. -/
  | twoAlphabets
  /-- A repetition asks for too many rounds. -/
  | tooManyRounds
  /-- The number of rounds has too many digits to be read. -/
  | tooManyDigits (count : Nat)
deriving DecidableEq, Repr

def PatternFault.message : PatternFault → String
  | twoAlphabets => "ASCII and UNICODE flags are incompatible"
  | tooManyRounds => "the repetition number is too large"
  | tooManyDigits count => Numeral.lengthMessage count

namespace Regex

/-- Why a text is no expression. -/
inductive Refusal where
  | malformed
  | fault (f : PatternFault)
deriving DecidableEq, Repr

/-! ### Bounds -/

/-- Repetitions have fewer rounds than this. -/
def roundLimit : Nat := 4294967295

/-- Groups have smaller numbers than this. -/
def groupLimit : Nat := 1073741823

/-- The most characters that can be looked behind. -/
def behindLimit : Nat := 4294967295

/-! ### Glyphs -/

/-- A character of an expression, possibly behind a backslash. -/
inductive Glyph where
  | plain (c : Char)
  | escaped (c : Char)
  /-- A backslash at the end, which stands before nothing. -/
  | stray
deriving DecidableEq, Repr

/-- The glyphs of a text. -/
def glyphs : List Char → List Glyph
  | [] => []
  | ['\\'] => [.stray]
  | '\\' :: c :: rest => .escaped c :: glyphs rest
  | c :: rest => .plain c :: glyphs rest

/-! ### State -/

/-- What has been read so far. -/
structure State where
  rest : List Glyph
  /-- The number of the next group. -/
  next : Nat := 1
  names : List (String × Nat) := []
  /-- The widths of the groups that are closed. -/
  widths : List (Nat × Width) := []
  /-- Inside a look behind, the number of the first group opened there. -/
  behind : Option Nat := none
  /-- Groups that conditions ask about. -/
  asked : List Nat := []
  /-- Flags of the whole expression. -/
  flags : Flags := {}
  /-- The letters of these flags. -/
  letters : List Char := []
  /-- Something was read that cannot be matched. -/
  isRefused : Bool := false
  /-- The number of glyphs at the start, which bounds every repetition. -/
  total : Nat := rest.length

abbrev Reader := StateT State (Except Refusal)

variable {α : Type}

def malformed : Reader α := throw .malformed

def faulty (f : PatternFault) : Reader α := throw (.fault f)

/-- Go on with the glyphs given. One glyph is always looked at ahead, so that a stray backslash is
met as soon as it is the next. -/
def moveTo (rest : List Glyph) : Reader Unit := do
  if rest.head? = some .stray then malformed
  modify fun s => { s with rest }

def peek : Reader (Option Glyph) := do return (← get).rest.head?

def advance : Reader Glyph := do
  let s ← get
  match s.rest with
  | [] => malformed
  | u :: rest => moveTo rest; return u

/-- Take the next glyph if it is this character. -/
def accept (c : Char) : Reader Bool := do
  if (← peek) == some (.plain c) then
    let _ ← advance
    return true
  else return false

def expect (c : Char) : Reader Unit := do
  unless ← accept c do malformed

/-- Repeat up to a bound until a step yields nothing; the results, the latest first. -/
def repeatOnto (step : List α → Reader (Option (List α))) : Nat → List α → Reader (List α)
  | 0, done => return done
  | n + 1, done => do
    match ← step done with
    | some more => repeatOnto step n more
    | none => return done

/-- Up to `n` leading glyphs that are plain characters of a kind. -/
def takeChars (p : Char → Bool) : Nat → Reader (List Char)
  | 0 => return []
  | n + 1 => do
    match ← peek with
    | some (.plain c) =>
      if p c then
        let _ ← advance
        return c :: (← takeChars p n)
      else return []
    | _ => return []

/-- The characters up to a closing one; there is at least one. -/
def takeUntil (close : Char) : Reader (List Char) := do
  let s ← get
  match s.rest.span (· != .plain close) with
  | (inside, _ :: after) =>
    if inside.isEmpty then malformed
    moveTo after
    return inside.flatMap fun u =>
      match u with
      | .plain c => [c]
      | .escaped c => ['\\', c]
      | .stray => []
  | (_, []) => malformed

/-! ### Escapes -/

def hexValue (cs : List Char) : Nat :=
  cs.foldl (fun n c =>
    16 * n + (if c.isDigit then c.toNat - 48 else (c.toNat ||| 32) - 87)) 0

def octalValue (cs : List Char) : Nat := cs.foldl (fun n c => 8 * n + (c.toNat - 48)) 0

def isHex (c : Char) : Bool := c.isDigit || ('a' ≤ c && c ≤ 'f') || ('A' ≤ c && c ≤ 'F')

def isOctal (c : Char) : Bool := '0' ≤ c && c ≤ '7'

/-- Exactly `n` hexadecimal digits. -/
def hexDigits (n : Nat) : Reader Nat := do
  let ds ← takeChars isHex n
  if ds.length = n then return hexValue ds else malformed

/-- Control characters with a letter of their own. -/
def control? : Char → Option Nat
  | 'a' => some 7
  | 'f' => some 12
  | 'n' => some 10
  | 'r' => some 13
  | 't' => some 9
  | 'v' => some 11
  | '\\' => some 92
  | _ => none

def category? : Char → Option SetItem
  | 'd' => some (.category .digit false)
  | 'D' => some (.category .digit true)
  | 's' => some (.category .blank false)
  | 'S' => some (.category .blank true)
  | 'w' => some (.category .word false)
  | 'W' => some (.category .word true)
  | _ => none

/-- The character whose name stands in braces. -/
def named : Reader Nat := do
  expect '\x7b'
  match Text.codeNamed? (String.ofList (← takeUntil '\x7d')) with
  | some n => return n
  | none => malformed

/-- Escapes by number or name that sets and expressions share. -/
def numbered? (c : Char) : Option (Reader Nat) :=
  match c with
  | 'N' => some named
  | 'x' => some (hexDigits 2)
  | 'u' => some (hexDigits 4)
  | 'U' => some do
    let n ← hexDigits 8
    if n ≤ 0x10FFFF then return n else malformed
  | _ => none

/-- A character that may stand behind a backslash for itself. -/
def itself (c : Char) : Reader Nat := if c.isAlphanum then malformed else return c.toNat

/-- An escape in a set: a class, or the number of a character. -/
def setEscape (c : Char) : Reader SetItem := do
  let literal (n : Nat) : SetItem := .range n n
  match category? c with
  | some item => return item
  | none =>
    if c == 'b' then return literal 8
    else match control? c with
      | some n => return literal n
      | none =>
        match numbered? c with
        | some read => return literal (← read)
        | none =>
          if isOctal c then
            let n := octalValue (c :: (← takeChars isOctal 2))
            if n ≤ 255 then return literal n else malformed
          else return literal (← itself c)

/-! ### Sets -/

/-- The member that a glyph of a set stands for. -/
def setMember : Glyph → Reader SetItem
  | .plain c => return .range c.toNat c.toNat
  | .escaped c => setEscape c
  | .stray => malformed

/-- One step through the inside of a set; `done` holds the members, the latest first. A closing
bracket ends the set unless it comes first. -/
def setStep (done : List SetItem) : Reader (Option (List SetItem)) := do
  let this ← advance
  if this = .plain ']' ∧ !done.isEmpty then return none
  let low ← setMember this
  if ← accept '-' then
    match ← advance with
    | .plain ']' =>
      modify fun s => { s with rest := .plain ']' :: s.rest }
      return some (.range 45 45 :: low :: done)
    | that =>
      let high ← setMember that
      match low, high with
      | .range a _, .range b _ => if a ≤ b then return some (.range a b :: done) else malformed
      | _, _ => malformed
  else return some (low :: done)

/-- A set after its opening bracket. -/
def charSet (flags : Flags) : Reader Regex := do
  let negated ← accept '^'
  let items ← repeatOnto setStep ((← get).total + 1) []
  return .one ⟨items.reverse, negated, flags.ignoreCase, flags.ascii⟩

/-! ### Escapes in expressions -/

def literal (flags : Flags) (n : Nat) : Regex :=
  .one ⟨[.range n n], false, flags.ignoreCase, flags.ascii⟩

/-- A group may be referred to here. -/
def checkBehind (number : Nat) : Reader Unit := do
  let s ← get
  match s.behind with
  | some first =>
    if (s.widths.lookup number).isNone || first ≤ number then malformed
  | none => return

/-- A reference to a closed group. -/
def backReference (flags : Flags) (number : Nat) : Reader Regex := do
  if ((← get).widths.lookup number).isNone then malformed
  checkBehind number
  return .reference number flags.ignoreCase flags.ascii

/-- A number after a backslash: three octal digits are a character, anything else is a group. -/
def numberEscape (flags : Flags) (c : Char) : Reader Regex := do
  match ← peek with
  | some (.plain d) =>
    if d.isDigit then
      let _ ← advance
      let third ← peek
      match third with
      | some (.plain e) =>
        if isOctal c && isOctal d && isOctal e then
          let _ ← advance
          let n := octalValue [c, d, e]
          if n ≤ 255 then return literal flags n else malformed
        else backReference flags (10 * (c.toNat - 48) + (d.toNat - 48))
      | _ => backReference flags (10 * (c.toNat - 48) + (d.toNat - 48))
    else backReference flags (c.toNat - 48)
  | _ => backReference flags (c.toNat - 48)

def escape (flags : Flags) (c : Char) : Reader Regex := do
  let anchor (a : Anchor) : Regex := .anchor a flags.multiline flags.ascii
  match c with
  | 'A' => return anchor .textStart
  | 'Z' => return anchor .textEnd
  | 'b' => return anchor .boundary
  | 'B' => return anchor .noBoundary
  | '0' => return literal flags (octalValue (← takeChars isOctal 2))
  | _ =>
    match category? c with
    | some item => return .one ⟨[item], false, flags.ignoreCase, flags.ascii⟩
    | none =>
      match control? c with
      | some n => return literal flags n
      | none =>
        match numbered? c with
        | some read => return literal flags (← read)
        | none => if c.isDigit then numberEscape flags c else return literal flags (← itself c)

/-! ### Repetition -/

/-- The number of rounds that some digits stand for, if there are any. -/
def rounds? (digits : List Char) : Reader (Option Nat) := do
  if digits.isEmpty then return none
  if Numeral.digitLimit < digits.length then faulty (.tooManyDigits digits.length)
  let n := digits.foldl (fun n c => 10 * n + (c.toNat - 48)) 0
  if n < roundLimit then return some n else faulty .tooManyRounds

/-- The counts in braces; `none` when the brace stands for itself, and then nothing is taken. -/
def bracedCounts : Reader (Option (Nat × Option Nat)) := do
  let start ← get
  if (← peek) == some (.plain '\x7d') then return none
  let digits := takeChars Char.isDigit start.total
  let low ← digits
  let high ← if ← accept ',' then digits else pure low
  if ← accept '\x7d' then
    let least ← rounds? low
    let most ← rounds? high
    match least, most with
    | some l, some m => if m < l then malformed else return some (l, most)
    | _, _ => return some (least.getD 0, most)
  else
    set start
    return none

/-- The counts of a repetition sign; `none` when it is a brace that stands for itself. -/
def counts (sign : Char) : Reader (Option (Nat × Option Nat)) :=
  match sign with
  | '?' => return some (0, some 1)
  | '*' => return some (0, none)
  | '+' => return some (1, none)
  | _ => bracedCounts

/-- The expression may be repeated. -/
def isRepeatable : Regex → Bool
  | .anchor _ _ _ => false
  | .repeated _ _ _ _ => false
  | _ => true

/-- The sign after a repetition that changes how it chooses its count. -/
def greed : Reader Greed := do
  if ← accept '?' then return .reluctant
  else if ← accept '+' then return .possessive
  else return .greedy

/-- Repeat the latest of the parts. -/
def repetition (flags : Flags) (low : Nat) (high : Option Nat) (done : List Regex) :
    Reader (List Regex) := do
  match done with
  | [] => malformed
  | last :: before =>
    unless isRepeatable last do malformed
    if flags.template then modify fun s => { s with isRefused := true }
    return .repeated low high (← greed) last :: before

/-! ### Flags -/

def isFlag (c : Char) : Bool := "imsxatuL".toList.contains c

/-- The flags of a list of letters over others. Choosing an alphabet replaces the one before. -/
def Flags.with (f : Flags) (on off : List Char) : Flags :=
  { ignoreCase := (f.ignoreCase || on.contains 'i') && !off.contains 'i'
    multiline := (f.multiline || on.contains 'm') && !off.contains 'm'
    dotAll := (f.dotAll || on.contains 's') && !off.contains 's'
    verbose := (f.verbose || on.contains 'x') && !off.contains 'x'
    ascii := if on.contains 'u' then false else f.ascii || on.contains 'a'
    template := f.template || on.contains 't' }

/-- The letters of flags from one on: none may be unknown, and only one may choose the alphabet. -/
def flagLetters : (bound : Nat) → (done : List Char) → Glyph → Reader (List Char × Char)
  | 0, _, _ => malformed
  | bound + 1, done, .plain c =>
    if c == ')' || c == '-' || c == ':' then return (done, c)
    else if !isFlag c || c == 'L' then malformed
    else do
      let all := c :: done
      if all.contains 'a' && all.contains 'u' then malformed
      flagLetters bound all (← advance)
  | _, _, _ => malformed

/-- Letters that turn flags off, up to a colon. -/
def offLetters : (bound : Nat) → (done : List Char) → Reader (List Char)
  | 0, _ => malformed
  | bound + 1, done => do
    match ← advance with
    | .plain c =>
      if c == ':' then
        if done.isEmpty then malformed else return done
      else if "imsxt".toList.contains c then offLetters bound (c :: done)
      else malformed
    | _ => malformed

/-- The flags of a group: `none` when they are flags of the whole expression, which are noted. -/
def groupFlags (flags : Flags) (first : Glyph) : Reader (Option Flags) := do
  let bound := (← get).total + 1
  let (on, close) ← flagLetters bound [] first
  if close == ')' then
    modify fun s => { s with flags := s.flags.with on [], letters := on ++ s.letters }
    return none
  if on.contains 't' then malformed
  let off ← if close == '-' then offLetters bound [] else pure []
  if off.contains 't' || on.any off.contains then malformed
  return some (flags.with on off)

/-! ### Groups -/

/-- A name of a group. -/
def isName (cs : List Char) : Bool :=
  match cs with
  | [] => false
  | c :: rest =>
    (c == '_' || Text.isLetter c) && rest.all fun d => d == '_' || Text.isLetter d || Text.isDecimal d

/-- Read the rest of an expression up to its end, by the flags given. -/
abbrev Inner := Flags → Reader Regex

/-- The inside of a group that has been opened. -/
def closeGroup (inner : Inner) (flags : Flags) : Reader Regex := do
  let r ← inner flags
  expect ')'
  return r

/-- A group that captures. -/
def capturing (inner : Inner) (flags : Flags) (name : Option String) : Reader Regex := do
  let s ← get
  let number := s.next
  let names ← match name with
    | some n => if (s.names.lookup n).isSome then malformed else pure ((n, number) :: s.names)
    | none => pure s.names
  set { s with next := number + 1, names }
  let r ← closeGroup inner flags
  modify fun t => { t with widths := (number, r.width t.widths) :: t.widths }
  return .group (some number) r

/-- A look around. -/
def lookAround (inner : Inner) (flags : Flags) (behind negated : Bool) : Reader Regex := do
  let before := (← get).behind
  if behind then modify fun s => { s with behind := some (s.behind.getD s.next) }
  let r ← inner flags
  if behind then modify fun s => { s with behind := before }
  expect ')'
  if behind then
    let w := r.width (← get).widths
    unless w.high = some w.low ∧ w.low ≤ behindLimit do
      modify fun s => { s with isRefused := true }
    return .look (some w.low) negated r
  else return .look none negated r

/-- The group that a condition asks about. -/
def askedGroup (text : List Char) : Reader Nat := do
  let s ← get
  if isName text then
    match s.names.lookup (String.ofList text) with
    | some n => return n
    | none => malformed
  else
    match Numeral.readInt? (String.ofList text) with
    | some n =>
      if n ≤ 0 ∨ groupLimit ≤ n then malformed
      set { s with asked := n.toNat :: s.asked }
      return n.toNat
    | none => malformed

/-- A condition on a group, with one or two branches. -/
def condition (branch : Inner) (flags : Flags) : Reader Regex := do
  let number ← askedGroup (← takeUntil ')')
  checkBehind number
  let yes ← branch flags
  let no ← if ← accept '|' then branch flags else pure (.sequence [])
  expect ')'
  return .conditional number yes no

/-- A group by name, or a reference to one. -/
def namedGroup (inner : Inner) (flags : Flags) : Reader Regex := do
  if ← accept '<' then
    let name ← takeUntil '>'
    if isName name then capturing inner flags (some (String.ofList name)) else malformed
  else
    expect '='
    let name ← takeUntil ')'
    if !isName name then malformed
    match (← get).names.lookup (String.ofList name) with
    | some n => backReference flags n
    | none => malformed

/-- A comment up to its closing parenthesis. -/
def comment : Reader Unit := do
  let s ← get
  match s.rest.dropWhile (· != .plain ')') with
  | _ :: rest => moveTo rest
  | [] => malformed

/-- What an opening parenthesis and a question mark start: an expression, or nothing. `early` says
that flags of the whole expression may still come. -/
def extension (inner branch : Inner) (flags : Flags) (early : Bool) : Reader (Option Regex) := do
  match ← advance with
  | .plain 'P' => return some (← namedGroup inner flags)
  | .plain ':' => return some (.group none (← closeGroup inner flags))
  | .plain '#' => comment; return none
  | .plain '=' => return some (← lookAround inner flags false false)
  | .plain '!' => return some (← lookAround inner flags false true)
  | .plain '<' =>
    match ← advance with
    | .plain '=' => return some (← lookAround inner flags true false)
    | .plain '!' => return some (← lookAround inner flags true true)
    | _ => malformed
  | .plain '(' => return some (← condition branch flags)
  | .plain '>' => return some (.atomic (← closeGroup inner flags))
  | .plain c =>
    if !isFlag c && c != '-' then malformed
    match ← groupFlags flags (.plain c) with
    | some changed => return some (.group none (← closeGroup inner changed))
    | none => if early then return none else malformed
  | _ => malformed

/-! ### Sequences and choices -/

/-- Skip a comment of a verbose expression. -/
def skipLine : Reader Unit := do
  match (← get).rest.dropWhile fun u => u != .plain '\n' && u != .stray with
  | .stray :: _ => malformed
  | rest => moveTo (rest.drop 1)

def isVerboseBlank (c : Char) : Bool := c == ' ' || (9 ≤ c.toNat && c.toNat ≤ 13)

/-- One part of a sequence; `done` holds the parts before, the latest first. -/
def part (inner branch : Inner) (given : Option Flags) (early : Bool) (done : List Regex) :
    Reader (Option (List Regex)) := do
  let flags := given.getD (← get).flags
  match ← peek with
  | none => return none
  | some (.plain '|') => return none
  | some (.plain ')') => return none
  | some .stray => malformed
  | some (.escaped c) =>
    let _ ← advance
    return some ((← escape flags c) :: done)
  | some (.plain c) =>
    let _ ← advance
    let anchor (a : Anchor) : Regex := .anchor a flags.multiline flags.ascii
    if flags.verbose && isVerboseBlank c then return some done
    else if flags.verbose && c == '#' then
      skipLine
      return some done
    else match c with
      | '[' => return some ((← charSet flags) :: done)
      | '.' => return some (.any flags.dotAll :: done)
      | '^' => return some (anchor .lineStart :: done)
      | '$' => return some (anchor .lineEnd :: done)
      | '(' =>
        if ← accept '?' then
          match ← extension inner branch flags (early && done.isEmpty) with
          | some r => return some (r :: done)
          | none => return some done
        else return some ((← capturing inner flags none) :: done)
      | _ =>
        if "*+?\x7b".toList.contains c then
          match ← counts c with
          | some (low, high) => return some (← repetition flags low high done)
          | none => return some (literal flags c.toNat :: done)
        else return some (literal flags c.toNat :: done)

/-- Parts up to the end of a branch. Without flags given, those of the whole expression count. -/
def branchOf (inner branch : Inner) (given : Option Flags) (early : Bool) : Reader Regex := do
  let parts ← repeatOnto (part inner branch given early) ((← get).total + 1) []
  return .sequence parts.reverse

/-- Further branches after bars. -/
def moreBranches (branch : Reader Regex) (done : List Regex) : Reader (Option (List Regex)) := do
  if ← accept '|' then return some ((← branch) :: done) else return none

/-- Branches with bars between them. -/
def choiceOf (first later : Reader Regex) : Reader Regex := do
  let one ← first
  let all ← repeatOnto (moreBranches later) ((← get).total + 1) [one]
  match all with
  | [only] => return only
  | _ => return .choice all.reverse

/-- An expression that nests at most this deep: its branches, or one branch only. -/
def nested : (depth : Nat) → Inner × Inner
  | 0 => (fun _ => malformed, fun _ => malformed)
  | depth + 1 =>
    let inner : Inner := fun flags => (nested depth).1 flags
    let single : Inner := fun flags => (nested depth).2 flags
    (fun flags =>
      let branch := branchOf inner single (some flags) false
      choiceOf branch branch,
     fun flags => branchOf inner single (some flags) false)

/-- A whole expression. -/
def whole : Reader Regex := do
  let rules := nested ((← get).total + 1)
  let r ← choiceOf (branchOf rules.1 rules.2 none true) (branchOf rules.1 rules.2 none false)
  let s ← get
  if s.letters.contains 'a' && s.letters.contains 'u' then faulty .twoAlphabets
  if s.rest.isEmpty && s.asked.all (· < s.next) && !s.isRefused then return r else malformed

/-- The expression that a text denotes. -/
def parse (text : String) : Except Refusal Regex := do
  let us := glyphs text.toList
  let start : Reader Regex := do
    moveTo us
    whole
  start.run' { rest := us }

def parse? (text : String) : Option Regex := (parse text).toOption

end Regex

end RouteAudit
