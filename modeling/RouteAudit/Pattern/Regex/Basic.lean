import RouteAudit.Text.Case
import RouteAudit.Text.Digit
import RouteAudit.Text.Letter
import RouteAudit.Text.Blank

/-! # Regular expressions

The syntax of regular expressions as backtracking matchers have it: groups, back references,
look-around, atomic groups and three kinds of repetition. `CharSet.holds` decides whether a
character is in a set, with letter case ignored where the set asks for it. -/

namespace RouteAudit

namespace Regex

/-! ### Flags -/

/-- How the parts of an expression are read. -/
structure Flags where
  ignoreCase : Bool := false
  multiline : Bool := false
  dotAll : Bool := false
  verbose : Bool := false
  /-- Classes and letter case are those of ASCII. -/
  ascii : Bool := false
  /-- Repetition is refused. -/
  template : Bool := false
deriving DecidableEq, Repr

/-! ### Letter case -/

/-- Lower-case letters that share their upper case with others in lower case. -/
def sharedCase : List (Nat × List Nat) :=
  [(0x0069, [0x0131]), (0x0073, [0x017F]), (0x00B5, [0x03BC]), (0x0131, [0x0069]),
   (0x017F, [0x0073]), (0x0345, [0x03B9, 0x1FBE]), (0x0390, [0x1FD3]), (0x03B0, [0x1FE3]),
   (0x03B2, [0x03D0]), (0x03B5, [0x03F5]), (0x03B8, [0x03D1]), (0x03B9, [0x0345, 0x1FBE]),
   (0x03BA, [0x03F0]), (0x03BC, [0x00B5]), (0x03C0, [0x03D6]), (0x03C1, [0x03F1]),
   (0x03C2, [0x03C3]), (0x03C3, [0x03C2]), (0x03C6, [0x03D5]), (0x03D0, [0x03B2]),
   (0x03D1, [0x03B8]), (0x03D5, [0x03C6]), (0x03D6, [0x03C0]), (0x03F0, [0x03BA]),
   (0x03F1, [0x03C1]), (0x03F5, [0x03B5]), (0x0432, [0x1C80]), (0x0434, [0x1C81]),
   (0x043E, [0x1C82]), (0x0441, [0x1C83]), (0x0442, [0x1C84, 0x1C85]), (0x044A, [0x1C86]),
   (0x0463, [0x1C87]), (0x1C80, [0x0432]), (0x1C81, [0x0434]), (0x1C82, [0x043E]),
   (0x1C83, [0x0441]), (0x1C84, [0x0442, 0x1C85]), (0x1C85, [0x0442, 0x1C84]), (0x1C86, [0x044A]),
   (0x1C87, [0x0463]), (0x1C88, [0xA64B]), (0x1E61, [0x1E9B]), (0x1E9B, [0x1E61]),
   (0x1FBE, [0x0345, 0x03B9]), (0x1FD3, [0x0390]), (0x1FE3, [0x03B0]), (0xA64B, [0x1C88]),
   (0xFB05, [0xFB06]), (0xFB06, [0xFB05])]

/-- The first character of a letter's lower case. -/
def lowerCode (ascii : Bool) (n : Nat) : Nat :=
  if ascii then
    if 65 ≤ n ∧ n ≤ 90 then n + 32 else n
  else match Text.lowerChar (Char.ofNat n) with
    | c :: _ => if n.isValidChar then c.toNat else n
    | [] => n

/-- The first character of a letter's upper case. -/
def upperCode (ascii : Bool) (n : Nat) : Nat :=
  if ascii then
    if 97 ≤ n ∧ n ≤ 122 then n - 32 else n
  else match Text.upperChar (Char.ofNat n) with
    | c :: _ => if n.isValidChar then c.toNat else n
    | [] => n

/-- The character differs from its lower or upper case. -/
def isCased (ascii : Bool) (n : Nat) : Bool := lowerCode ascii n != n || upperCode ascii n != n

/-- Two lower-case characters count as the same letter. -/
def sameLetter (ascii : Bool) (pattern text : Nat) : Bool :=
  text == pattern || (!ascii && ((sharedCase.lookup pattern).getD []).contains text)

/-! ### Sets of characters -/

/-- Classes with a name. -/
inductive Category where
  | digit
  | blank
  | word
deriving DecidableEq, Repr

/-- The class of letters, digits and the underscore. -/
def isWord (ascii : Bool) (c : Char) : Bool :=
  c == '_' || if ascii then c.isAlphanum
    else Text.isLetter c || Text.isDecimal c || Text.isOtherNumeric c

def Category.holds (ascii : Bool) (c : Char) : Category → Bool
  | digit => if ascii then c.isDigit else Text.isDecimal c
  | blank =>
    if ascii then c == ' ' || (9 ≤ c.toNat && c.toNat ≤ 13) else Text.isBlank c
  | word => isWord ascii c

/-- A member of a set; characters are given by their numbers. -/
inductive SetItem where
  | range (low high : Nat)
  | category (k : Category) (negated : Bool)
deriving DecidableEq, Repr

/-- A set of characters. -/
structure CharSet where
  items : List SetItem
  negated : Bool := false
  ignoreCase : Bool := false
  ascii : Bool := false
deriving DecidableEq, Repr

/-- The numbers from one to another. -/
def codes (low high : Nat) : List Nat := (List.range (high + 1 - low)).map (low + ·)

namespace CharSet

/-- Letter case is to be ignored and some member has one. -/
def isCaseless (s : CharSet) : Bool :=
  s.ignoreCase && s.items.any fun item =>
    match item with
    | .range low high => (codes low high).any (isCased s.ascii)
    | .category _ _ => false

/-- The number of a character is in a range, or that of the same letter is. -/
def inRange (s : CharSet) (caseless : Bool) (low high n : Nat) : Bool :=
  if caseless then (codes low high).any fun m => sameLetter s.ascii (lowerCode s.ascii m) n
  else low ≤ n && n ≤ high

def holds (s : CharSet) (c : Char) : Bool :=
  let caseless := s.isCaseless
  let n := if caseless then lowerCode s.ascii c.toNat else c.toNat
  let found := s.items.any fun item =>
    match item with
    | .range low high => s.inRange caseless low high n
    | .category k negated => k.holds s.ascii (Char.ofNat n) != negated
  found != s.negated

end CharSet

/-! ### Expressions -/

/-- Places in a text. -/
inductive Anchor where
  | lineStart
  | lineEnd
  | textStart
  | textEnd
  | boundary
  | noBoundary
deriving DecidableEq, Repr

/-- How a repetition chooses its count. -/
inductive Greed where
  | greedy
  | reluctant
  | possessive
deriving DecidableEq, Repr

end Regex

/-- A regular expression; flags have been worked into its parts. -/
inductive Regex where
  | sequence (parts : List Regex)
  | choice (branches : List Regex)
  | one (set : Regex.CharSet)
  | any (dotAll : Bool)
  | anchor (a : Regex.Anchor) (multiline ascii : Bool)
  | group (number : Option Nat) (inner : Regex)
  | repeated (low : Nat) (high : Option Nat) (greed : Regex.Greed) (inner : Regex)
  /-- Look ahead, or behind by a number of characters. -/
  | look (behind : Option Nat) (negated : Bool) (inner : Regex)
  | atomic (inner : Regex)
  | reference (number : Nat) (ignoreCase ascii : Bool)
  | conditional (number : Nat) (yes no : Regex)
deriving Repr

namespace Regex

/-! ### Widths -/

/-- Least and greatest number of characters; `none` stands for no bound. -/
structure Width where
  low : Nat
  high : Option Nat
deriving DecidableEq, Repr

namespace Width

def zero : Width := ⟨0, some 0⟩

def add (v w : Width) : Width :=
  ⟨v.low + w.low, match v.high, w.high with
    | some a, some b => some (a + b)
    | _, _ => none⟩

def either (v w : Width) : Width :=
  ⟨min v.low w.low, match v.high, w.high with
    | some a, some b => some (max a b)
    | _, _ => none⟩

def times (w : Width) (low : Nat) (high : Option Nat) : Width :=
  ⟨w.low * low, match w.high, high with
    | some 0, _ => some 0
    | some a, some b => some (a * b)
    | _, _ => none⟩

end Width

mutual

/-- The width of an expression, given those of the groups it refers to. -/
def width (groups : List (Nat × Width)) : Regex → Width
  | sequence parts => sumWidth groups parts
  | choice branches => branchWidth groups branches
  | one _ => ⟨1, some 1⟩
  | any _ => ⟨1, some 1⟩
  | anchor _ _ _ => .zero
  | group _ inner => width groups inner
  | repeated low high _ inner => (width groups inner).times low high
  | look _ _ _ => .zero
  | atomic inner => width groups inner
  | reference n _ _ => (groups.lookup n).getD .zero
  | conditional _ yes no => (width groups yes).either (width groups no)

def sumWidth (groups : List (Nat × Width)) : List Regex → Width
  | [] => .zero
  | r :: rest => (width groups r).add (sumWidth groups rest)

def branchWidth (groups : List (Nat × Width)) : List Regex → Width
  | [] => .zero
  | [r] => width groups r
  | r :: rest => (width groups r).either (branchWidth groups rest)

end

end Regex

end RouteAudit
