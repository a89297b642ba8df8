import RouteAudit.Go.Token
import RouteAudit.Text.Digit
import RouteAudit.Text.Letter
import RouteAudit.Text.Utf8

/-! # Reading tokens

`lex` splits the characters of a source text into lexemes. The functions that measure a token
(`wordLength`, `numberLength?`, `stringLength?`, …) say how many characters it takes from the start
of what is left; `scan?` chooses among them. Bytes that are no UTF-8 may stand in literals and
comments only. -/

namespace RouteAudit.Go

open Text (Rune)

/-! ### Words -/

def isWordStart (c : Char) : Bool := c == '_' || Text.isLetter c

def isWordPart (c : Char) : Bool := isWordStart c || Text.isDecimal c

/-- The number of leading characters that satisfy a predicate. -/
def runLength (p : Char → Bool) (cs : List Char) : Nat := (cs.takeWhile p).length

/-! ### Numbers -/

def isHexDigit (c : Char) : Bool :=
  c.isDigit || ('a' ≤ c && c ≤ 'f') || ('A' ≤ c && c ≤ 'F')

/-- Radix marks of number literals. -/
inductive Radix where
  | decimal
  | leadingZero
  | binary
  | octal
  | hexadecimal
deriving DecidableEq, Repr

namespace Radix

/-- The radix that a number starts with, and the length of its mark. -/
def ofStart : List Char → Radix × Nat
  | '0' :: 'x' :: _ => (hexadecimal, 2)
  | '0' :: 'X' :: _ => (hexadecimal, 2)
  | '0' :: 'o' :: _ => (octal, 2)
  | '0' :: 'O' :: _ => (octal, 2)
  | '0' :: 'b' :: _ => (binary, 2)
  | '0' :: 'B' :: _ => (binary, 2)
  | '0' :: _ => (leadingZero, 1)
  | _ => (decimal, 0)

/-- Characters of the digit runs; whether a digit is too large is looked at afterwards. -/
def admits (r : Radix) (c : Char) : Bool :=
  c == '_' || if r = hexadecimal then isHexDigit c else c.isDigit

/-- The digits that an integer of the radix may have. -/
def isDigit (r : Radix) (c : Char) : Bool :=
  match r with
  | decimal => c.isDigit
  | leadingZero => '0' ≤ c && c ≤ '7'
  | octal => '0' ≤ c && c ≤ '7'
  | binary => c == '0' || c == '1'
  | hexadecimal => isHexDigit c

end Radix

/-- The length of an exponent that starts here; `none` when its digits are missing. -/
def exponentLength? (cs : List Char) : Option Nat :=
  let sign := match cs with
    | _ :: '+' :: _ => 1
    | _ :: '-' :: _ => 1
    | _ => 0
  let digits := (cs.drop (1 + sign)).takeWhile fun c => c == '_' || c.isDigit
  if digits.any Char.isDigit then some (1 + sign + digits.length) else none

/-- An underscore stands between digits only; the mark of a radix counts as a digit before it. -/
def separatorsOk (isPart : Char → Bool) : (afterDigit : Bool) → List Char → Bool
  | _, [] => true
  | afterDigit, '_' :: rest =>
    afterDigit && (match rest with
      | c :: _ => isPart c
      | [] => false) && separatorsOk isPart false rest
  | _, c :: rest => separatorsOk isPart (isPart c) rest

/-- The length of a number literal; `none` when it is malformed. -/
def numberLength? (cs : List Char) : Option Nat :=
  let radix := Radix.ofStart cs
  let r := radix.1
  let whole := (cs.drop radix.2).takeWhile r.admits
  let afterWhole := cs.drop (radix.2 + whole.length)
  let point := match afterWhole with
    | '.' :: _ => 1
    | _ => 0
  let fraction := if point = 1 then (afterWhole.drop 1).takeWhile r.admits else []
  let mantissa := radix.2 + whole.length + point + fraction.length
  let afterMantissa := cs.drop mantissa
  let hasDigits := r == .leadingZero || (whole ++ fraction).any (· != '_')
  let exponent? : Option Nat := match afterMantissa with
    | c :: _ =>
      if c == 'e' || c == 'E' then
        if r == .decimal || r == .leadingZero then exponentLength? afterMantissa else none
      else if c == 'p' || c == 'P' then
        if r == .hexadecimal then exponentLength? afterMantissa else none
      else some 0
    | [] => some 0
  match exponent? with
  | none => none
  | some exponent =>
    let imaginary := match cs.drop (mantissa + exponent) with
      | 'i' :: _ => 1
      | _ => 0
    let length := mantissa + exponent + imaginary
    let isFloat := point == 1 || exponent != 0
    let isInteger := !isFloat && imaginary == 0
    let marked := r == .hexadecimal || r == .octal || r == .binary
    let separated := separatorsOk (fun c => c.isDigit || (r == .hexadecimal && isHexDigit c))
      marked ((cs.take length).drop (if marked then 2 else 0))
    if !hasDigits then none
    else if point == 1 && (r == .octal || r == .binary) then none
    else if r == .hexadecimal && point == 1 && exponent == 0 then none
    else if isInteger && !(whole.all fun c => c == '_' || r.isDigit c) then none
    else if marked && imaginary == 1 && !(whole.all fun c => c == '_' || r.isDigit c) then none
    else if !separated then none
    else some length

/-! ### Literals in quotes -/

/-- The length of an escape after its backslash; `none` when it is cut short. -/
def escapeLength? (cs : List Char) : Option Nat :=
  let hex (n : Nat) : Option Nat :=
    if n ≤ runLength isHexDigit (cs.drop 1) then some (1 + n) else none
  match cs with
  | [] => none
  | 'x' :: _ => hex 2
  | 'u' :: _ => hex 4
  | 'U' :: _ => hex 8
  | '\n' :: _ => none
  | _ => some 1

/-- The length of an interpreted string after its opening quote, the closing one included. `skip`
characters belong to an escape. -/
def stringLength? (count : Nat) : (skip : Nat) → List Char → Option Nat
  | _, [] => none
  | skip + 1, _ :: rest => stringLength? (count + 1) skip rest
  | 0, '"' :: _ => some (count + 1)
  | 0, '\n' :: _ => none
  | 0, '\\' :: rest =>
    match escapeLength? rest with
    | some n => stringLength? (count + 1) n rest
    | none => none
  | 0, _ :: rest => stringLength? (count + 1) 0 rest

/-- The length of a raw string after its opening quote, the closing one included. -/
def rawLength? (count : Nat) : List Char → Option Nat
  | [] => none
  | c :: rest => if c.toNat = 96 then some (count + 1) else rawLength? (count + 1) rest

/-- The length of a rune literal after its opening quote, the closing one included. -/
def runeLength? (cs : List Char) : Option Nat :=
  let closed (n : Nat) : Option Nat :=
    match cs.drop n with
    | c :: _ => if c.toNat = 39 then some (n + 1) else none
    | [] => none
  match cs with
  | [] => none
  | '\n' :: _ => none
  | '\\' :: c :: rest =>
    if ("abfnrtv\\\"".toList).contains c || c.toNat = 39 then closed 2
    else if '0' ≤ c && c ≤ '7' then
      if 2 ≤ runLength (fun d => '0' ≤ d && d ≤ '7') rest then closed 4 else none
    else if c == 'x' || c == 'u' || c == 'U' then
      match escapeLength? (c :: rest) with
      | some n => closed (n + 1)
      | none => none
    else none
  | c :: _ => if c.toNat = 39 then none else closed 1

/-! ### Symbols -/

/-- Symbols by length, the longest first. -/
def symbols : List (List String) :=
  [["<<=", ">>=", "&^=", "..."],
   ["<<", ">>", "&^", "+=", "-=", "*=", "/=", "%=", "&=", "|=", "^=", "&&", "||", "<-", "++", "--",
    "==", "!=", "<=", ">=", ":="],
   ["+", "-", "*", "/", "%", "&", "|", "^", "<", ">", "=", "!", "(", "[", "\x7b", ",", ".", ")", "]",
    "\x7d", ";", ":", "~"]]

/-- The longest symbol at the start. -/
def symbol? (cs : List Char) : Option String :=
  symbols.flatten.find? fun s => s.toList.isPrefixOf cs

/-! ### One token -/

/-- The length of a block comment after its opening mark, the closing one included. -/
def commentLength? (count : Nat) : List Char → Option Nat
  | [] => none
  | '*' :: '/' :: _ => some (count + 2)
  | _ :: rest => commentLength? (count + 1) rest

/-- What stands at the start of a text. -/
inductive Scan where
  | blank
  | comment (length : Nat)
  | token (make : String → Token) (length : Nat)

/-- The blank, comment or token at the start; `none` when nothing of the kind starts here. -/
def scan? (cs : List Char) : Option Scan :=
  match cs with
  | [] => none
  | '/' :: '/' :: rest => some (.comment (2 + runLength (· != '\n') rest))
  | '/' :: '*' :: rest => (commentLength? 2 rest).map .comment
  | '"' :: rest => (stringLength? 1 0 rest).map (.token .interpreted)
  | c :: rest =>
    if c == ' ' || c == '\t' || c == '\n' || c == '\r' then some .blank
    else if isWordStart c then some (.token .ofWord (1 + runLength isWordPart rest))
    else if c.isDigit || (c == '.' && (rest.head?.map Char.isDigit).getD false) then
      (numberLength? cs).map (.token .number)
    else if c.toNat = 96 then (rawLength? 1 rest).map (.token .raw)
    else if c.toNat = 39 then (runeLength? rest).map fun n => .token .rune (n + 1)
    else (symbol? cs).map fun s => .token .symbol s.length

/-! ### Whole texts -/

/-- Where the lexer stands: the place of the next character, and whether a line that ends here ends
a statement. -/
structure Cursor where
  offset : Nat := 0
  row : Nat := 0
  pending : Bool := false
deriving Repr

/-- The cursor after some characters. -/
def Cursor.advance (c : Cursor) (rs : List Rune) : Cursor :=
  { c with
    offset := rs.foldl (fun n r => n + r.width) c.offset
    row := rs.foldl (fun n r => if r.char == '\n' then n + 1 else n) c.row }

/-- The end of a statement at the cursor. -/
def Cursor.lineEnd (c : Cursor) : Lexeme := ⟨.lineEnd, ⟨c.offset, c.offset⟩, c.row⟩

/-- The lexemes before those already read, the latest first; the row of the place where no token
starts otherwise. -/
def lexOnto (done : List Lexeme) (c : Cursor) (cs : List Char) (rs : List Rune) :
    Except Nat (List Lexeme) :=
  match cs with
  | [] => .ok (if c.pending then c.lineEnd :: done else done)
  | ch :: rest =>
    match scan? (ch :: rest) with
    | none => .error c.row
    | some .blank =>
      let next := c.advance (rs.take 1)
      if ch == '\n' && c.pending then
        lexOnto (c.lineEnd :: done) { next with pending := false } rest (rs.drop 1)
      else lexOnto done next rest (rs.drop 1)
    | some (.comment n) =>
      let next := c.advance (rs.take n)
      if c.pending && next.row != c.row then
        lexOnto (c.lineEnd :: done) { next with pending := false } (rest.drop (n - 1)) (rs.drop n)
      else lexOnto done next (rest.drop (n - 1)) (rs.drop n)
    | some (.token make n) =>
      let next := c.advance (rs.take n)
      let token := make (String.ofList ((ch :: rest).take n))
      lexOnto (⟨token, ⟨c.offset, next.offset⟩, c.row⟩ :: done)
        { next with pending := token.endsStatement } (rest.drop (n - 1)) (rs.drop n)
termination_by cs.length
decreasing_by all_goals simp; try omega

/-- The byte order mark, which may stand at the start. -/
def byteOrderMark : Char := Char.ofNat 0xFEFF

/-- The lexemes of a source text. -/
def lex (bytes : List UInt8) : Except Nat (List Lexeme) :=
  let rs := Text.runes bytes
  let read := match rs with
    | r :: rest =>
      if r.char = byteOrderMark then
        lexOnto [] { offset := r.width } (rest.map Rune.char) rest
      else lexOnto [] {} (rs.map Rune.char) rs
    | [] => .ok []
  read.map List.reverse

end RouteAudit.Go
