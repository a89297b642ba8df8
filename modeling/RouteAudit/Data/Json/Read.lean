import RouteAudit.Data.Value
import RouteAudit.Number.Numeral
import RouteAudit.Text.CodeUnit

/-! # Reading JSON

`Json.read?` reads one JSON value that makes up the whole text. Beside the standard it knows the
words `NaN`, `Infinity` and `-Infinity`; a number with a fraction or an exponent is a `float`, any
other an `int`; a repeated key takes its last value. `readString?` reads a string literal, whose
escapes are those of JSON and which holds no raw control character. -/

namespace RouteAudit.Json

/-! ### String literals -/

/-- The value of a hexadecimal digit. -/
def hexValue? (c : Char) : Option Nat :=
  let n := c.toNat
  if 0x30 ≤ n ∧ n ≤ 0x39 then some (n - 0x30)
  else if 0x41 ≤ n ∧ n ≤ 0x46 then some (n - 0x41 + 10)
  else if 0x61 ≤ n ∧ n ≤ 0x66 then some (n - 0x61 + 10)
  else none

/-- Four hexadecimal digits. -/
def hex4? : List Char → Option (Nat × List Char)
  | a :: b :: c :: d :: rest => do
    let a ← hexValue? a
    let b ← hexValue? b
    let c ← hexValue? c
    let d ← hexValue? d
    some (((a * 16 + b) * 16 + c) * 16 + d, rest)
  | _ => none

/-- The character that a backslash and one letter stand for. -/
def shortEscape? : Char → Option Char
  | '"' => some '"'
  | '\\' => some '\\'
  | '/' => some '/'
  | 'b' => some (Char.ofNat 8)
  | 'f' => some (Char.ofNat 12)
  | 'n' => some '\n'
  | 'r' => some '\r'
  | 't' => some '\t'
  | _ => none

/-- The rest of a code unit escape: its character, with the second half of a pair when it
follows. -/
def unitEscape? (rest : List Char) : Option (Char × List Char) :=
  match hex4? rest with
  | none => none
  | some (n, rest) =>
    match rest with
    | '\\' :: 'u' :: more =>
      match hex4? more with
      | some (m, rest') =>
        match Text.pairChar? n m with
        | some c => some (c, rest')
        | none => some (Text.unitChar n, rest)
      | none => some (Text.unitChar n, rest)
    | _ => some (Text.unitChar n, rest)

/-- The text after a backslash: the character it stands for and the rest. -/
def escape? : List Char → Option (Char × List Char)
  | 'u' :: rest => unitEscape? rest
  | c :: rest => (shortEscape? c).map (·, rest)
  | [] => none

/-- The inside of a string literal up to its closing quote; `done` holds what was read, the latest
first, and `fuel` bounds the characters. -/
def stringBody? : (fuel : Nat) → (done : List Char) → List Char → Option (List Char × List Char)
  | 0, _, _ => none
  | _ + 1, _, [] => none
  | fuel + 1, done, c :: rest =>
    if c = '"' then some (done.reverse, rest)
    else if c = '\\' then
      match escape? rest with
      | some (d, rest) => stringBody? fuel (d :: done) rest
      | none => none
    else if c.toNat < 0x20 then none
    else stringBody? fuel (c :: done) rest

/-- White space of JSON. -/
def isSpace (c : Char) : Bool := c == ' ' || c == '\t' || c == '\n' || c == '\r'

/-- The text that makes up one string literal, with white space around it. -/
def readString? (s : List Char) : Option (List Char) :=
  match s.dropWhile isSpace with
  | '"' :: rest =>
    match stringBody? (rest.length + 1) [] rest with
    | some (value, after) => if (after.dropWhile isSpace).isEmpty then some value else none
    | none => none
  | _ => none

/-! ### Numbers -/

/-- The number that digits spell. -/
def digitsValue (ds : List Char) : Nat := ds.foldl (fun n c => n * 10 + (c.toNat - 0x30)) 0

/-- An integer part: zero alone, or digits that start with another. -/
def wholePart? : List Char → Option (List Char × List Char)
  | '0' :: rest => some (['0'], rest)
  | c :: rest =>
    if c.isDigit then
      some (c :: rest.takeWhile Char.isDigit, rest.dropWhile Char.isDigit)
    else none
  | [] => none

/-- A point with digits after it; nothing when there is none. -/
def fractionPart : List Char → List Char × List Char
  | '.' :: rest =>
    match rest.takeWhile Char.isDigit with
    | [] => ([], '.' :: rest)
    | ds => (ds, rest.dropWhile Char.isDigit)
  | s => ([], s)

/-- An exponent with at least one digit; nothing when there is none. -/
def exponentPart (s : List Char) : Option Int × List Char :=
  match s with
  | c :: rest =>
    if c = 'e' ∨ c = 'E' then
      let signed := Numeral.readSign rest
      match signed.2.takeWhile Char.isDigit with
      | [] => (none, s)
      | ds =>
        let n : Int := digitsValue ds
        (some (if signed.1 then -n else n), signed.2.dropWhile Char.isDigit)
    else (none, s)
  | [] => (none, s)

/-- A number after its sign. -/
def unsigned? (negative : Bool) (s : List Char) : Option (Value × List Char) :=
  match wholePart? s with
  | none => none
  | some (whole, rest) =>
    let fraction := fractionPart rest
    let exponent := exponentPart fraction.2
    match fraction.1, exponent.1 with
    | [], none =>
      let n : Int := digitsValue whole
      some (.int (if negative then -n else n), exponent.2)
    | ds, e =>
      some (.float (Binary64.ofDecimal negative (digitsValue (whole ++ ds))
        (e.getD 0 - ds.length)), exponent.2)

/-- The text after a word, when the text starts with it. -/
def word? (word : String) (s : List Char) : Option (List Char) :=
  if word.toList.isPrefixOf s then some (s.drop word.length) else none

/-! ### Values -/

/-- Scalars other than strings. -/
def scalar? (s : List Char) : Option (Value × List Char) :=
  match s with
  | [] => none
  | 'n' :: _ => (word? "null" s).map (.null, ·)
  | 't' :: _ => (word? "true" s).map (.bool true, ·)
  | 'f' :: _ => (word? "false" s).map (.bool false, ·)
  | 'N' :: _ => (word? "NaN" s).map (.float .nan, ·)
  | 'I' :: _ => (word? "Infinity" s).map (.float (.infinite false), ·)
  | '-' :: rest =>
    match rest with
    | 'I' :: _ => (word? "Infinity" rest).map (.float (.infinite true), ·)
    | _ => unsigned? true rest
  | _ => unsigned? false s

mutual

/-- One value; `fuel` bounds the characters read. -/
def value? : (fuel : Nat) → List Char → Option (Value × List Char)
  | 0, _ => none
  | fuel + 1, s =>
    match s with
    | '"' :: rest =>
      (stringBody? (rest.length + 1) [] rest).map fun r => (.text (String.ofList r.1), r.2)
    | '[' :: rest =>
      match rest.dropWhile isSpace with
      | ']' :: after => some (.list [], after)
      | rest => (items? fuel [] rest).map fun r => (.list r.1, r.2)
    | '\x7b' :: rest =>
      match rest.dropWhile isSpace with
      | '\x7d' :: after => some (.map [], after)
      | rest => (members? fuel [] rest).map fun r => (.map (Value.entriesOf r.1), r.2)
    | _ => scalar? s

/-- The values of a list up to its closing bracket; `done` holds those read, the latest first. -/
def items? : (fuel : Nat) → (done : List Value) → List Char → Option (List Value × List Char)
  | 0, _, _ => none
  | fuel + 1, done, s =>
    match value? fuel s with
    | none => none
    | some (v, rest) =>
      match rest.dropWhile isSpace with
      | ',' :: more => items? fuel (v :: done) (more.dropWhile isSpace)
      | ']' :: after => some ((v :: done).reverse, after)
      | _ => none

/-- The members of an object up to its closing brace. -/
def members? : (fuel : Nat) → (done : List (Value × Value)) → List Char →
    Option (List (Value × Value) × List Char)
  | 0, _, _ => none
  | fuel + 1, done, s =>
    match s with
    | '"' :: rest =>
      match stringBody? (rest.length + 1) [] rest with
      | none => none
      | some (key, rest) =>
        match rest.dropWhile isSpace with
        | ':' :: more =>
          match value? fuel (more.dropWhile isSpace) with
          | none => none
          | some (v, rest) =>
            let done := (.text (String.ofList key), v) :: done
            match rest.dropWhile isSpace with
            | ',' :: more => members? fuel done (more.dropWhile isSpace)
            | '\x7d' :: after => some (done.reverse, after)
            | _ => none
        | _ => none
    | _ => none

end

/-- The value that a whole text denotes. -/
def read? (s : String) : Option Value :=
  match value? (s.length + 1) (s.toList.dropWhile isSpace) with
  | some (v, rest) => if (rest.dropWhile isSpace).isEmpty then some v else none
  | none => none

end RouteAudit.Json
