import RouteAudit.Number.Binary64
import RouteAudit.Number.Shortest
import RouteAudit.Text.Blank
import RouteAudit.Text.Case
import RouteAudit.Text.Digit
import RouteAudit.Text.Basic

/-! # Reading numerals

`readInt?` reads a decimal integer and `readFloat?` a decimal or scientific number. White space
around the numeral, digits of any script, and single underscores between digits are allowed. -/

namespace RouteAudit.Numeral

/-- The numeral with white space trimmed and every decimal digit in ASCII. -/
def normalise (s : String) : List Char :=
  (Text.trim Text.isBlank s).toList.map fun c =>
    match Text.digitValue? c with
    | some d => Char.ofNat (0x30 + d)
    | none => c

/-- A digit of ASCII as a number. -/
def asciiDigit? (c : Char) : Option Nat := if c.isDigit then some (c.toNat - 0x30) else none

/-- Digits with single underscores between them: their number's value so far, how many digits were
read, and the rest. `after` tells whether a digit was just read. -/
def readDigits (after : Bool) (value count : Nat) : List Char → Nat × Nat × List Char
  | [] => (value, count, [])
  | c :: rest =>
    match asciiDigit? c with
    | some d => readDigits true (value * 10 + d) (count + 1) rest
    | none =>
      if c = '_' ∧ after then
        match rest with
        | d :: more =>
          match asciiDigit? d with
          | some v => readDigits true (value * 10 + v) (count + 1) more
          | none => (value, count, c :: rest)
        | [] => (value, count, c :: rest)
      else (value, count, c :: rest)

/-- An optional sign; `true` for minus. -/
def readSign : List Char → Bool × List Char
  | '-' :: rest => (true, rest)
  | '+' :: rest => (false, rest)
  | s => (false, s)

/-- The integer a text spells. -/
def readInt? (s : String) : Option Int :=
  let signed := readSign (normalise s)
  match readDigits false 0 0 signed.2 with
  | (value, count, []) =>
    if count = 0 then none else some (if signed.1 then -(value : Int) else (value : Int))
  | _ => none

/-- The number of digits that a text starts with, after its sign. -/
def digitCount (s : String) : Nat := (readDigits false 0 0 (readSign (normalise s)).2).2.1

/-- The most digits that an integer is read from. -/
def digitLimit : Nat := 4300

/-- What is said about a numeral of more digits. -/
def lengthMessage (count : Nat) : String :=
  "Exceeds the limit (4300 digits) for integer string conversion: value has " ++ natText count ++
    " digits; use sys.set_int_max_str_digits() to increase the limit"

/-- An exponent part, zero when there is none. -/
def readExponent? : List Char → Option Int
  | [] => some 0
  | c :: rest =>
    if c = 'e' ∨ c = 'E' then
      let signed := readSign rest
      match readDigits false 0 0 signed.2 with
      | (value, count, []) =>
        if count = 0 then none else some (if signed.1 then -(value : Int) else (value : Int))
      | _ => none
    else none

/-- The unsigned number a text spells, with the given sign. -/
def readUnsigned? (negative : Bool) (s : List Char) : Option Binary64 :=
  let word := Text.lower (String.ofList s)
  if word = "inf" ∨ word = "infinity" then some (.infinite negative)
  else if word = "nan" then some .nan
  else
    let whole := readDigits false 0 0 s
    let fraction := match whole.2.2 with
      | '.' :: rest => readDigits false whole.1 0 rest
      | rest => (whole.1, 0, rest)
    if whole.2.1 + fraction.2.1 = 0 then none
    else (readExponent? fraction.2.2).map fun e =>
      Binary64.ofDecimal negative fraction.1 (e - fraction.2.1)

/-- The number a text spells. -/
def readFloat? (s : String) : Option Binary64 :=
  let signed := readSign (normalise s)
  readUnsigned? signed.1 signed.2

end RouteAudit.Numeral
