import RouteAudit.Data.Calendar
import RouteAudit.Number.Numeral
import RouteAudit.Pattern.Regex.Match
import RouteAudit.Pattern.Regex.Parse
import RouteAudit.Text.Basic
import RouteAudit.Text.Case

/-! # What a plain scalar denotes

`Tag.ofPlain` decides by the form of a text whether it is a truth value, a number, a time, nothing,
or a text, and `Tag.read` gives the value of a text under a tag. -/

namespace RouteAudit.Yaml

/-- The kinds of nodes. -/
inductive Tag where
  | null
  | bool
  | int
  | float
  | time
  | text
  /-- The key that takes over the entries of other mappings. -/
  | merge
  /-- The key for the value of a mapping itself. -/
  | value
  | list
  | map
  | unknown
deriving DecidableEq, Repr

/-- Why a document has no value. -/
inductive Fault where
  | malformed
  | calendar (e : CalendarError)
deriving DecidableEq, Repr

/-! ### Forms -/

def boolForm : String :=
  "^(?:yes|Yes|YES|no|No|NO|true|True|TRUE|false|False|FALSE|on|On|ON|off|Off|OFF)$"

def floatForm : String :=
  "^(?:[-+]?(?:[0-9][0-9_]*)\\.[0-9_]*(?:[eE][-+][0-9]+)?" ++
  "|\\.[0-9][0-9_]*(?:[eE][-+][0-9]+)?" ++
  "|[-+]?[0-9][0-9_]*(?::[0-5]?[0-9])+\\.[0-9_]*" ++
  "|[-+]?\\.(?:inf|Inf|INF)|\\.(?:nan|NaN|NAN))$"

def intForm : String :=
  "^(?:[-+]?0b[0-1_]+|[-+]?0[0-7_]+|[-+]?(?:0|[1-9][0-9_]*)" ++
  "|[-+]?0x[0-9a-fA-F_]+|[-+]?[1-9][0-9_]*(?::[0-5]?[0-9])+)$"

def nullForm : String := "^(?:~|null|Null|NULL|)$"

/-- A day, or a day with a time: a day alone has two digits for each of its parts. -/
def timeForm : String :=
  "^(?:[0-9][0-9][0-9][0-9]-[0-9][0-9]-[0-9][0-9]" ++
  "|[0-9][0-9][0-9][0-9]-[0-9][0-9]?-[0-9][0-9]?(?:[Tt]|[ \\t]+)[0-9][0-9]?" ++
  ":[0-9][0-9]:[0-9][0-9](?:\\.[0-9]*)?(?:[ \\t]*(?:Z|[-+][0-9][0-9]?(?::[0-9][0-9])?))?)$"

/-- The parts of a time: year, month, day, hour, minute, second, fraction, zone, and the sign, hours
and minutes of the zone. -/
def timeParts : String :=
  "^([0-9][0-9][0-9][0-9])-([0-9][0-9]?)-([0-9][0-9]?)" ++
  "(?:(?:[Tt]|[ \\t]+)([0-9][0-9]?):([0-9][0-9]):([0-9][0-9])(?:\\.([0-9]*))?" ++
  "(?:[ \\t]*(Z|([-+])([0-9][0-9]?)(?::([0-9][0-9]))?))?)?$"

/-- A text has a form. -/
def hasForm (form text : String) : Bool :=
  match Regex.parse? form with
  | some r => (r.groups? text).isSome
  | none => false

/-- The kind of a plain scalar. -/
def Tag.ofPlain (s : String) : Tag :=
  if hasForm boolForm s then bool
  else if hasForm floatForm s then float
  else if hasForm intForm s then int
  else if s == "<<" then merge
  else if hasForm nullForm s then null
  else if hasForm timeForm s then time
  else if s == "=" then value
  else text

/-! ### Values -/

/-- A number without the underscores, and whether it has a minus sign before it. -/
def unsigned (s : String) : Bool × List Char :=
  match s.toList.filter (· != '_') with
  | '-' :: rest => (true, rest)
  | '+' :: rest => (false, rest)
  | cs => (false, cs)

def digitValue? (base : Nat) (c : Char) : Option Nat :=
  let n := if c.isDigit then some (c.toNat - 48)
    else if 'a' ≤ c && c ≤ 'f' then some (c.toNat - 87)
    else if 'A' ≤ c && c ≤ 'F' then some (c.toNat - 55)
    else none
  n.filter (· < base)

/-- A number in a base; there is at least one digit. -/
def natOf? (base : Nat) (ds : List Char) : Option Nat :=
  if ds.isEmpty then none
  else ds.foldlM (fun n c => (digitValue? base c).map (base * n + ·)) 0

/-- An integer: binary, octal after a zero, hexadecimal, in base sixty, or decimal. -/
def natural? : List Char → Option Nat
  | ['0'] => some 0
  | '0' :: 'b' :: ds => natOf? 2 ds
  | '0' :: 'x' :: ds => natOf? 16 ds
  | '0' :: ds => natOf? 8 ds
  | cs =>
    if cs.contains ':' then
      (Text.splitAt ':' cs).foldlM (fun n ds => (natOf? 10 ds).map (60 * n + ·)) 0
    else natOf? 10 cs

def intOf? (s : String) : Option Int :=
  let (negative, cs) := unsigned s
  (natural? cs).map fun n => if negative then -(n : Int) else n

/-- A sum of parts in base sixty, from the last on, rounded at each step. -/
def sumSixtieths : (base : Nat) → Binary64 → List Binary64 → Binary64
  | _, sum, [] => sum
  | base, sum, x :: rest => sumSixtieths (base * 60) (sum.plus (x.mulNat base)) rest

def floatOf? (s : String) : Option Binary64 :=
  let (negative, cs) := unsigned (Text.lower s)
  let absolute : Option Binary64 :=
    if cs == ".inf".toList then some (.infinite false)
    else if cs == ".nan".toList then some .nan
    else if cs.contains ':' then do
      let parts ← (Text.splitAt ':' cs).mapM fun ds => Numeral.readFloat? (String.ofList ds)
      return sumSixtieths 1 Binary64.zero parts.reverse
    else Numeral.readFloat? (String.ofList cs)
  absolute.map fun x => if negative then x.negate else x

/-- A fraction of a second in millionths; further digits are dropped. -/
def microOf (ds : List Char) : Nat :=
  let six := ds.take 6
  (six ++ List.replicate (6 - six.length) '0').foldl (fun n c => 10 * n + (c.toNat - 48)) 0

/-- A day, or a time of a day. -/
def timeOf (s : String) : Except Fault Value := do
  let some groups := (Regex.parse? timeParts).bind (Regex.groups? · s) | throw .malformed
  let part (n : Nat) : Option (List Char) := groups.lookup n
  let number (n : Nat) : Nat := ((part n).bind (natOf? 10)).getD 0
  let date : Date := ⟨number 1, number 2, number 3⟩
  if (part 4).isNone then
    (date.check.map Value.date).mapError .calendar
  else
    let seconds : Int := 3600 * number 10 + 60 * number 11
    let offset : Option Int :=
      if (part 9).isSome then some (if part 9 == some ['-'] then -seconds else seconds)
      else if (part 8).isSome then some 0
      else none
    if seconds ≥ 86400 then throw .malformed
    let t : Moment := ⟨date, number 4, number 5, number 6, microOf ((part 7).getD []), offset⟩
    (t.check.map Value.moment).mapError .calendar

/-- The value of a truth word. -/
def boolOf? (s : String) : Option Bool :=
  let word := Text.lower s
  if ["yes", "true", "on"].contains word then some true
  else if ["no", "false", "off"].contains word then some false
  else none

/-- The value of a text under a tag. -/
def Tag.read (s : String) : Tag → Except Fault Value
  | null => .ok .null
  | bool => (boolOf? s).elim (.error .malformed) fun b => .ok (.bool b)
  | int => (intOf? s).elim (.error .malformed) fun n => .ok (.int n)
  | float => (floatOf? s).elim (.error .malformed) fun x => .ok (.float x)
  | time => timeOf s
  | text => .ok (.text s)
  | _ => .error .malformed

end RouteAudit.Yaml
