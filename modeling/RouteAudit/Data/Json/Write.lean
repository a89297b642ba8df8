import RouteAudit.Data.Value
import RouteAudit.Number.Shortest
import RouteAudit.Text.Basic
import RouteAudit.Text.Quoted

/-! # Writing JSON

`Json.compact` writes a value on one line, `Json.indented` with two blanks for each level. Every
character outside the printable range of ASCII is escaped, those beyond U+FFFF as a pair of code
units. -/

namespace RouteAudit.Json

/-- An escaped code unit. -/
def unitText (n : Nat) : List Char := '\\' :: 'u' :: Text.hexPadded 4 n

/-- One character inside a string literal. -/
def escaped (c : Char) : List Char :=
  if c = '"' ∨ c = '\\' then ['\\', c]
  else if c = '\n' then ['\\', 'n']
  else if c = '\r' then ['\\', 'r']
  else if c = '\t' then ['\\', 't']
  else if c.toNat = 8 then ['\\', 'b']
  else if c.toNat = 12 then ['\\', 'f']
  else if 0x20 ≤ c.toNat ∧ c.toNat ≤ 0x7E then [c]
  else if c.toNat < 0x10000 then unitText c.toNat
  else
    let n := c.toNat - 0x10000
    unitText (0xD800 + n / 0x400) ++ unitText (0xDC00 + n % 0x400)

def stringText (s : String) : String := String.ofList ('"' :: s.toList.flatMap escaped ++ ['"'])

/-- The text of a scalar. -/
def scalarText : Value → String
  | .bool b => if b then "true" else "false"
  | .int n => intText n
  | .float .nan => "NaN"
  | .float (.infinite negative) => if negative then "-Infinity" else "Infinity"
  | .float x => x.render
  | .text s => stringText s
  | _ => "null"

/-- The text of a mapping's key. -/
def keyText : Value → String
  | .text s => stringText s
  | v => "\"" ++ scalarText v ++ "\""

mutual

/-- A value on one line. -/
def compact : Value → String
  | .list items => "[" ++ Text.join "," (compactItems items) ++ "]"
  | .map entries => "\x7b" ++ Text.join "," (compactEntries entries) ++ "\x7d"
  | v => scalarText v

/-- The items of a list, each on one line. -/
def compactItems : List Value → List String
  | [] => []
  | v :: rest => compact v :: compactItems rest

/-- The entries of a mapping, each on one line. -/
def compactEntries : List (Value × Value) → List String
  | [] => []
  | (k, v) :: rest => (keyText k ++ ":" ++ compact v) :: compactEntries rest

end

/-- A line break and the blanks of a level. -/
def newline (level : Nat) : String := String.ofList ('\n' :: List.replicate (2 * level) ' ')

/-- Parts between brackets, each on a line of its own one level deeper. -/
def bracketed (level : Nat) (opening closing : String) (parts : List String) : String :=
  if parts.isEmpty then opening ++ closing
  else
    opening ++ newline (level + 1) ++ Text.join ("," ++ newline (level + 1)) parts ++
      newline level ++ closing

mutual

/-- A value over several lines; `level` counts the brackets around it. -/
def indentedAt (level : Nat) : Value → String
  | .list items => bracketed level "[" "]" (indentedItems (level + 1) items)
  | .map entries => bracketed level "\x7b" "\x7d" (indentedEntries (level + 1) entries)
  | v => scalarText v

/-- The items of a list at their level. -/
def indentedItems (level : Nat) : List Value → List String
  | [] => []
  | v :: rest => indentedAt level v :: indentedItems level rest

/-- The entries of a mapping at their level. -/
def indentedEntries (level : Nat) : List (Value × Value) → List String
  | [] => []
  | (k, v) :: rest => (keyText k ++ ": " ++ indentedAt level v) :: indentedEntries level rest

end

def indented (v : Value) : String := indentedAt 0 v

end RouteAudit.Json
