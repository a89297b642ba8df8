/-! # Code units of 16 bits

Characters beyond U+FFFF can be spelled as a pair of code units. `pairChar?` puts a pair together
and `unitChar` reads a unit that stands alone. -/

namespace RouteAudit.Text

/-- The character of a code unit; a unit of a pair that stands alone is replaced. -/
def unitChar (n : Nat) : Char :=
  if 0xD800 ≤ n ∧ n ≤ 0xDFFF then Char.ofNat 0xFFFD else Char.ofNat n

/-- The character a pair of code units denotes, when they are a pair. -/
def pairChar? (high low : Nat) : Option Char :=
  if 0xD800 ≤ high ∧ high ≤ 0xDBFF ∧ 0xDC00 ≤ low ∧ low ≤ 0xDFFF then
    some (Char.ofNat (0x10000 + (high - 0xD800) * 0x400 + (low - 0xDC00)))
  else none

end RouteAudit.Text
