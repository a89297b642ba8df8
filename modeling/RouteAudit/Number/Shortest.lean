import RouteAudit.Number.Binary64

/-! # Decimal texts of binary numbers

`shortest` finds the fewest decimal digits that round back to a number, and of those the nearest;
`Binary64.render` writes them, positionally for exponents from -4 to 15. `fixed` writes a number
with a given count of places, a half to the even neighbour. -/

namespace RouteAudit

/-- A decimal: the digits stand before `10 ^ exponent`. -/
structure Decimal where
  digits : Nat
  exponent : Int
deriving DecidableEq, Repr

/-- The decimal digits of a number, most significant first. -/
def decimalDigits (n : Nat) : List Char := Nat.toDigits 10 n

/-- An integer in decimal. -/
def intText (n : Int) : String :=
  String.ofList (if n < 0 then '-' :: decimalDigits n.natAbs else decimalDigits n.natAbs)

def natText (n : Nat) : String := String.ofList (decimalDigits n)

namespace Binary64

/-- The `k` with `10 ^ (k - 1) ≤ num / den < 10 ^ k`. -/
def magnitude (num den : Nat) : Int :=
  let guess : Int := (decimalDigits num).length - (decimalDigits den).length
  let reached :=
    if 0 ≤ guess then decide (den * Nat.pow 10 guess.toNat ≤ num)
    else decide (den ≤ num * Nat.pow 10 (-guess).toNat)
  if reached then guess + 1 else guess

/-- The quotient of `num / den` by `10 ^ e`, rounded down, and whether the upper neighbour is
nearer, or even and just as near. -/
def gridPoint (num den : Nat) (e : Int) : Nat × Bool :=
  let s := if 0 ≤ e then (num, den * Nat.pow 10 e.toNat) else (num * Nat.pow 10 (-e).toNat, den)
  (s.1 / s.2, roundHalfEven s.1 s.2 != s.1 / s.2)

/-- The decimal of `count` digits that rounds to the number, when there is one. -/
def decimalOf? (mantissa : Nat) (exponent : Int) (count : Nat) : Option Decimal :=
  let r := ratio mantissa exponent
  let e := magnitude r.1 r.2 - count
  let g := gridPoint r.1 r.2 e
  let reads (d : Nat) : Bool := ofDecimal false d e == finite false mantissa exponent
  let first := if g.2 then g.1 + 1 else g.1
  let second := if g.2 then g.1 else g.1 + 1
  if reads first then some ⟨first, e⟩
  else if reads second then some ⟨second, e⟩
  else none

/-- The decimal of `count` digits that is nearest to the number. -/
def nearestDecimal (mantissa : Nat) (exponent : Int) (count : Nat) : Decimal :=
  let r := ratio mantissa exponent
  let e := magnitude r.1 r.2 - count
  let g := gridPoint r.1 r.2 e
  ⟨if g.2 then g.1 + 1 else g.1, e⟩

/-- The shortest decimal that rounds to the number. Of seventeen digits the nearest one always
does. -/
def shortest (mantissa : Nat) (exponent : Int) : Decimal :=
  ((List.range 16).findSome? fun n => decimalOf? mantissa exponent (n + 1)).getD
    (nearestDecimal mantissa exponent 17)

/-- An exponent with its sign and at least two digits. -/
def exponentText (e : Int) : List Char :=
  let d := decimalDigits e.natAbs
  (if e < 0 then '-' else '+') :: (if d.length < 2 then '0' :: d else d)

/-- Digits with the point after `point` of them: positional when the point is near, else in
scientific notation. -/
def layout (digits : List Char) (point : Int) : List Char :=
  if -4 < point ∧ point ≤ 16 then
    if point ≤ 0 then
      '0' :: '.' :: List.replicate (-point).toNat '0' ++ digits
    else if digits.length ≤ point.toNat then
      digits ++ List.replicate (point.toNat - digits.length) '0' ++ ['.', '0']
    else
      digits.take point.toNat ++ '.' :: digits.drop point.toNat
  else
    (match digits with
      | [] => []
      | [d] => [d]
      | d :: more => d :: '.' :: more) ++ 'e' :: exponentText (point - 1)

/-- Digits without the zeros at their end. -/
def dropZeros (digits : List Char) : List Char := (digits.reverse.dropWhile (· == '0')).reverse

/-- The text of a number: its shortest digits, `inf` and `nan`. -/
def render : Binary64 → String
  | nan => "nan"
  | infinite negative => if negative then "-inf" else "inf"
  | finite negative m e =>
    let sign := if negative then ['-'] else []
    if m = 0 then String.ofList (sign ++ ['0', '.', '0'])
    else
      let d := shortest m e
      let ds := decimalDigits d.digits
      String.ofList (sign ++ layout (dropZeros ds) (d.exponent + ds.length))

/-- The text of `num / den` with a fixed count of places, a half to the even digit. -/
def fixedRatio (places num den : Nat) : String :=
  let n := roundHalfEven (num * Nat.pow 10 places) den
  let ds := decimalDigits n
  let padded := List.replicate (places + 1 - ds.length) '0' ++ ds
  let whole := padded.length - places
  String.ofList (if places = 0 then padded else padded.take whole ++ '.' :: padded.drop whole)

/-- The text of a number with a fixed count of places. -/
def fixed (places : Nat) : Binary64 → String
  | nan => "nan"
  | infinite negative => if negative then "-inf" else "inf"
  | finite negative m e =>
    let r := ratio m e
    (if negative then "-" else "") ++ fixedRatio places r.1 r.2

end Binary64

end RouteAudit
