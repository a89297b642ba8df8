/-! # Binary floating point numbers of 64 bits

A `Binary64` is kept exactly, as a sign, a mantissa and a power of two. `ofRatio` rounds a quotient
to the nearest one, a half to the even mantissa; everything else (`ofDecimal`, `mul`, `ofNat`) is an
exact computation followed by that rounding. -/

namespace RouteAudit

/-- A number of the 64 bit format: the value of `finite` is `mantissa * 2 ^ exponent`, signed. -/
inductive Binary64 where
  | nan
  | infinite (negative : Bool)
  | finite (negative : Bool) (mantissa : Nat) (exponent : Int)
deriving DecidableEq, Repr

namespace Binary64

/-- The least exponent, which the numbers near zero share. -/
def minExponent : Int := -1074

/-- The greatest exponent. -/
def maxExponent : Int := 971

def zero : Binary64 := finite false 0 minExponent

/-! ### Rounding -/

/-- The quotient rounded to an integer, a half to the even one. -/
def roundHalfEven (num den : Nat) : Nat :=
  let q := num / den
  let r := num % den
  if 2 * r < den then q
  else if den < 2 * r then q + 1
  else if q % 2 = 0 then q else q + 1

/-- Numerator and denominator of `num / den / 2 ^ e`. -/
def scale (num den : Nat) (e : Int) : Nat × Nat :=
  if 0 ≤ e then (num, den * Nat.pow 2 e.toNat) else (num * Nat.pow 2 (-e).toNat, den)

/-- The exponent at which the quotient has a mantissa of 53 bits, but no less than the least. -/
def exponentFor (num den : Nat) : Int :=
  let guess := max ((Nat.log2 num : Int) - (Nat.log2 den : Int) - 52) minExponent
  let s := scale num den guess
  if s.1 / s.2 < Nat.pow 2 52 ∧ minExponent < guess then guess - 1 else guess

/-- The nearest number to `num / den`, with the given sign. -/
def ofRatio (negative : Bool) (num den : Nat) : Binary64 :=
  if num = 0 then finite negative 0 minExponent
  else
    let e := exponentFor num den
    let s := scale num den e
    let m := roundHalfEven s.1 s.2
    let m' := if m = Nat.pow 2 53 then Nat.pow 2 52 else m
    let e' := if m = Nat.pow 2 53 then e + 1 else e
    if maxExponent < e' then infinite negative else finite negative m' e'

/-- The nearest number to `digits * 10 ^ e`. Exponents far beyond the range are settled without
computing the power. -/
def ofDecimal (negative : Bool) (digits : Nat) (e : Int) : Binary64 :=
  if digits = 0 then finite negative 0 minExponent
  else if 400 < e then infinite negative
  else if 0 ≤ e then ofRatio negative (digits * Nat.pow 10 e.toNat) 1
  else if (Nat.log2 digits / 3 : Nat) + 2 + e < -330 then finite negative 0 minExponent
  else ofRatio negative digits (Nat.pow 10 (-e).toNat)

def ofNat (n : Nat) : Binary64 := ofRatio false n 1

def ofInt (n : Int) : Binary64 := ofRatio (decide (n < 0)) n.natAbs 1

/-! ### Exact values -/

/-- Numerator and denominator of the absolute value of a finite number. -/
def ratio (mantissa : Nat) (exponent : Int) : Nat × Nat :=
  if 0 ≤ exponent then (mantissa * Nat.pow 2 exponent.toNat, 1)
  else (mantissa, Nat.pow 2 (-exponent).toNat)

/-- The integer part of a finite number; `none` for the others. -/
def truncate? : Binary64 → Option Int
  | finite negative m e =>
    let r := ratio m e
    some (if negative then -((r.1 / r.2 : Nat) : Int) else ((r.1 / r.2 : Nat) : Int))
  | _ => none

def isZero : Binary64 → Bool
  | finite _ m _ => m == 0
  | _ => false

/-- The exact quotient `num / den` is greater than the number. -/
def ratioExceeds (num den : Nat) : Binary64 → Bool
  | nan => false
  | infinite negative => negative
  | finite true m e =>
    let r := ratio m e
    decide (0 < num) || decide (0 < r.1)
  | finite false m e =>
    let r := ratio m e
    decide (r.1 * den < num * r.2)

/-- The product of a nonnegative finite number and an integer, rounded. -/
def mulNat (x : Binary64) (k : Nat) : Binary64 :=
  match x with
  | finite negative m e =>
    let r := ratio m e
    ofRatio negative (r.1 * k) r.2
  | other => other

/-- The sum of two finite numbers that are not negative, rounded. -/
def plus (x y : Binary64) : Binary64 :=
  match x, y with
  | finite _ m e, finite _ m' e' =>
    let r := ratio m e
    let r' := ratio m' e'
    ofRatio false (r.1 * r'.2 + r'.1 * r.2) (r.2 * r'.2)
  | finite .., other => other
  | other, _ => other

/-- The number with the other sign. -/
def negate : Binary64 → Binary64
  | finite negative m e => finite (!negative) m e
  | infinite negative => infinite (!negative)
  | nan => nan

end Binary64

end RouteAudit
