import Mathlib.Data.Nat.Log
import RouteAudit.Number.Binary64

/-! # Integers beyond the range of floating point numbers

The greatest finite number has a mantissa of 53 ones and the greatest exponent. An integer is
rounded to infinity from the middle between that number and the next power of two on, where the tie
goes to the even neighbour and that is the power: `ofInt_eq_infinite_iff`.

The exponent of an integer is known from its number of bits (`exponentFor_one`), and below the
greatest exponent there is always room for a carry. So only integers of 1024 bits have to be looked
at (`roundHalfEven_eq_carry_iff`). -/

namespace RouteAudit.Binary64

theorem two_pow_of_add {a b c : ℕ} (h : a + b = c) : Nat.pow 2 c = Nat.pow 2 a * Nat.pow 2 b := by
  subst h
  exact Nat.pow_add 2 a b

theorem two_pow_53 : Nat.pow 2 53 = 9007199254740992 := by decide

theorem two_pow_54 : Nat.pow 2 54 = 18014398509481984 := by decide

theorem two_pow_pos (a : ℕ) : 0 < Nat.pow 2 a := Nat.pow_pos (by decide)

section integers
variable {n : ℕ} (hn : n ≠ 0)

include hn

theorem pow_le_scale_one :
    Nat.pow 2 52 ≤ (scale n 1 ((Nat.log2 n : ℤ) - 52)).1 / (scale n 1 ((Nat.log2 n : ℤ) - 52)).2 := by
  have hlog : Nat.pow 2 (Nat.log2 n) ≤ n := Nat.log2_self_le hn
  unfold scale
  split
  · next hle =>
      have hbits : 52 + ((Nat.log2 n : ℤ) - 52).toNat = Nat.log2 n := by omega
      rw [two_pow_of_add hbits] at hlog
      dsimp only
      rw [Nat.one_mul, Nat.le_div_iff_mul_le (two_pow_pos _)]
      exact hlog
  · next hlt =>
      have hbits : Nat.log2 n + (-((Nat.log2 n : ℤ) - 52)).toNat = 52 := by omega
      dsimp only
      rw [Nat.div_one, two_pow_of_add hbits]
      exact Nat.mul_le_mul_right _ hlog

theorem exponentFor_one : exponentFor n 1 = (Nat.log2 n : ℤ) - 52 := by
  have hguess : max ((Nat.log2 n : ℤ) - (Nat.log2 1 : ℤ) - 52) minExponent =
      (Nat.log2 n : ℤ) - 52 := by
    rw [show Nat.log2 1 = 0 from rfl, minExponent]
    omega
  have hfull := pow_le_scale_one hn
  rw [exponentFor, hguess]
  exact if_neg fun h => Nat.not_lt.mpr hfull h.1

/-- Above 1024 bits an integer is out of range, and with 1024 bits it is when rounding carries. -/
theorem ofRatio_one_eq_infinite_iff {negative : Bool} :
    (∃ sign, ofRatio negative n 1 = .infinite sign) ↔
      1023 < Nat.log2 n ∨
        Nat.log2 n = 1023 ∧ roundHalfEven n (2 * Nat.pow 2 970) = Nat.pow 2 53 := by
  -- the power stays a variable, since nothing may write out its digits
  generalize hk : 970 = k
  rw [ofRatio, if_neg hn, exponentFor_one hn]
  extract_lets e s m m' e'
  have hcarry : e' = if m = Nat.pow 2 53 then e + 1 else e := rfl
  have hinfinite : (∃ sign, (if maxExponent < e' then infinite negative
      else finite negative m' e') = infinite sign) ↔ 971 < e' := by
    unfold maxExponent
    split_ifs with hlt <;> simp [hlt]
  rw [hinfinite, hcarry]
  by_cases hbits : Nat.log2 n = 1023
  · have he : e = ((1 + k : ℕ) : ℤ) := by omega
    have hm : m = roundHalfEven n (2 * Nat.pow 2 k) := by
      change roundHalfEven (scale n 1 e).1 (scale n 1 e).2 = _
      rw [he, scale, if_pos (Int.natCast_nonneg _), Int.toNat_natCast, Nat.one_mul,
        two_pow_of_add rfl]
    rw [← hm, he]
    split_ifs <;> omega
  · split_ifs <;> omega

end integers

theorem roundHalfEven_eq_carry_iff {n half : ℕ} (hhalf : 0 < half) (hn : n < Nat.pow 2 54 * half) :
    roundHalfEven n (2 * half) = Nat.pow 2 53 ↔ (Nat.pow 2 54 - 1) * half ≤ n := by
  have hdiv := Nat.div_add_mod n (2 * half)
  have hmod := Nat.mod_lt n (by omega : 0 < 2 * half)
  rw [two_pow_54] at hn ⊢
  rw [two_pow_53]
  unfold roundHalfEven
  extract_lets q r
  change 2 * half * q + r = n at hdiv
  change r < 2 * half at hmod
  clear_value q r
  have hq : q < 9007199254740992 := by
    have hlt : 2 * half * q < 2 * half * 9007199254740992 := by omega
    exact Nat.lt_of_mul_lt_mul_left hlt
  -- only from the last step of all there is a carry
  by_cases hlast : q = 9007199254740991
  · have hodd : ¬ q % 2 = 0 := by omega
    rw [if_neg hodd]
    rw [hlast] at hdiv ⊢
    split_ifs <;> omega
  · have hbelow : 2 * half * q ≤ 2 * half * 9007199254740990 := Nat.mul_le_mul_left _ (by omega)
    split_ifs <;> omega

/-- The least absolute value of an integer that is rounded to infinity: half a step above the
greatest finite number, and half a step below two to the power of 1024. -/
def overflowBound : ℕ := (Nat.pow 2 54 - 1) * Nat.pow 2 970

theorem overflowBound_pos : 0 < overflowBound := by
  rw [overflowBound]
  generalize 970 = k
  exact Nat.mul_pos (by decide) (two_pow_pos k)

/-- An integer is rounded to infinity exactly from this bound on. -/
theorem ofInt_eq_infinite_iff {n : ℤ} :
    (∃ sign, ofInt n = .infinite sign) ↔ overflowBound ≤ n.natAbs := by
  by_cases hzero : n.natAbs = 0
  · rw [ofInt, ofRatio, if_pos hzero, hzero]
    simp only [reduceCtorEq, exists_false, false_iff, Nat.not_le]
    exact overflowBound_pos
  have hlow : Nat.pow 2 (Nat.log2 n.natAbs) ≤ n.natAbs := Nat.log2_self_le hzero
  have hhigh : n.natAbs < Nat.pow 2 (Nat.log2 n.natAbs + 1) := Nat.lt_log2_self
  rw [overflowBound, ofInt, ofRatio_one_eq_infinite_iff hzero]
  generalize hk : 970 = k
  have hpos := two_pow_pos k
  rcases Nat.lt_trichotomy (Nat.log2 n.natAbs) 1023 with hlt | heq | hgt
  · have hsmall : n.natAbs < Nat.pow 2 (53 + k) :=
      Nat.lt_of_lt_of_le hhigh (Nat.pow_le_pow_right (by decide) (by omega))
    rw [two_pow_of_add rfl, two_pow_53] at hsmall
    rw [two_pow_54]
    omega
  · rw [two_pow_of_add (by omega : 54 + k = Nat.log2 n.natAbs + 1)] at hhigh
    rw [roundHalfEven_eq_carry_iff hpos hhigh]
    omega
  · have hlarge : Nat.pow 2 (54 + k) ≤ n.natAbs :=
      Nat.le_trans (Nat.pow_le_pow_right (by decide) (by omega)) hlow
    rw [two_pow_of_add rfl] at hlarge
    rw [two_pow_54] at hlarge ⊢
    omega

end RouteAudit.Binary64
