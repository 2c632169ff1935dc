import GatewayRouting.Number.Binary64
import Mathlib.Algebra.Order.Ring.Nat

/-!
Whole numbers as doubles. Up to `2 ^ 53` they are doubles themselves, and sums and products that stay below
that are not rounded.
-/

set_option autoImplicit false

namespace GatewayRouting.Binary64

/-- The double is exactly this number; the powers of two stand on the side where the exponent is not negative. -/
def IsWhole (x : Binary64) (n : Nat) : Prop :=
  ∃ m e, x = .finite false m e ∧ m * 2 ^ e.toNat = n * 2 ^ (-e).toNat

/-- Only the difference of the powers on the two sides matters. -/
theorem mul_pow_eq_iff {m n p q : Nat} {e : Int} (apart : (p : Int) - q = e) :
    m * 2 ^ p = n * 2 ^ q ↔ m * 2 ^ e.toNat = n * 2 ^ (-e).toNat := by
  obtain ⟨t, rfl, rfl⟩ : ∃ t, p = e.toNat + t ∧ q = (-e).toNat + t :=
    ⟨min p q, by omega, by omega⟩
  have positive : 0 < 2 ^ t := Nat.two_pow_pos t
  rw [Nat.pow_add, Nat.pow_add, ← Nat.mul_assoc, ← Nat.mul_assoc]
  exact Nat.mul_left_inj positive.ne'

theorem roundDiv_mul (q : Nat) {d : Nat} (positive : 0 < d) : roundDiv (q * d) d = q := by
  have even : 2 * (q * d % d) < d := by
    rw [Nat.mul_mod_left]
    omega
  rw [roundDiv, if_pos even, Nat.mul_div_cancel q positive]

theorem log2_mul_two_pow {n : Nat} (positive : 0 < n) (k : Nat) : (n * 2 ^ k).log2 = n.log2 + k := by
  have scale : 0 < 2 ^ k := Nat.two_pow_pos k
  have some : n * 2 ^ k ≠ 0 := (Nat.mul_pos positive scale).ne'
  rw [Nat.log2_eq_iff some, Nat.add_right_comm, Nat.pow_add, Nat.pow_add]
  constructor
  · exact Nat.mul_le_mul_right _ (Nat.log2_self_le positive.ne')
  · exact (Nat.mul_lt_mul_right scale).mpr Nat.lt_log2_self

/-- A whole number has its highest bit in the highest place of the mantissa. -/
theorem quotientExponent_whole {n : Nat} (positive : 0 < n) (k : Nat) :
    quotientExponent (n * 2 ^ k) (2 ^ k) = (n.log2 : Int) - 52 := by
  have distance : (((n * 2 ^ k).log2 : Int) - (2 ^ k).log2) = n.log2 := by
    rw [log2_mul_two_pow positive, Nat.log2_two_pow]
    omega
  have reached : 2 ^ k * 2 ^ n.log2 ≤ n * 2 ^ k := by
    rw [Nat.mul_comm]
    exact Nat.mul_le_mul_right _ (Nat.log2_self_le positive.ne')
  have forward : (0 : Int) ≤ n.log2 := Int.natCast_nonneg _
  simp only [quotientExponent, distance, if_pos forward, Int.toNat_natCast, Nat.pow_eq, reached, if_true,
    leastExponent]
  omega

/-- Below `2 ^ 53` the mantissa is the number, moved up to its 53 bits. -/
theorem ofRatio_of_lt {n : Nat} (positive : 0 < n) (below : n < 2 ^ 53) (k : Nat) :
    ofRatio false (n * 2 ^ k) (2 ^ k) = .finite false (n * 2 ^ (52 - n.log2)) ((n.log2 : Int) - 52) := by
  have scale : 0 < 2 ^ k := Nat.two_pow_pos k
  have some : n * 2 ^ k ≠ 0 := (Nat.mul_pos positive scale).ne'
  have places : n.log2 < 53 := (Nat.log2_lt positive.ne').mpr below
  have mantissa : (if 0 ≤ (n.log2 : Int) - 52 then roundDiv (n * 2 ^ k) (2 ^ k * 2 ^ ((n.log2 : Int) - 52).toNat)
      else roundDiv (n * 2 ^ k * 2 ^ (-((n.log2 : Int) - 52)).toNat) (2 ^ k)) = n * 2 ^ (52 - n.log2) := by
    split
    · have top : n.log2 = 52 := by omega
      rw [top]
      simp only [Nat.cast_ofNat, sub_self, Int.toNat_zero, Nat.pow_zero, Nat.mul_one, Nat.sub_self]
      exact roundDiv_mul n scale
    · have moved : (-((n.log2 : Int) - 52)).toNat = 52 - n.log2 := by omega
      rw [moved, Nat.mul_right_comm]
      exact roundDiv_mul _ scale
  have fits : n * 2 ^ (52 - n.log2) < 2 ^ 53 := by
    have whole : 2 ^ (n.log2 + 1) * 2 ^ (52 - n.log2) = 2 ^ 53 := by
      rw [← Nat.pow_add]
      congr 1
      omega
    rw [← whole]
    exact (Nat.mul_lt_mul_right (Nat.two_pow_pos _)).mpr Nat.lt_log2_self
  have range : (n.log2 : Int) - 52 ≤ 971 := by omega
  rw [ofRatio, if_neg some]
  simp only [quotientExponent_whole positive, Nat.pow_eq, greatestExponent]
  rw [mantissa, if_pos fits, if_pos range]

/-- `2 ^ 53` has one bit more, which is zero. -/
theorem ofRatio_top (k : Nat) : ofRatio false (2 ^ 53 * 2 ^ k) (2 ^ k) = .finite false (2 ^ 52) 1 := by
  have scale : 0 < 2 ^ k := Nat.two_pow_pos k
  have some : 2 ^ 53 * 2 ^ k ≠ 0 := (Nat.mul_pos (Nat.two_pow_pos 53) scale).ne'
  have exponent : (((2 ^ 53 : Nat).log2 : Nat) : Int) - 52 = 1 := by
    rw [Nat.log2_two_pow]
    rfl
  have upward : (0 : Int) ≤ 1 := by decide
  have halves : 2 ^ 53 * 2 ^ k = 2 ^ 52 * (2 ^ k * 2 ^ 1) := by
    rw [Nat.pow_one]
    omega
  have mantissa : roundDiv (2 ^ 53 * 2 ^ k) (2 ^ k * 2 ^ 1) = 2 ^ 52 := by
    rw [halves]
    exact roundDiv_mul _ (Nat.mul_pos scale (Nat.two_pow_pos 1))
  rw [ofRatio, if_neg some]
  simp only [quotientExponent_whole (Nat.two_pow_pos 53), exponent, if_pos upward, Int.toNat_one, Nat.pow_eq,
    mantissa, greatestExponent]
  rw [if_pos (by decide), if_pos (by decide)]

theorem IsWhole.zero : IsWhole .zero 0 :=
  ⟨0, leastExponent, rfl, by rw [Nat.zero_mul, Nat.zero_mul]⟩

/-- Up to `2 ^ 53` no digit of a whole number is rounded off. -/
theorem ofRatio_isWhole {n : Nat} (small : n ≤ 2 ^ 53) (k : Nat) : IsWhole (ofRatio false (n * 2 ^ k) (2 ^ k)) n := by
  rcases Nat.eq_zero_or_pos n with rfl | positive
  · rw [Nat.zero_mul, ofRatio, if_pos rfl]
    exact .zero
  · rcases Nat.lt_or_ge n (2 ^ 53) with below | reached
    · have places : n.log2 < 53 := (Nat.log2_lt positive.ne').mpr below
      have exponent : ((n.log2 : Int) - 52).toNat = 0 := by omega
      have moved : (-((n.log2 : Int) - 52)).toNat = 52 - n.log2 := by omega
      refine ⟨_, _, ofRatio_of_lt positive below k, ?_⟩
      rw [exponent, moved, Nat.pow_zero, Nat.mul_one]
    · obtain rfl : n = 2 ^ 53 := Nat.le_antisymm small reached
      exact ⟨_, _, ofRatio_top k, rfl⟩

theorem ofBinary_isWhole {m n : Nat} {e : Int} (exact : m * 2 ^ e.toNat = n * 2 ^ (-e).toNat) (small : n ≤ 2 ^ 53) :
    IsWhole (ofBinary false m e) n := by
  rw [ofBinary]
  split
  · have exponent : (-e).toNat = 0 := by omega
    rw [exponent, Nat.pow_zero, Nat.mul_one] at exact
    rw [Nat.pow_eq, exact]
    simpa only [Nat.pow_zero, Nat.mul_one] using ofRatio_isWhole small 0
  · have exponent : e.toNat = 0 := by omega
    rw [exponent, Nat.pow_zero, Nat.mul_one] at exact
    rw [Nat.pow_eq, exact]
    exact ofRatio_isWhole small _

theorem ofNat_isWhole {n : Nat} (small : n ≤ 2 ^ 53) : IsWhole (.ofNat n) n := by
  rw [ofNat]
  simpa only [Nat.pow_zero, Nat.mul_one] using ofRatio_isWhole small 0

/-- Digits without a point are read as the number that they denote. -/
theorem ofDecimal_isWhole {n : Nat} (small : n ≤ 2 ^ 53) : IsWhole (ofDecimal false n 0) n := by
  have short : (Nat.toDigits 10 n).length ≤ 16 :=
    (Nat.length_toDigits_le_iff (by decide) (by decide)).mpr (Nat.lt_of_le_of_lt small (by decide))
  have notSmall : ¬((Nat.toDigits 10 n).length : Int) + 0 < -400 := by omega
  have notLarge : ¬400 < ((Nat.toDigits 10 n).length : Int) + 0 := by omega
  rcases Nat.eq_zero_or_pos n with rfl | positive
  · exact .zero
  · simp only [ofDecimal, positive.ne', notSmall, notLarge, decide_false, Bool.or_self, Bool.false_eq_true,
      if_false, Int.le_refl, if_true, Int.toNat_zero, Nat.pow_eq, Nat.pow_zero, Nat.mul_one]
    exact ofNat_isWhole small

namespace IsWhole

variable {x y : Binary64} {a b : Nat}

theorem mul (first : IsWhole x a) (second : IsWhole y b) (small : a * b ≤ 2 ^ 53) : IsWhole (x * y) (a * b) := by
  obtain ⟨m, e, rfl, left⟩ := first
  obtain ⟨n, f, rfl, right⟩ := second
  refine @ofBinary_isWhole (m * n) (a * b) (e + f) ?_ small
  have together : m * n * 2 ^ (e.toNat + f.toNat) = a * b * 2 ^ ((-e).toNat + (-f).toNat) := by
    rw [Nat.pow_add, Nat.pow_add, Nat.mul_mul_mul_comm, left, right, Nat.mul_mul_mul_comm]
  exact (mul_pow_eq_iff (by omega)).mp together

theorem add (first : IsWhole x a) (second : IsWhole y b) (small : a + b ≤ 2 ^ 53) : IsWhole (x + y) (a + b) := by
  obtain ⟨m, e, rfl, left⟩ := first
  obtain ⟨n, f, rfl, right⟩ := second
  have sum : signedAt false m e (min e f) + signedAt false n f (min e f) =
      ((m * 2 ^ (e - min e f).toNat + n * 2 ^ (f - min e f).toNat : Nat) : Int) := rfl
  -- Both summands are brought to the lower exponent.
  have leftLow : m * 2 ^ ((e - min e f).toNat + (min e f).toNat) = a * 2 ^ (-min e f).toNat :=
    (mul_pow_eq_iff (by omega)).mpr left
  have rightLow : n * 2 ^ ((f - min e f).toNat + (min e f).toNat) = b * 2 ^ (-min e f).toNat :=
    (mul_pow_eq_iff (by omega)).mpr right
  have unsigned (s : Nat) : (if (s : Int) = 0 then false && false else decide ((s : Int) < 0)) = false := by
    split
    · rfl
    · exact decide_eq_false (by omega)
  change IsWhole (ofBinary (if _ = 0 then _ else _) _ _) _
  rw [sum, unsigned, Int.natAbs_natCast]
  refine ofBinary_isWhole ?_ small
  rw [Nat.add_mul, Nat.add_mul, Nat.mul_assoc, Nat.mul_assoc, ← Nat.pow_add, ← Nat.pow_add, leftLow, rightLow]

theorem toNatBelow_eq (whole : IsWhole x a) {bound : Nat} (below : a ≤ bound) : x.toNatBelow bound = a := by
  obtain ⟨m, e, rfl, exact⟩ := whole
  rw [toNatBelow, if_neg Bool.false_ne_true]
  split
  · have exponent : (-e).toNat = 0 := by omega
    rw [exponent, Nat.pow_zero, Nat.mul_one] at exact
    rw [Nat.pow_eq, exact, Nat.min_eq_right below]
  · have exponent : e.toNat = 0 := by omega
    rw [exponent, Nat.pow_zero, Nat.mul_one] at exact
    have scale : 0 < 2 ^ (-e).toNat := Nat.two_pow_pos _
    have half : (2 * m + 2 ^ (-e).toNat) / 2 ^ ((-e).toNat + 1) = a := by
      have doubled : a * (2 ^ (-e).toNat * 2) = 2 * (a * 2 ^ (-e).toNat) := by
        rw [← Nat.mul_assoc, Nat.mul_comm]
      rw [exact, Nat.pow_succ]
      apply Nat.div_eq_of_lt_le
      · omega
      · rw [Nat.add_mul a 1, Nat.one_mul]
        omega
    rw [Nat.pow_eq, Nat.pow_eq, half, Nat.min_eq_right below]

end IsWhole

end GatewayRouting.Binary64
