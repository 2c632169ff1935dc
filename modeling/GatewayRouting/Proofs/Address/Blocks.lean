import GatewayRouting.Address.Ip
import Mathlib.Algebra.Ring.Nat

/-!
Blocks of IPv4 addresses: those that agree in their first bits. A block has a first and a last address, and it
is all that lies between them.
-/

set_option autoImplicit false

namespace GatewayRouting

namespace Ipv4

variable {x y first last : Ipv4} {bits : Nat}

/-- The two addresses have the same first bits. -/
def AgreeOn (bits : Nat) (x y : Ipv4) : Prop := ∀ i < bits, x.getMsbD i = y.getMsbD i

/-- The first and the last of the addresses that agree with one in the first bits. -/
structure Bounds (x : Ipv4) (bits : Nat) (first last : Ipv4) : Prop where
  first_agrees : AgreeOn bits x first
  last_agrees : AgreeOn bits x last
  first_le : ∀ y, AgreeOn bits x y → first ≤ y
  le_last : ∀ y, AgreeOn bits x y → y ≤ last

theorem agreeOn_iff_shift (few : bits ≤ 32) : AgreeOn bits x y ↔ x >>> (32 - bits) = y >>> (32 - bits) := by
  constructor
  · intro agree
    apply BitVec.eq_of_getMsbD_eq
    intro i _
    rw [BitVec.getMsbD_ushiftRight, BitVec.getMsbD_ushiftRight]
    by_cases within : i < 32 - bits
    · rw [decide_eq_true within]
      rfl
    · rw [agree (i - (32 - bits)) (by omega)]
  · intro same i below
    have moved := congrArg (BitVec.getMsbD · (i + (32 - bits))) same
    have inside : i + (32 - bits) < 32 := by omega
    have behind : ¬i + (32 - bits) < 32 - bits := by omega
    simpa [BitVec.getMsbD_ushiftRight, inside, behind] using moved

/-- The addresses of a block have the same number, counted in blocks. -/
theorem agreeOn_iff_div (few : bits ≤ 32) :
    AgreeOn bits x y ↔ x.toNat / 2 ^ (32 - bits) = y.toNat / 2 ^ (32 - bits) := by
  rw [agreeOn_iff_shift few, ← BitVec.toNat_inj, BitVec.toNat_ushiftRight, BitVec.toNat_ushiftRight,
    Nat.shiftRight_eq_div_pow, Nat.shiftRight_eq_div_pow]

theorem Bounds.agreeOn_iff (few : bits ≤ 32) (bounds : Bounds x bits first last) :
    AgreeOn bits x y ↔ first ≤ y ∧ y ≤ last := by
  constructor
  · intro agree
    exact ⟨bounds.first_le y agree, bounds.le_last y agree⟩
  · rintro ⟨fromFirst, upToLast⟩
    have lowest := (agreeOn_iff_div few).mp bounds.first_agrees
    have highest := (agreeOn_iff_div few).mp bounds.last_agrees
    have lower := Nat.div_le_div_right (c := 2 ^ (32 - bits)) (BitVec.le_def.mp fromFirst)
    have upper := Nat.div_le_div_right (c := 2 ^ (32 - bits)) (BitVec.le_def.mp upToLast)
    rw [agreeOn_iff_div few]
    omega

theorem exists_toNat_eq {n : Nat} (below : n < 2 ^ 32) : ∃ x : Ipv4, x.toNat = n := by
  refine ⟨BitVec.ofNat 32 n, ?_⟩
  rw [BitVec.toNat_ofNat, Nat.mod_eq_of_lt below]

theorem exists_bounds (x : Ipv4) (few : bits ≤ 32) : ∃ first last, Bounds x bits first last := by
  have positive : 0 < 2 ^ (32 - bits) := Nat.two_pow_pos _
  have whole : 2 ^ bits * 2 ^ (32 - bits) = 2 ^ 32 := by
    rw [← Nat.pow_add]
    congr 1
    omega
  have number : x.toNat / 2 ^ (32 - bits) < 2 ^ bits := by
    rw [Nat.div_lt_iff_lt_mul positive, whole]
    exact x.isLt
  -- The block after this one begins at the end of all addresses at the latest.
  have next := Nat.mul_le_mul_right (2 ^ (32 - bits)) (Nat.succ_le_of_lt number)
  rw [whole, Nat.succ_mul] at next
  obtain ⟨first, low⟩ := exists_toNat_eq (n := x.toNat / 2 ^ (32 - bits) * 2 ^ (32 - bits)) (by omega)
  obtain ⟨last, high⟩ := exists_toNat_eq
    (n := x.toNat / 2 ^ (32 - bits) * 2 ^ (32 - bits) + 2 ^ (32 - bits) - 1) (by omega)
  have agreeOn_iff (y : Ipv4) : AgreeOn bits x y ↔ first.toNat ≤ y.toNat ∧ y.toNat ≤ last.toNat := by
    rw [agreeOn_iff_div few, eq_comm, Nat.div_eq_iff positive, low, high]
  have ordered : first.toNat ≤ last.toNat := by
    rw [low, high]
    omega
  exact ⟨first, last, {
    first_agrees := (agreeOn_iff first).mpr ⟨Nat.le_refl _, ordered⟩
    last_agrees := (agreeOn_iff last).mpr ⟨ordered, Nat.le_refl _⟩
    first_le := fun y agree => BitVec.le_def.mpr ((agreeOn_iff y).mp agree).1
    le_last := fun y agree => BitVec.le_def.mpr ((agreeOn_iff y).mp agree).2 }⟩

/-- With all bits the block is the address alone. -/
theorem bounds_self (x : Ipv4) : Bounds x 32 x x := by
  have alone {y : Ipv4} (agree : AgreeOn 32 x y) : x = y := BitVec.eq_of_getMsbD_eq agree
  exact {
    first_agrees := fun _ _ => rfl
    last_agrees := fun _ _ => rfl
    first_le := fun y agree => BitVec.le_def.mpr (by rw [alone agree])
    le_last := fun y agree => BitVec.le_def.mpr (by rw [alone agree]) }

end Ipv4

end GatewayRouting
