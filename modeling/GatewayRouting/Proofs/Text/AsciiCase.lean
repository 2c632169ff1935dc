import GatewayRouting.Text.Ascii
import GatewayRouting.Text.Split
import Mathlib.Data.List.Forall2

/-!
Lower case changes letters only, so cutting a text at a separator and reading digits do not see it.
-/

set_option autoImplicit false

namespace GatewayRouting.Text

theorem toNat_toLower (c : Char) :
    c.toLower.toNat = if 65 ≤ c.toNat ∧ c.toNat ≤ 90 then c.toNat + 32 else c.toNat := by
  have bounds : (c.val ≥ 'A'.val ∧ c.val ≤ 'Z'.val) ↔ 65 ≤ c.toNat ∧ c.toNat ≤ 90 := by
    simp only [ge_iff_le, UInt32.le_iff_toNat_le]
    rfl
  unfold Char.toLower
  split
  · rename_i upper
    rw [bounds] at upper
    rw [if_pos upper]
    change (c.toNat + 32) % 2 ^ 32 = c.toNat + 32
    omega
  · rename_i other
    rw [bounds] at other
    rw [if_neg other]

theorem toNat_toUpper (c : Char) :
    c.toUpper.toNat = if 97 ≤ c.toNat ∧ c.toNat ≤ 122 then c.toNat - 32 else c.toNat := by
  have bounds : (c.val ≥ 'a'.val ∧ c.val ≤ 'z'.val) ↔ 97 ≤ c.toNat ∧ c.toNat ≤ 122 := by
    simp only [ge_iff_le, UInt32.le_iff_toNat_le]
    rfl
  unfold Char.toUpper
  split
  · rename_i lower
    rw [bounds] at lower
    have shift : ('A'.val - 'a'.val).toNat = 2 ^ 32 - 32 := by decide
    have value : c.val.toNat = c.toNat := rfl
    rw [if_pos lower, Char.toNat, UInt32.toNat_add, shift, value]
    omega
  · rename_i other
    rw [bounds] at other
    rw [if_neg other]

theorem toUpper_eq_toUpper_iff {c d : Char} : c.toUpper = d.toUpper ↔ c.toLower = d.toLower := by
  rw [← Char.toNat_inj, ← Char.toNat_inj, toNat_toUpper, toNat_toUpper, toNat_toLower, toNat_toLower]
  split <;> split <;> split <;> split <;> omega

/-- Upper and lower case tell the same texts apart. -/
theorem upperAscii_eq_iff {a b : String} : upperAscii a = upperAscii b ↔ lowerAscii a = lowerAscii b := by
  rw [upperAscii, upperAscii, lowerAscii, lowerAscii, String.ofList_inj, String.ofList_inj]
  simp only [← List.forall₂_eq_eq_eq, List.forall₂_map_left_iff, List.forall₂_map_right_iff,
    toUpper_eq_toUpper_iff]

@[simp] theorem toLower_toLower (c : Char) : c.toLower.toLower = c.toLower := by
  rw [← Char.toNat_inj, toNat_toLower, toNat_toLower]
  split
  · rw [if_neg (by omega)]
  · rfl

theorem isAlpha_iff (c : Char) :
    c.isAlpha = true ↔ (65 ≤ c.toNat ∧ c.toNat ≤ 90) ∨ (97 ≤ c.toNat ∧ c.toNat ≤ 122) := by
  unfold Char.isAlpha Char.isUpper Char.isLower
  simp only [Bool.or_eq_true, Bool.and_eq_true, decide_eq_true_eq, ge_iff_le, UInt32.le_iff_toNat_le]
  rfl

theorem isDigit_iff (c : Char) : c.isDigit = true ↔ 48 ≤ c.toNat ∧ c.toNat ≤ 57 := by
  simp only [Char.isDigit, Bool.and_eq_true, decide_eq_true_eq, ge_iff_le, UInt32.le_iff_toNat_le]
  rfl

/-- A character that is no letter is the lower case of itself alone. -/
theorem toLower_eq_iff {c s : Char} (symbol : s.isAlpha = false) : c.toLower = s ↔ c = s := by
  have apart := mt (isAlpha_iff s).mpr (by simp [symbol])
  have lowered := toNat_toLower c
  rw [← Char.toNat_inj, ← Char.toNat_inj]
  split at lowered <;> omega

theorem isDigit_toLower (c : Char) : c.toLower.isDigit = c.isDigit := by
  have lowered := toNat_toLower c
  rw [Bool.eq_iff_iff, isDigit_iff, isDigit_iff]
  split at lowered <;> omega

theorem toLower_of_isDigit {c : Char} (digit : c.isDigit = true) : c.toLower = c := by
  have bounds := (isDigit_iff c).mp digit
  rw [← Char.toNat_inj, toNat_toLower, if_neg (by omega)]

theorem splitOnce_map_toLower {s : Char} (symbol : s.isAlpha = false) (cs : List Char) :
    splitOnce s (cs.map Char.toLower) =
      (splitOnce s cs).map fun (before, after) =>
        (before.map Char.toLower, after.map Char.toLower) := by
  induction cs with
  | nil => rfl
  | cons c rest ih =>
    simp only [List.map_cons, splitOnce, toLower_eq_iff symbol]
    by_cases found : c = s
    · simp [found]
    · rw [if_neg found, if_neg found, ih]
      cases splitOnce s rest <;> rfl

theorem splitAll_map_toLower {s : Char} (symbol : s.isAlpha = false) (cs : List Char) :
    splitAll s (cs.map Char.toLower) = (splitAll s cs).map (List.map Char.toLower) := by
  induction cs with
  | nil => rfl
  | cons c rest ih =>
    simp only [List.map_cons, splitAll, toLower_eq_iff symbol, ih]
    split
    · rfl
    · cases splitAll s rest <;> rfl

theorem splitLast_map_toLower {s : Char} (symbol : s.isAlpha = false) (cs : List Char) :
    splitLast s (cs.map Char.toLower) =
      (splitLast s cs).map fun (before, after) =>
        (before.map Char.toLower, after.map Char.toLower) := by
  unfold splitLast
  rw [← List.map_reverse, splitOnce_map_toLower symbol]
  cases splitOnce s cs.reverse <;> simp

theorem all_isDigit_map_toLower (cs : List Char) :
    (cs.map Char.toLower).all Char.isDigit = cs.all Char.isDigit := by
  induction cs with
  | nil => rfl
  | cons c rest ih => simp only [List.map_cons, List.all_cons, isDigit_toLower, ih]

theorem map_toLower_of_digits {cs : List Char} (digits : cs.all Char.isDigit = true) :
    cs.map Char.toLower = cs := by
  induction cs with
  | nil => rfl
  | cons c rest ih =>
    rw [List.all_cons, Bool.and_eq_true] at digits
    rw [List.map_cons, toLower_of_isDigit digits.1, ih digits.2]

/-- A number without the plus sign that may stand before it. -/
def withoutPlus : List Char → List Char
  | '+' :: rest => rest
  | cs => cs

/-- The number below `bound` that a run of digits denotes. -/
def digitsBelow (bound : Nat) (digits : List Char) : Option Nat :=
  if digits.isEmpty || !digits.all Char.isDigit then none
  else if digitsValue digits < bound then some (digitsValue digits)
  else none

theorem withoutPlus_of_unsigned {cs : List Char} (unsigned : ∀ rest, cs = '+' :: rest → False) :
    withoutPlus cs = cs := by
  unfold withoutPlus
  split
  · exact (unsigned _ rfl).elim
  · rfl

theorem naturalBelow_eq (bound : Nat) (cs : List Char) :
    naturalBelow bound cs = digitsBelow bound (withoutPlus cs) := by
  unfold naturalBelow
  dsimp only
  split
  · rfl
  · rename_i unsigned
    rw [withoutPlus_of_unsigned unsigned]
    rfl

theorem withoutPlus_map_toLower (cs : List Char) :
    withoutPlus (cs.map Char.toLower) = (withoutPlus cs).map Char.toLower := by
  cases cs with
  | nil => rfl
  | cons c rest =>
    by_cases plus : c = '+'
    · subst plus
      rfl
    · have lowered : c.toLower ≠ '+' := mt (toLower_eq_iff (by decide)).mp plus
      rw [withoutPlus_of_unsigned (by simp [lowered]), withoutPlus_of_unsigned (by simp [plus])]

theorem digitsBelow_map_toLower (bound : Nat) (digits : List Char) :
    digitsBelow bound (digits.map Char.toLower) = digitsBelow bound digits := by
  unfold digitsBelow
  rw [all_isDigit_map_toLower, List.isEmpty_map]
  cases decimal : digits.all Char.isDigit with
  | false => simp
  | true => rw [map_toLower_of_digits decimal]

theorem naturalBelow_map_toLower (bound : Nat) (cs : List Char) :
    naturalBelow bound (cs.map Char.toLower) = naturalBelow bound cs := by
  rw [naturalBelow_eq, naturalBelow_eq, withoutPlus_map_toLower, digitsBelow_map_toLower]

end GatewayRouting.Text
