import GatewayRouting.Proofs.Text.AsciiCase
import Mathlib.Data.List.Basic

/-!
Numbers written in decimal. The text of a number holds digits only, and reading it gives the number back.
-/

set_option autoImplicit false

namespace GatewayRouting.Text

/-- One digit or more, and nothing else. -/
def IsDigits (cs : List Char) : Prop := cs ≠ [] ∧ ∀ c ∈ cs, c.isDigit = true

instance (cs : List Char) : Decidable (IsDigits cs) :=
  decidable_of_iff (cs ≠ [] ∧ cs.all Char.isDigit = true) (by rw [IsDigits, List.all_eq_true])

theorem toList_toString (n : Nat) : (toString n).toList = Nat.toDigits 10 n := by
  rw [Nat.toString_eq_repr, Nat.toList_repr]

theorem isDigit_of_mem_decimal {n : Nat} {c : Char} (inside : c ∈ (toString n).toList) :
    c.isDigit = true := by
  rw [toList_toString] at inside
  exact Nat.isDigit_of_mem_toDigits (by decide) (by decide) inside

/-- A character that is no digit does not occur in a number. -/
theorem not_mem_decimal {s : Char} (other : s.isDigit = false) (n : Nat) : s ∉ (toString n).toList := by
  intro inside
  have digit := isDigit_of_mem_decimal inside
  rw [other] at digit
  cases digit

theorem toString_ne_empty (n : Nat) : (toString n).toList ≠ [] := by
  rw [toList_toString]
  exact Nat.toDigits_ne_nil

theorem isDigits_toString (n : Nat) : IsDigits (toString n).toList :=
  ⟨toString_ne_empty n, fun _ => isDigit_of_mem_decimal⟩

/-- A number other than zero begins with another digit. -/
theorem head?_toString_ne_zero {n : Nat} (positive : 0 < n) : (toString n).toList.head? ≠ some '0' := by
  rw [toList_toString]
  induction n using Nat.strongRecOn with
  | ind n ih =>
    by_cases single : n < 10
    · rw [Nat.toDigits_of_lt_base single, List.head?_cons, ne_eq, Option.some.injEq, Nat.digitChar_eq_zero]
      omega
    · have front : (Nat.toDigits 10 (n / 10)).head? ≠ some '0' := ih (n / 10) (by omega) (by omega)
      rwa [Nat.toDigits_of_base_le (by decide) (by omega), List.head?_append_of_ne_nil _ Nat.toDigits_ne_nil]

theorem digitsValue_toString (n : Nat) : digitsValue (toString n).toList = n := by
  have value := Nat.ofDigitChars_ten_toDigits (n := n)
  rw [Nat.ofDigitChars_eq_foldl] at value
  rw [toList_toString]
  exact value

theorem toString_nat_inj {m n : Nat} : (toString m).toList = (toString n).toList ↔ m = n := by
  constructor
  · intro same
    rw [← digitsValue_toString m, same, digitsValue_toString]
  · exact fun same => congrArg (fun k => (toString k).toList) same

theorem digitsBelow_eq_some_iff {bound n : Nat} {digits : List Char} :
    digitsBelow bound digits = some n ↔ IsDigits digits ∧ digitsValue digits = n ∧ n < bound := by
  by_cases digital : IsDigits digits
  · have passed : (digits.isEmpty || !digits.all Char.isDigit) = false := by
      rw [List.all_eq_true.mpr digital.2]
      simpa using digital.1
    rw [digitsBelow, passed, if_neg Bool.false_ne_true]
    by_cases below : digitsValue digits < bound
    · rw [if_pos below, Option.some.injEq]
      constructor
      · rintro rfl
        exact ⟨digital, rfl, below⟩
      · exact fun known => known.2.1
    · rw [if_neg below]
      refine iff_of_false (fun none => nomatch none) ?_
      rintro ⟨_, rfl, there⟩
      exact below there
  · have stopped : (digits.isEmpty || !digits.all Char.isDigit) = true := by
      rw [Bool.or_eq_true, List.isEmpty_iff, Bool.not_eq_true']
      by_contra kept
      rw [not_or, Bool.not_eq_false, List.all_eq_true] at kept
      exact digital kept
    rw [digitsBelow, stopped, if_pos rfl]
    exact iff_of_false (fun none => nomatch none) fun known => digital known.1

theorem withoutPlus_of_isDigits {digits : List Char} (digital : IsDigits digits) : withoutPlus digits = digits := by
  apply withoutPlus_of_unsigned
  rintro rest rfl
  have digit := digital.2 '+' List.mem_cons_self
  revert digit
  decide

/-- What is read as a number: digits, perhaps after a plus sign, that denote one below the bound. -/
theorem naturalBelow_eq_some_iff {bound n : Nat} {cs : List Char} :
    naturalBelow bound cs = some n ↔
      ∃ digits, (cs = digits ∨ cs = '+' :: digits) ∧ IsDigits digits ∧ digitsValue digits = n ∧ n < bound := by
  rw [naturalBelow_eq, digitsBelow_eq_some_iff]
  constructor
  · intro known
    refine ⟨withoutPlus cs, ?_, known⟩
    unfold withoutPlus
    split
    · exact Or.inr rfl
    · exact Or.inl rfl
  · rintro ⟨digits, rfl | rfl, known⟩
    · rwa [withoutPlus_of_isDigits known.1]
    · exact known

/-- A number below the bound is read as what it is. -/
theorem naturalBelow_toString {bound n : Nat} (below : n < bound) :
    naturalBelow bound (toString n).toList = some n :=
  naturalBelow_eq_some_iff.mpr ⟨_, Or.inl rfl, isDigits_toString n, digitsValue_toString n, below⟩

/-- Only a sign may stand beside the digits. -/
theorem naturalBelow_eq_none {bound : Nat} {cs : List Char} {s : Char} (inside : s ∈ cs)
    (other : s.isDigit = false) (unsigned : s ≠ '+') : naturalBelow bound cs = none := by
  have spoiled {digits : List Char} (left : s ∈ digits) : digits.all Char.isDigit = false :=
    List.all_eq_false.mpr ⟨s, left, by simp [other]⟩
  unfold naturalBelow
  dsimp only
  split
  · rename_i rest
    have left := List.mem_of_ne_of_mem unsigned inside
    simp [spoiled left]
  · simp [spoiled inside]

end GatewayRouting.Text
