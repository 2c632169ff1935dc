import GatewayRouting.Document.Json.Reader
import GatewayRouting.Document.Json.Writer
import GatewayRouting.Proofs.Text.Decimal
import Mathlib.Data.List.TakeDrop
import Mathlib.Data.List.TakeWhile

/-!
Numbers inside a JSON document: what follows a number does not change how it is read, and natural numbers that fit
64 bits are read back.
-/

set_option autoImplicit false

namespace GatewayRouting.Json

/-- No number goes on with this text. -/
def EndsNumber (rest : List Char) : Prop :=
  ∀ c ∈ rest.head?, c.isDigit = false ∧ c ≠ '.' ∧ c ≠ 'e' ∧ c ≠ 'E'

/-- The sign at the front. -/
def readSign (cs : List Char) : Bool × List Char :=
  match cs with
  | '-' :: r => (true, r)
  | _ => (false, cs)

/-- The digits after a point at the front, and whether there is one. -/
def readFraction (cs : List Char) : List Char × Bool × List Char :=
  match cs with
  | '.' :: r => ((spanDigits r).1, true, (spanDigits r).2)
  | _ => ([], false, cs)

/-- A number is read in four stages, each from where the last one stopped. -/
theorem readNumber_eq (cs : List Char) :
    readNumber cs =
      let sign := readSign cs
      let whole := spanDigits sign.2
      let fraction := readFraction whole.2
      if whole.1.isEmpty || (whole.1.head? = some '0' && 1 < whole.1.length) then none
      else if fraction.2.1 && fraction.1.isEmpty then none
      else (readPower fraction.2.2).bind fun power => some (⟨sign.1, whole.1, fraction.1, power.1⟩, power.2) :=
  rfl

variable {rest : List Char}

/-! Each stage passes over the text behind the number. -/

theorem readSign_append {cs : List Char} (filled : cs ≠ []) (rest : List Char) :
    readSign (cs ++ rest) = ((readSign cs).1, (readSign cs).2 ++ rest) := by
  obtain ⟨c, r, rfl⟩ := List.exists_cons_of_ne_nil filled
  rw [List.cons_append]
  unfold readSign
  split <;> split <;> simp_all

theorem spanDigits_eq (cs : List Char) : spanDigits cs = (cs.takeWhile Char.isDigit, cs.dropWhile Char.isDigit) :=
  List.span_eq_takeWhile_dropWhile Char.isDigit cs

theorem spanDigits_append (ends : EndsNumber rest) (cs : List Char) :
    spanDigits (cs ++ rest) = ((spanDigits cs).1, (spanDigits cs).2 ++ rest) := by
  rw [spanDigits_eq, spanDigits_eq]
  induction cs with
  | nil =>
    cases rest with
    | nil => rfl
    | cons c rest =>
      have stops : ¬c.isDigit = true := by simp [(ends c rfl).1]
      rw [List.nil_append, List.takeWhile_cons_of_neg stops, List.dropWhile_cons_of_neg stops]
      rfl
  | cons c cs ih =>
    by_cases digit : c.isDigit = true
    · rw [Prod.mk.injEq] at ih
      rw [List.cons_append, List.takeWhile_cons_of_pos digit, List.dropWhile_cons_of_pos digit,
        List.takeWhile_cons_of_pos digit, List.dropWhile_cons_of_pos digit, ih.1, ih.2]
    · rw [List.cons_append, List.takeWhile_cons_of_neg digit, List.dropWhile_cons_of_neg digit,
        List.takeWhile_cons_of_neg digit, List.dropWhile_cons_of_neg digit, List.cons_append]

theorem readFraction_of_head {cs : List Char} (other : ∀ c ∈ cs.head?, c ≠ '.') :
    readFraction cs = ([], false, cs) := by
  unfold readFraction
  split
  · exact absurd rfl (other '.' rfl)
  · rfl

theorem readFraction_append (ends : EndsNumber rest) (cs : List Char) :
    readFraction (cs ++ rest) = ((readFraction cs).1, (readFraction cs).2.1, (readFraction cs).2.2 ++ rest) := by
  by_cases point : ∃ r, cs = '.' :: r
  · obtain ⟨r, rfl⟩ := point
    rw [List.cons_append]
    simp only [readFraction, spanDigits_append ends]
  · have here : ∀ c ∈ cs.head?, c ≠ '.' := by
      rintro c first rfl
      obtain ⟨r, same⟩ := List.head?_eq_some_iff.mp first
      exact point ⟨r, same⟩
    have there : ∀ c ∈ (cs ++ rest).head?, c ≠ '.' := by
      cases cs with
      | nil => exact fun c first => (ends c first).2.1
      | cons => exact here
    rw [readFraction_of_head here, readFraction_of_head there]

theorem readPower_of_head {cs : List Char} (other : ∀ c ∈ cs.head?, c ≠ 'e' ∧ c ≠ 'E') :
    readPower cs = some (none, cs) := by
  cases cs with
  | nil => rfl
  | cons c cs =>
    obtain ⟨small, large⟩ := other c rfl
    have plain : ¬(decide (c = 'e') || decide (c = 'E')) = true := by simp [small, large]
    exact if_neg plain

/-- The sign of an exponent, if it has one. -/
def readPowerSign (cs : List Char) : Bool × List Char :=
  match cs with
  | '-' :: r => (true, r)
  | '+' :: r => (false, r)
  | _ => (false, cs)

theorem readPower_cons {c : Char} (mark : c = 'e' ∨ c = 'E') (cs : List Char) :
    readPower (c :: cs) =
      let sign := readPowerSign cs
      let digits := spanDigits sign.2
      if digits.1.isEmpty then none else some (some (sign.1, digits.1), digits.2) := by
  have marked : (decide (c = 'e') || decide (c = 'E')) = true := by simpa using mark
  exact if_pos marked

theorem readPowerSign_append {cs : List Char} (filled : cs ≠ []) (rest : List Char) :
    readPowerSign (cs ++ rest) = ((readPowerSign cs).1, (readPowerSign cs).2 ++ rest) := by
  obtain ⟨c, r, rfl⟩ := List.exists_cons_of_ne_nil filled
  rw [List.cons_append]
  unfold readPowerSign
  split <;> split <;> simp_all

theorem readPower_append (ends : EndsNumber rest) {cs left : List Char} {power : Option (Bool × List Char)}
    (read : readPower cs = some (power, left)) : readPower (cs ++ rest) = some (power, left ++ rest) := by
  by_cases marked : ∃ c r, cs = c :: r ∧ (c = 'e' ∨ c = 'E')
  · obtain ⟨c, r, rfl, mark⟩ := marked
    have filled : r ≠ [] := by
      rintro rfl
      rw [readPower_cons mark] at read
      cases read
    rw [readPower_cons mark] at read
    rw [List.cons_append, readPower_cons mark, readPowerSign_append filled]
    simp only [spanDigits_append ends]
    dsimp only at read
    split at read
    · cases read
    · rename_i some
      cases read
      rw [if_neg some]
  · have here : ∀ c ∈ cs.head?, c ≠ 'e' ∧ c ≠ 'E' := by
      intro c first
      obtain ⟨r, same⟩ := List.head?_eq_some_iff.mp first
      exact not_or.mp fun mark => marked ⟨c, r, same, mark⟩
    have there : ∀ c ∈ (cs ++ rest).head?, c ≠ 'e' ∧ c ≠ 'E' := by
      cases cs with
      | nil => exact fun c first => (ends c first).2.2
      | cons => exact here
    rw [readPower_of_head here] at read
    cases read
    exact readPower_of_head there

/-- What stands behind a number is left as it is. -/
theorem readNumber_append (ends : EndsNumber rest) {cs left : List Char} {t : NumberText}
    (read : readNumber cs = some (t, left)) : readNumber (cs ++ rest) = some (t, left ++ rest) := by
  have filled : cs ≠ [] := by
    rintro rfl
    cases read
  rw [readNumber_eq] at read
  rw [readNumber_eq, readSign_append filled]
  simp only [spanDigits_append ends, readFraction_append ends]
  dsimp only at read
  split at read
  · cases read
  · rename_i whole
    rw [if_neg whole]
    split at read
    · cases read
    · rename_i fraction
      rw [if_neg fraction]
      obtain ⟨⟨power, after⟩, powered, same⟩ := Option.bind_eq_some_iff.mp read
      cases same
      rw [readPower_append ends powered]
      rfl

/-- A number begins with a digit or a minus sign. -/
theorem head_of_readNumber {cs left : List Char} {t : NumberText} (read : readNumber cs = some (t, left)) :
    ∃ c r, cs = c :: r ∧ (c.isDigit = true ∨ c = '-') := by
  cases cs with
  | nil => cases read
  | cons c cs =>
    refine ⟨c, cs, rfl, ?_⟩
    by_contra other
    obtain ⟨digit, minus⟩ := not_or.mp other
    have sign : readSign (c :: cs) = (false, c :: cs) := by
      unfold readSign
      split
      · rename_i first
        exact absurd (List.cons.inj first).1 minus
      · rfl
    rw [readNumber_eq, sign] at read
    simp only [spanDigits_eq, List.takeWhile_cons_of_neg digit] at read
    cases read

/-- A double whose text is, up to its end, read as that same double. -/
def IsExact (x : Binary64) : Prop :=
  ∃ text number, x.written = some text ∧ readNumber text.toList = some (number, []) ∧ number.value = .float x

/-! Natural numbers. -/

theorem readNumber_toString (n : Nat) :
    readNumber (toString n).toList = some (⟨false, (toString n).toList, [], none⟩, []) := by
  have digits := Text.isDigits_toString n
  have sign : readSign (toString n).toList = (false, (toString n).toList) := by
    unfold readSign
    split
    · rename_i r first
      exact absurd (first ▸ List.mem_cons_self) (Text.not_mem_decimal (by decide) n)
    · rfl
  have whole : spanDigits (toString n).toList = ((toString n).toList, []) := by
    rw [spanDigits_eq, List.takeWhile_eq_self_iff.mpr digits.2, List.dropWhile_eq_nil_iff.mpr digits.2]
  have wellFormed : ((toString n).toList.isEmpty ||
      (decide ((toString n).toList.head? = some '0') && decide (1 < (toString n).toList.length))) = false := by
    by_cases zero : n = 0
    · subst zero
      decide
    · have leading := Text.head?_toString_ne_zero (Nat.pos_of_ne_zero zero)
      rw [decide_eq_false leading, Bool.false_and, Bool.or_false]
      exact List.isEmpty_eq_false_iff.mpr digits.1
  rw [readNumber_eq, sign]
  simp only [whole, wellFormed]
  rfl

theorem le_foldl_digits (cs : List Char) (n : Nat) : n ≤ cs.foldl (fun n c => 10 * n + Text.digitValue c) n := by
  induction cs generalizing n with
  | nil => exact Nat.le_refl n
  | cons c cs ih =>
    have later := ih (10 * n + Text.digitValue c)
    rw [List.foldl_cons]
    omega

/-- Digits of a number that fits are all appended. -/
theorem appendDigits_of_lt {cs : List Char} {n : Nat}
    (fits : cs.foldl (fun n c => 10 * n + Text.digitValue c) n < wordBound) :
    appendDigits n cs = (cs.foldl (fun n c => 10 * n + Text.digitValue c) n, []) := by
  induction cs generalizing n with
  | nil => rfl
  | cons c cs ih =>
    have least := le_foldl_digits cs (10 * n + Text.digitValue c)
    rw [List.foldl_cons] at fits ⊢
    rw [appendDigits, if_pos (Nat.lt_of_le_of_lt least fits), ih fits]

theorem value_of_natural {n : Nat} (fits : n < wordBound) :
    NumberText.value ⟨false, (toString n).toList, [], none⟩ = .int n := by
  have all : appendDigits 0 (toString n).toList = (n, []) := by
    have value : (toString n).toList.foldl (fun n c => 10 * n + Text.digitValue c) 0 = n :=
      Text.digitsValue_toString n
    have small : (toString n).toList.foldl (fun n c => 10 * n + Text.digitValue c) 0 < wordBound := by
      rw [value]
      exact fits
    rw [appendDigits_of_lt small, value]
  rw [NumberText.value, all]
  rfl

end GatewayRouting.Json
