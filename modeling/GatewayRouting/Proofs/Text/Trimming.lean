import GatewayRouting.Text.Blank
import Mathlib.Data.List.Basic
import Mathlib.Data.List.TakeWhile

/-!
What trimming keeps: every character that is no blank, and a text without blanks as a whole.
-/

set_option autoImplicit false

namespace GatewayRouting.Text

theorem mem_dropWhile_of_kept {α : Type} {p : α → Bool} {a : α} {items : List α} (inside : a ∈ items)
    (kept : p a = false) : a ∈ items.dropWhile p := by
  induction items with
  | nil => cases inside
  | cons first rest ih =>
    by_cases dropped : p first = true
    · have other : a ≠ first := by
        rintro rfl
        rw [kept] at dropped
        cases dropped
      rw [List.dropWhile_cons_of_pos dropped]
      exact ih (List.mem_of_ne_of_mem other inside)
    · rwa [List.dropWhile_cons_of_neg dropped]

/-- Only blanks are cut off. -/
theorem mem_trim_of_notBlank {c : Char} {cs : List Char} (inside : c ∈ cs) (seen : isBlank c = false) :
    c ∈ trim cs := by
  have front : c ∈ trimStart cs := mem_dropWhile_of_kept inside seen
  rw [trim, trimEnd, List.mem_reverse]
  exact mem_dropWhile_of_kept (List.mem_reverse.mpr front) seen

theorem dropWhile_eq_self_of_head {α : Type} {p : α → Bool} {items : List α}
    (kept : ∀ a ∈ items.head?, p a = false) : items.dropWhile p = items := by
  cases items with
  | nil => rfl
  | cons first rest =>
    have stops : ¬p first = true := by simp [kept first rfl]
    exact List.dropWhile_cons_of_neg stops

/-- A text that begins and ends with no blank is trimmed already. -/
theorem trim_eq_self {cs : List Char} (first : ∀ c ∈ cs.head?, isBlank c = false)
    (last : ∀ c ∈ cs.getLast?, isBlank c = false) : trim cs = cs := by
  have front : trimStart cs = cs := dropWhile_eq_self_of_head first
  rw [trim, front, trimEnd, dropWhile_eq_self_of_head, List.reverse_reverse]
  rwa [List.head?_reverse]

theorem trim_eq_self_of_notBlank {cs : List Char} (seen : ∀ c ∈ cs, isBlank c = false) : trim cs = cs :=
  trim_eq_self (fun c first => seen c (List.mem_of_mem_head? first))
    fun c last => seen c (List.mem_of_mem_getLast? last)

/-- A text with any blanks before and after it. -/
def Padded (text padded : List Char) : Prop :=
  ∃ before after, padded = before ++ text ++ after ∧ ∀ c ∈ before ++ after, isBlank c = true

theorem Padded.mem_of_notBlank {text padded : List Char} (around : Padded text padded) {c : Char}
    (inside : c ∈ padded) (seen : isBlank c = false) : c ∈ text := by
  obtain ⟨before, after, rfl, blank⟩ := around
  have kept : c ∉ before ++ after := by
    intro dropped
    rw [blank c dropped] at seen
    cases seen
  rw [List.mem_append, not_or] at kept
  rw [List.mem_append, List.mem_append] at inside
  exact (inside.resolve_right kept.2).resolve_left kept.1

/-- The blanks are all that is cut off a text that begins and ends with none. -/
theorem Padded.trim_eq {text padded : List Char} (around : Padded text padded) (filled : text ≠ [])
    (first : ∀ c ∈ text.head?, isBlank c = false) (last : ∀ c ∈ text.getLast?, isBlank c = false) :
    trim padded = text := by
  obtain ⟨before, after, rfl, blank⟩ := around
  have front : trimStart (before ++ text ++ after) = text ++ after := by
    rw [List.append_assoc, trimStart, List.dropWhile_append_of_pos
      fun c inside => blank c (List.mem_append_left after inside)]
    apply dropWhile_eq_self_of_head
    rwa [List.head?_append_of_ne_nil text filled]
  have back : (text ++ after).reverse.dropWhile isBlank = text.reverse := by
    rw [List.reverse_append, List.dropWhile_append_of_pos fun c inside =>
      blank c (List.mem_append_right before (List.mem_reverse.mp inside))]
    apply dropWhile_eq_self_of_head
    rwa [List.head?_reverse]
  rw [trim, front, trimEnd, back, List.reverse_reverse]

theorem isBlank_of_isDigit {c : Char} (digit : c.isDigit = true) : isBlank c = false := by
  simp only [Char.isDigit, Bool.and_eq_true, decide_eq_true_eq, ge_iff_le, UInt32.le_iff_toNat_le] at digit
  obtain ⟨low, high⟩ := digit
  change 48 ≤ c.toNat at low
  change c.toNat ≤ 57 at high
  have apart : ∀ range ∈ blankRanges, range.2 < 48 ∨ 57 < range.1 := by decide
  rw [isBlank, List.any_eq_false]
  rintro ⟨first, last⟩ listed
  have beside := apart _ listed
  rw [Bool.and_eq_true, decide_eq_true_eq, decide_eq_true_eq]
  omega

end GatewayRouting.Text
