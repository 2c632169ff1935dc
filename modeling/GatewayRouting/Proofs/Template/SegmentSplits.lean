import GatewayRouting.Proofs.Template.PathWays
import Mathlib.Data.List.Chain

/-!
Where a slash follows every placeholder but the last one, a text splits along the tokens in one way only.
-/

set_option autoImplicit false

namespace GatewayRouting

theorem takeWhile_append_of_separator {separator : Char} {front rest : List Char}
    (absent : separator ∉ front) (stop : rest = [] ∨ rest.head? = some separator) :
    (front ++ rest).takeWhile (· != separator) = front := by
  have inside : ∀ c ∈ front, (c != separator) = true := by
    intro c member
    exact bne_iff_ne.mpr (ne_of_mem_of_not_mem member absent)
  have ends : rest.takeWhile (· != separator) = [] := by
    rcases stop with rfl | first
    · rfl
    · obtain ⟨others, rfl⟩ := List.head?_eq_some_iff.mp first
      exact List.takeWhile_cons_of_neg (by simp)
  rw [List.takeWhile_append_of_pos inside, ends, List.append_nil]

/-- A text is told apart from what follows it by the separator that it does not hold. -/
theorem append_inj_of_separator {separator : Char} {front other rest more : List Char}
    (absent : separator ∉ front) (absentToo : separator ∉ other)
    (stop : rest = [] ∨ rest.head? = some separator) (stopToo : more = [] ∨ more.head? = some separator)
    (same : front ++ rest = other ++ more) : front = other ∧ rest = more := by
  obtain rfl : front = other := by
    rw [← takeWhile_append_of_separator absent stop, same,
      takeWhile_append_of_separator absentToo stopToo]
  exact ⟨rfl, List.append_cancel_left same⟩

/-- A placeholder may only be followed by a slash. -/
def Token.MayPrecede : Token → Token → Prop
  | .literal _, _ => True
  | .placeholder _, .literal text => UpstreamTemplate.startsWithSlash text = true
  | .placeholder _, .placeholder _ => False

instance (a b : Token) : Decidable (a.MayPrecede b) := by
  unfold Token.MayPrecede
  split <;> infer_instance

namespace UpstreamTemplate

variable {caseSensitive : Bool} {path : List Char} {values others : List (List Char)}

/-- The last placeholder takes what the literal leaves, or nothing where the slash before it is missing. -/
theorem splits_tail_cases {text : List Char} {name : String}
    (splits : Splits caseSensitive [.literal text, .placeholder name] path values) :
    (∃ part value, path = part ++ value ∧ part.length = text.length ∧ values = [value]) ∨
    (path.length < text.length ∧ values = [[]]) := by
  cases splits with
  | literal same rest =>
    cases rest with
    | placeholder more _ _ _ => exact absurd rfl more
    | lastPlaceholder _ => exact Or.inl ⟨_, _, rfl, same.length_eq.symm, rfl⟩
  | missingSlashOfTail final same =>
    have whole := congrArg List.length (dropLast_append_slash final)
    rw [List.length_append, List.length_singleton, same.length_eq] at whole
    exact Or.inr ⟨by omega, rfl⟩

theorem splits_tail_unique {text : List Char} {name : String}
    (splits : Splits caseSensitive [.literal text, .placeholder name] path values)
    (again : Splits caseSensitive [.literal text, .placeholder name] path others) : values = others := by
  rcases splits_tail_cases splits with ⟨part, value, rfl, size, rfl⟩ | ⟨short, rfl⟩
  · rcases splits_tail_cases again with ⟨part', value', same, size', rfl⟩ | ⟨short, rfl⟩
    · rw [(List.append_inj same (size.trans size'.symm)).2]
    · rw [List.length_append] at short
      omega
  · rcases splits_tail_cases again with ⟨part', value', rfl, size', rfl⟩ | ⟨_, rfl⟩
    · rw [List.length_append] at short
      omega
    · rfl

/-- What follows a placeholder that is not the last one starts with a slash, as far as it is there. -/
theorem head?_of_mayPrecede {name : String} {tokens : List Token} (more : tokens ≠ [])
    (segments : (Token.placeholder name :: tokens).IsChain Token.MayPrecede)
    (splits : Splits caseSensitive tokens path values) : path = [] ∨ path.head? = some '/' := by
  cases tokens with
  | nil => exact absurd rfl more
  | cons token rest =>
    have follows := (List.isChain_cons_cons.mp segments).1
    cases token with
    | literal text => exact splits.head?_of_startsWithSlash follows
    | placeholder _ => cases follows

/-- Two splits of one text give the placeholders the same values. -/
theorem Splits.unique {tokens : List Token} (segments : tokens.IsChain Token.MayPrecede)
    (splits : Splits caseSensitive tokens path values)
    (again : Splits caseSensitive tokens path others) : values = others := by
  induction tokens generalizing path values others with
  | nil =>
    cases splits
    cases again
    rfl
  | cons token rest ih =>
    have later := segments.tail
    cases token with
    | literal text =>
      by_cases last : rest = []
      · subst last
        rw [List.eq_nil_of_length_eq_zero splits.length_values,
          List.eq_nil_of_length_eq_zero again.length_values]
      by_cases tail : ∃ name, rest = [.placeholder name]
      · obtain ⟨name, rfl⟩ := tail
        exact splits_tail_unique splits again
      · have notTail : ∀ name, rest ≠ [.placeholder name] := fun name same => tail ⟨name, same⟩
        obtain ⟨part, after, rfl, same, below⟩ := (splits_literal_iff last notTail).mp splits
        obtain ⟨part', after', whole, same', below'⟩ := (splits_literal_iff last notTail).mp again
        obtain ⟨rfl, rfl⟩ := List.append_inj whole (same.length_eq.symm.trans same'.length_eq)
        exact ih later below below'
    | placeholder name =>
      by_cases last : rest = []
      · subst last
        cases splits with
        | placeholder more _ _ _ => exact absurd rfl more
        | lastPlaceholder _ =>
          cases again with
          | placeholder more _ _ _ => exact absurd rfl more
          | lastPlaceholder _ => rfl
      · obtain ⟨value, after, values, rfl, ⟨_, absent⟩, below, rfl⟩ :=
          (splits_placeholder_iff last).mp splits
        obtain ⟨value', after', others, whole, ⟨_, absent'⟩, below', rfl⟩ :=
          (splits_placeholder_iff last).mp again
        have stop := head?_of_mayPrecede last segments below
        have stop' := head?_of_mayPrecede last segments below'
        obtain ⟨rfl, rfl⟩ := append_inj_of_separator absent absent' stop stop' whole
        rw [ih later below below']

end UpstreamTemplate

end GatewayRouting
