import GatewayRouting.Proofs.Text.SameText
import GatewayRouting.Template.Pattern
import Mathlib.Data.List.Infix
import Mathlib.Data.List.Nodup

/-!
What a piece can take from the front of a text, said of the text taken instead of its length.
-/

set_option autoImplicit false

namespace GatewayRouting.Piece

/-- The texts that a piece takes. -/
def Matches (caseSensitive : Bool) : Piece → List Char → Prop
  | literal text, taken => Text.SameText caseSensitive text taken
  | slash, taken => taken = [] ∨ taken = ['/']
  | segment, taken => taken ≠ [] ∧ '/' ∉ taken
  | shortSegment, taken => taken ≠ [] ∧ '/' ∉ taken
  | anything, taken => '\n' ∉ taken
  | something, taken => taken ≠ [] ∧ '\n' ∉ taken
  | optionalTail, taken => taken = [] ∨ ∃ value, taken = '/' :: value ∧ '\n' ∉ value

theorem isAtFront_iff {caseSensitive : Bool} {text cs : List Char} :
    isAtFront caseSensitive text cs = true ↔
      text.length ≤ cs.length ∧ (literal text).Matches caseSensitive (cs.take text.length) := by
  induction text generalizing cs with
  | nil => simp [isAtFront, Matches, Text.SameText]
  | cons l ls ih =>
    cases cs with
    | nil => simp [isAtFront]
    | cons c cs =>
      simp only [isAtFront, Bool.and_eq_true, ih, Matches, Text.SameText, List.length_cons,
        List.take_succ_cons, List.forall₂_cons, Nat.add_le_add_iff_right]
      tauto

theorem le_run_iff {ok : Char → Bool} {cs : List Char} {k : Nat} :
    k ≤ run ok cs ↔ k ≤ cs.length ∧ ∀ c ∈ cs.take k, ok c = true := by
  induction cs generalizing k with
  | nil => simp [run]
  | cons c cs ih =>
    cases k with
    | zero => simp
    | succ k =>
      by_cases good : ok c = true
      · have longer : run ok (c :: cs) = run ok cs + 1 := by simp [run, good]
        rw [longer, Nat.add_le_add_iff_right, ih]
        simp [good]
      · have none : run ok (c :: cs) = 0 := by simp [run, good]
        simp [none, good]

theorem mem_downFrom {n k : Nat} : k ∈ downFrom n ↔ k ≤ n := by
  simp only [downFrom, List.mem_reverse, List.mem_range]
  omega

theorem downFrom_dropLast (n : Nat) : (downFrom n).dropLast = ((List.range n).map (· + 1)).reverse := by
  rw [downFrom, List.range_succ_eq_map, List.reverse_cons, List.dropLast_concat]

theorem mem_downFrom_dropLast {n k : Nat} : k ∈ (downFrom n).dropLast ↔ 0 < k ∧ k ≤ n := by
  rw [downFrom_dropLast, List.mem_reverse, List.mem_map]
  simp only [List.mem_range]
  constructor
  · rintro ⟨i, below, rfl⟩
    omega
  · rintro ⟨positive, bound⟩
    exact ⟨k - 1, by omega, by omega⟩

theorem forall_bne_iff {separator : Char} {cs : List Char} :
    (∀ c ∈ cs, (c != separator) = true) ↔ separator ∉ cs := by
  simp only [bne_iff_ne, ne_eq]
  constructor
  · intro all inside
    exact all separator inside rfl
  · rintro absent c inside rfl
    exact absent inside

theorem forall_notSlash_iff {cs : List Char} : (∀ c ∈ cs, notSlash c = true) ↔ '/' ∉ cs :=
  forall_bne_iff

theorem forall_notNewline_iff {cs : List Char} : (∀ c ∈ cs, notNewline c = true) ↔ '\n' ∉ cs :=
  forall_bne_iff

theorem pos_and_le_run_iff {ok : Char → Bool} {cs : List Char} {k : Nat} :
    (0 < k ∧ k ≤ run ok cs) ↔ k ≤ cs.length ∧ cs.take k ≠ [] ∧ ∀ c ∈ cs.take k, ok c = true := by
  rw [le_run_iff]
  constructor
  · rintro ⟨positive, bound, all⟩
    refine ⟨bound, ?_, all⟩
    rw [← List.length_pos_iff, List.length_take]
    omega
  · rintro ⟨bound, taken, all⟩
    refine ⟨?_, bound, all⟩
    rw [← List.length_pos_iff, List.length_take] at taken
    omega

theorem mem_lengths_literal {caseSensitive : Bool} {text cs : List Char} {k : Nat} :
    k ∈ (literal text).lengths caseSensitive cs ↔
      k ≤ cs.length ∧ (literal text).Matches caseSensitive (cs.take k) := by
  have listed : k ∈ (literal text).lengths caseSensitive cs ↔
      isAtFront caseSensitive text cs = true ∧ k = text.length := by
    rw [lengths]
    split
    · rename_i front
      simp [front]
    · rename_i front
      simp [front]
  rw [listed, isAtFront_iff]
  constructor
  · rintro ⟨⟨bound, same⟩, rfl⟩
    exact ⟨bound, same⟩
  · rintro ⟨bound, same⟩
    have sizes := List.Forall₂.length_eq same
    rw [List.length_take, Nat.min_eq_left bound] at sizes
    subst sizes
    exact ⟨⟨bound, same⟩, rfl⟩

theorem mem_lengths_slash {caseSensitive : Bool} {cs : List Char} {k : Nat} :
    k ∈ slash.lengths caseSensitive cs ↔
      k ≤ cs.length ∧ slash.Matches caseSensitive (cs.take k) := by
  cases cs with
  | nil => simp [lengths, Matches]
  | cons c rest =>
    cases k with
    | zero => by_cases found : c = '/' <;> simp [lengths, Matches, found]
    | succ k => by_cases found : c = '/' <;> cases k <;> cases rest <;> simp [lengths, Matches, found]

theorem mem_lengths_optionalTail {caseSensitive : Bool} {cs : List Char} {k : Nat} :
    k ∈ optionalTail.lengths caseSensitive cs ↔
      k ≤ cs.length ∧ optionalTail.Matches caseSensitive (cs.take k) := by
  cases k with
  | zero => simp [lengths, Matches]
  | succ k =>
    cases cs with
    | nil => simp [lengths]
    | cons c rest =>
      by_cases found : c = '/'
      · subst found
        simp [lengths, Matches, mem_downFrom, le_run_iff, forall_notNewline_iff]
      · simp [lengths, Matches, found]

/-- A piece takes a number of characters exactly when it takes the text they form. -/
theorem mem_lengths_iff {caseSensitive : Bool} {p : Piece} {cs : List Char} {k : Nat} :
    k ∈ p.lengths caseSensitive cs ↔ k ≤ cs.length ∧ p.Matches caseSensitive (cs.take k) := by
  cases p with
  | literal text => exact mem_lengths_literal
  | slash => exact mem_lengths_slash
  | segment =>
    rw [lengths, mem_downFrom_dropLast, pos_and_le_run_iff, forall_notSlash_iff, Matches]
  | shortSegment =>
    have listed : k ∈ (List.range (run notSlash cs)).map (· + 1) ↔ 0 < k ∧ k ≤ run notSlash cs := by
      rw [← mem_downFrom_dropLast, downFrom_dropLast, List.mem_reverse]
    rw [lengths, listed, pos_and_le_run_iff, forall_notSlash_iff, Matches]
  | anything => rw [lengths, mem_downFrom, le_run_iff, forall_notNewline_iff, Matches]
  | something =>
    rw [lengths, mem_downFrom_dropLast, pos_and_le_run_iff, forall_notNewline_iff, Matches]
  | optionalTail => exact mem_lengths_optionalTail

theorem length_le_of_mem {caseSensitive : Bool} {p : Piece} {cs : List Char} {k : Nat}
    (listed : k ∈ p.lengths caseSensitive cs) : k ≤ cs.length :=
  (mem_lengths_iff.mp listed).1

theorem length_of_mem_literal {caseSensitive : Bool} {text cs : List Char} {k : Nat}
    (listed : k ∈ (literal text).lengths caseSensitive cs) : k = text.length := by
  rw [lengths] at listed
  split at listed
  · exact List.mem_singleton.mp listed
  · cases listed

theorem ascending_map_succ_range (n : Nat) : ((List.range n).map (· + 1)).Pairwise (· < ·) := by
  rw [List.pairwise_map]
  exact List.pairwise_lt_range.imp (fun below => Nat.succ_lt_succ below)

theorem descending_downFrom_dropLast (n : Nat) : (downFrom n).dropLast.Pairwise (· > ·) := by
  rw [downFrom_dropLast, List.pairwise_reverse]
  exact ascending_map_succ_range n

theorem downFrom_nodup (n : Nat) : (downFrom n).Nodup := by
  rw [downFrom, List.nodup_reverse]
  exact List.nodup_range

/-- No number is tried twice. -/
theorem lengths_nodup (caseSensitive : Bool) (p : Piece) (cs : List Char) :
    (p.lengths caseSensitive cs).Nodup := by
  cases p with
  | literal text =>
    rw [lengths]
    split <;> simp
  | slash =>
    rw [lengths]
    split <;> simp
  | segment => exact (downFrom_nodup _).sublist (List.dropLast_sublist _)
  | shortSegment => exact (ascending_map_succ_range _).imp Nat.ne_of_lt
  | anything => exact downFrom_nodup _
  | something => exact (downFrom_nodup _).sublist (List.dropLast_sublist _)
  | optionalTail =>
    cases cs with
    | nil => simp [lengths]
    | cons c rest =>
      by_cases found : c = '/'
      · subst found
        refine List.nodup_cons.mpr ⟨by simp, ?_⟩
        exact (downFrom_nodup _).map (fun _ _ same => Nat.succ.inj same)
      · simp [lengths, found]

end GatewayRouting.Piece
