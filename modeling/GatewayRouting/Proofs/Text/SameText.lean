import GatewayRouting.Proofs.Text.AsciiCase
import GatewayRouting.Text.CaseFold
import Mathlib.Data.List.Forall2

/-!
Texts that are the same character by character, exactly or up to case folding. A slash is the same as no
other character.
-/

set_option autoImplicit false

namespace GatewayRouting.Text

/-- Two texts have the same characters in the same places, where characters that differ in case only are
the same unless case counts. -/
def SameText (caseSensitive : Bool) : List Char → List Char → Prop :=
  List.Forall₂ fun a b => sameChar caseSensitive a b = true

theorem foldRanges_above_slash :
    ∀ r ∈ foldRanges.toList, '/'.toNat < r.first ∧ ('/'.toNat : Int) < r.first + r.shift := by
  decide +kernel

theorem foldChar_eq_slash_iff {c : Char} : foldChar c = '/' ↔ c = '/' := by
  unfold foldChar
  split
  · rename_i r found
    obtain ⟨low, high⟩ := foldRanges_above_slash r (Array.mem_toList_iff.mpr (Array.mem_of_find?_eq_some found))
    have covered := Array.find?_some found
    simp only [FoldRange.covers, Bool.and_eq_true, decide_eq_true_eq] at covered
    have apart : '/'.toNat < (c.toNat + r.shift).toNat := by omega
    constructor
    · intro same
      rw [Char.ofNat] at same
      by_cases valid : (c.toNat + r.shift).toNat.isValidChar
      · rw [dif_pos valid] at same
        have value : (c.toNat + r.shift).toNat = '/'.toNat := congrArg Char.toNat same
        omega
      · rw [dif_neg valid] at same
        cases same
    · rintro rfl
      omega
  · rfl

theorem sameChar_slash_iff {caseSensitive : Bool} {c : Char} :
    sameChar caseSensitive '/' c = true ↔ c = '/' := by
  have folded : foldChar '/' = '/' := foldChar_eq_slash_iff.mpr rfl
  constructor
  · intro same
    simp only [sameChar, folded, Bool.or_eq_true, Bool.and_eq_true, beq_iff_eq] at same
    rcases same with same | ⟨_, same⟩
    · exact same.symm
    · exact foldChar_eq_slash_iff.mp same.symm
  · rintro rfl
    exact sameChar_refl caseSensitive '/'

theorem foldRanges_apart_from_lower : ∀ r ∈ foldRanges.toList, r.last < 97 ∨ 122 < r.first := by
  decide +kernel

theorem find?_foldRanges_from_first :
    ∀ i : Fin 26, (foldRanges.toList.find? (·.covers (65 + i))).map (·.shift) = some 32 := by
  decide +kernel

theorem find?_foldRanges_of_upper {n : Nat} (upper : 65 ≤ n ∧ n ≤ 90) :
    (foldRanges.find? (·.covers n)).map (·.shift) = some 32 := by
  have known := find?_foldRanges_from_first ⟨n - 65, by omega⟩
  have place : 65 + (n - 65) = n := by omega
  rw [Array.find?_toList] at known
  rw [← place]
  exact known

theorem foldChar_of_lower {c : Char} (lower : 97 ≤ c.toNat ∧ c.toNat ≤ 122) : foldChar c = c := by
  unfold foldChar
  split
  · rename_i r found
    have apart := foldRanges_apart_from_lower r (Array.mem_toList_iff.mpr (Array.mem_of_find?_eq_some found))
    have covered := Array.find?_some found
    simp only [FoldRange.covers, Bool.and_eq_true, decide_eq_true_eq] at covered
    omega
  · rfl

/-- A letter of ASCII folds as its lower case does. -/
theorem foldChar_toLower (c : Char) : foldChar c.toLower = foldChar c := by
  have lowered := toNat_toLower c
  by_cases upper : 65 ≤ c.toNat ∧ c.toNat ≤ 90
  · rw [if_pos upper] at lowered
    obtain ⟨r, found, shift⟩ := Option.map_eq_some_iff.mp (find?_foldRanges_of_upper upper)
    have value : ((c.toNat : Int) + r.shift).toNat = c.toLower.toNat := by
      rw [shift, lowered]
      rfl
    have folded : foldChar c = Char.ofNat ((c.toNat : Int) + r.shift).toNat := by
      unfold foldChar
      rw [found]
    rw [folded, value, Char.ofNat_toNat, foldChar_of_lower (by omega)]
  · rw [if_neg upper, Char.toNat_inj] at lowered
    rw [lowered]

theorem sameChar_insensitive {a b : Char} :
    sameChar false a b = true ↔ foldChar a = foldChar b := by
  simp only [sameChar, Bool.not_false, Bool.true_and, Bool.or_eq_true, beq_iff_eq]
  constructor
  · rintro (rfl | same)
    · rfl
    · exact same
  · exact Or.inr

theorem sameChar_toLower (a b : Char) : sameChar false a.toLower b = sameChar false a b := by
  rw [Bool.eq_iff_iff, sameChar_insensitive, sameChar_insensitive, foldChar_toLower]

namespace SameText

variable {caseSensitive : Bool}

theorem refl (text : List Char) : SameText caseSensitive text text :=
  List.forall₂_same.mpr fun c _ => sameChar_refl caseSensitive c

theorem append {text part more others : List Char} (front : SameText caseSensitive text part)
    (back : SameText caseSensitive more others) :
    SameText caseSensitive (text ++ more) (part ++ others) :=
  List.rel_append front back

/-- Where case counts, only a text itself is the same. -/
theorem eq_of_sensitive {text part : List Char} (same : SameText true text part) : text = part := by
  rw [← List.forall₂_eq_eq_eq]
  exact same.imp fun _ _ => sameChar_sensitive.mp

theorem slash_cons_iff {text part : List Char} :
    SameText caseSensitive ('/' :: text) part ↔
      ∃ rest, part = '/' :: rest ∧ SameText caseSensitive text rest := by
  constructor
  · intro same
    cases same with
    | cons first others => exact ⟨_, by rw [sameChar_slash_iff.mp first], others⟩
  · rintro ⟨rest, rfl, others⟩
    exact .cons (sameChar_slash_iff.mpr rfl) others

theorem concat_slash_iff {text part : List Char} :
    SameText caseSensitive (text ++ ['/']) part ↔
      ∃ front, part = front ++ ['/'] ∧ SameText caseSensitive text front := by
  induction text generalizing part with
  | nil =>
    rw [List.nil_append, slash_cons_iff]
    constructor
    · rintro ⟨rest, rfl, others⟩
      cases others
      exact ⟨[], rfl, .nil⟩
    · rintro ⟨front, rfl, others⟩
      cases others
      exact ⟨[], rfl, .nil⟩
  | cons l ls ih =>
    constructor
    · intro same
      cases same with
      | cons first others =>
        obtain ⟨front, rfl, same⟩ := ih.mp others
        exact ⟨_ :: front, rfl, .cons first same⟩
    · rintro ⟨front, rfl, same⟩
      cases same with
      | cons first others => exact .cons first (ih.mpr ⟨_, rfl, others⟩)

end SameText

end GatewayRouting.Text
