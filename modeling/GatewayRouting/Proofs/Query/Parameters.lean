import GatewayRouting.Proofs.Text.Cutting
import GatewayRouting.Query
import Mathlib.Data.List.TakeWhile

/-!
The parameters of a query as texts: none of them holds a separator, so they are told apart again once they
are joined.
-/

set_option autoImplicit false

namespace GatewayRouting

namespace Parameter

theorem ofText_of_named {key : List Char} (absent : '=' ∉ key) (value : List Char) :
    ofText (key ++ '=' :: value) = ⟨String.ofList key, String.ofList value⟩ := by
  rw [ofText, Text.splitOnce_append_cons absent]

/-- Neither part of a parameter has a character that its text does not have. -/
theorem subset_of_ofText (text : List Char) :
    (ofText text).key.toList ⊆ text ∧ (ofText text).value.toList ⊆ text := by
  unfold ofText
  split
  · rename_i key value cut
    obtain ⟨rfl, _⟩ := Text.splitOnce_eq_some cut
    rw [String.toList_ofList, String.toList_ofList]
    exact ⟨List.subset_append_left _ _,
      List.Subset.trans (List.subset_cons_self _ _) (List.subset_append_right _ _)⟩
  · rw [String.toList_ofList]
    exact ⟨List.Subset.refl _, List.nil_subset _⟩

theorem equals_not_mem_key (text : List Char) : '=' ∉ (ofText text).key.toList := by
  unfold ofText
  split
  · rename_i key value cut
    rw [String.toList_ofList]
    exact (Text.splitOnce_eq_some cut).2
  · rename_i uncut
    rw [String.toList_ofList]
    exact Text.splitOnce_eq_none_iff.mp uncut

theorem mem_toText {p : Parameter} {c : Char} (inside : c ∈ p.toText) :
    c ∈ p.key.toList ∨ c = '=' ∨ c ∈ p.value.toList := by
  unfold toText at inside
  split at inside
  · exact Or.inl inside
  · simpa using inside

/-- The parameter without question marks at the front of its key. -/
def unmarked (p : Parameter) : Parameter := ⟨String.ofList (p.key.toList.dropWhile (· == '?')), p.value⟩

/-- Only the nameless parameter without value is written as nothing. -/
theorem toText_eq_nil_iff {p : Parameter} : p.toText = [] ↔ p = ⟨"", ""⟩ := by
  obtain ⟨key, value⟩ := p
  unfold toText
  split <;> simp_all

end Parameter

namespace Query

/-- Question marks are passed over as long as nothing else stands in front of them. -/
theorem dropWhile_eq_self_iff {cs : List Char} :
    cs.dropWhile (· == '?') = cs ↔ cs.head? ≠ some '?' := by
  rw [List.dropWhile_eq_self_iff]
  cases cs <;> simp

/-- They are passed over in the first key alone. -/
theorem dropWhile_named (key rest : List Char) :
    (key ++ '=' :: rest).dropWhile (· == '?') = key.dropWhile (· == '?') ++ '=' :: rest := by
  have stop : ('=' :: rest).dropWhile (· == '?') = '=' :: rest := List.dropWhile_cons_of_neg (by decide)
  rw [List.dropWhile_append, stop]
  split
  · rename_i empty
    rw [List.isEmpty_iff.mp empty, List.nil_append]
  · rfl

theorem absent_of_mem_segments {query segment : List Char} (inside : segment ∈ segments query) :
    '&' ∉ segment :=
  Text.absent_of_mem_splitAll (List.mem_filter.mp inside).1

theorem filter_segments (query : List Char) :
    (segments query).filter (!·.isEmpty) = segments query := by
  rw [segments, List.filter_filter]
  simp only [Bool.and_self]

/-- Texts that were joined are the segments of the query, but for empty ones. -/
theorem segments_intercalate {texts : List (List Char)} (absent : ∀ text ∈ texts, '&' ∉ text) :
    segments (['&'].intercalate texts) = texts.filter (!·.isEmpty) := by
  by_cases some : texts = []
  · rw [some]
    rfl
  · rw [segments, Text.splitAll_intercalate some, Text.flatMap_splitAll_of_absent absent]

/-- Of joined items that all give a value, question marks at the front of the first key are all that is lost. -/
theorem parameters_intercalate {key value : List Char} {items : List (List Char)} (plain : '=' ∉ key)
    (separate : ∀ text ∈ (key ++ '=' :: value) :: items, '&' ∉ text)
    (named : ∀ item ∈ items, '=' ∈ item) :
    parameters (String.ofList (['&'].intercalate ((key ++ '=' :: value) :: items))) =
      Parameter.unmarked ⟨String.ofList key, String.ofList value⟩ :: items.map Parameter.ofText := by
  let left := key.dropWhile (· == '?')
  have smaller : left ⊆ key := (List.dropWhile_sublist _).subset
  have passed : (['&'].intercalate ((key ++ '=' :: value) :: items)).dropWhile (· == '?') =
      ['&'].intercalate ((left ++ '=' :: value) :: items) := by
    rw [Text.intercalate_cons_eq, Text.intercalate_cons_eq, List.append_assoc, List.append_assoc,
      List.cons_append, dropWhile_named]
  obtain ⟨own, others⟩ := List.forall_mem_cons.mp separate
  have separateToo : ∀ text ∈ (left ++ '=' :: value) :: items, '&' ∉ text := by
    refine List.forall_mem_cons.mpr ⟨fun found => own ?_, others⟩
    rw [List.mem_append] at found ⊢
    exact found.imp_left (smaller ·)
  have filled : ∀ text ∈ (left ++ '=' :: value) :: items, (!text.isEmpty) = true := by
    refine List.forall_mem_cons.mpr ⟨by simp, fun text later => ?_⟩
    rw [Bool.not_eq_true', List.isEmpty_eq_false_iff]
    exact List.ne_nil_of_mem (named text later)
  rw [parameters, String.toList_ofList, passed, segments_intercalate separateToo,
    List.filter_eq_self.mpr filled, List.map_cons,
    Parameter.ofText_of_named fun found => plain (smaller found), Parameter.unmarked, String.toList_ofList]

theorem absent_of_mem_parameters {query : String} {p : Parameter} (inside : p ∈ parameters query) :
    '&' ∉ p.key.toList ∧ '&' ∉ p.value.toList := by
  obtain ⟨segment, listed, rfl⟩ := List.mem_map.mp inside
  have absent := absent_of_mem_segments listed
  obtain ⟨keyInside, valueInside⟩ := Parameter.subset_of_ofText segment
  exact ⟨fun found => absent (keyInside found), fun found => absent (valueInside found)⟩

theorem equals_not_mem_key {query : String} {p : Parameter} (inside : p ∈ parameters query) :
    '=' ∉ p.key.toList := by
  obtain ⟨segment, _, rfl⟩ := List.mem_map.mp inside
  exact Parameter.equals_not_mem_key segment

theorem absent_of_toText {query : String} {p : Parameter} (inside : p ∈ parameters query) :
    '&' ∉ p.toText := by
  obtain ⟨keyFree, valueFree⟩ := absent_of_mem_parameters inside
  intro found
  rcases Parameter.mem_toText found with inKey | same | inValue
  · exact keyFree inKey
  · exact absurd same (by decide)
  · exact valueFree inValue

end Query

end GatewayRouting
