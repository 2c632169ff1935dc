import GatewayRouting.Proofs.Query.Parameters
import GatewayRouting.Proofs.Text.PercentDecoding
import Mathlib.Data.Set.Finite.Lemmas

/-!
Query texts that ask for parameters and are asked for them. What is asked for is taken as it is written, and
what is there is decoded, without the question marks at the front.
-/

set_option autoImplicit false

namespace GatewayRouting

/-- Where everything unfit has something larger and unfit beside it, nothing is unfit. -/
theorem forall_fit_of_larger {α : Type} {list : List α} {fit : α → Prop} (size : α → Nat)
    (larger : ∀ a ∈ list, ¬fit a → ∃ b ∈ list, ¬fit b ∧ size a < size b) : ∀ a ∈ list, fit a := by
  by_contra some
  push Not at some
  have finite : {a | a ∈ list ∧ ¬fit a}.Finite := list.finite_toSet.subset fun _ => And.left
  obtain ⟨a, ⟨inside, unfit⟩, largest⟩ := Set.exists_max_image _ size finite some
  obtain ⟨b, also, unfitToo, above⟩ := larger a inside unfit
  exact absurd above (Nat.not_lt.mpr (largest b ⟨also, unfitToo⟩))

namespace Parameter

/-- The parameter is what a demand for the key and value of another one, as they are written, asks for. -/
@[mk_iff]
structure Meets (p written : Parameter) : Prop where
  key : p.hasKey written.key = true
  value : p.decodedValue = written.value

/-- Decoding changes neither part. -/
@[mk_iff]
structure Undecoded (p : Parameter) : Prop where
  key : p.decodedKey = p.key
  value : p.decodedValue = p.value

instance (p written : Parameter) : Decidable (p.Meets written) :=
  decidable_of_iff _ (meets_iff p written).symm

instance (p : Parameter) : Decidable p.Undecoded :=
  decidable_of_iff _ (undecoded_iff p).symm

theorem Undecoded.meets_self {p : Parameter} (undecoded : p.Undecoded) : p.Meets p where
  key := by rw [hasKey, undecoded.key, Text.sameIgnoringCase_refl]
  value := undecoded.value

theorem unmarked_eq_self {p : Parameter} (plain : p.key.toList.head? ≠ some '?') : p.unmarked = p := by
  rw [unmarked, Query.dropWhile_eq_self_iff.mpr plain, String.ofList_toList]

theorem toList_key_eq_unmarked (p : Parameter) :
    p.key.toList = p.key.toList.takeWhile (· == '?') ++ p.unmarked.key.toList := by
  rw [unmarked, String.toList_ofList, List.takeWhile_append_dropWhile]

theorem utf8ByteSize_key_unmarked_le (p : Parameter) :
    p.unmarked.key.utf8ByteSize ≤ p.key.utf8ByteSize := by
  rw [Text.utf8ByteSize_eq, Text.utf8ByteSize_eq, toList_key_eq_unmarked p, Text.utf8Bytes_append,
    List.length_append]
  exact Nat.le_add_left _ _

theorem decodedKey_unmarked_of_fixed {p : Parameter} (fixed : p.decodedKey = p.key) :
    p.unmarked.decodedKey = p.unmarked.key := by
  have whole := toList_key_eq_unmarked p
  have plain : '%' ∉ p.key.toList.takeWhile (· == '?') := by
    intro found
    have mark := List.mem_takeWhile_imp found
    exact absurd mark (by decide)
  rw [decodedKey, ← String.ofList_toList (s := p.key), whole] at fixed
  have rest := Text.percentDecoded_eq_self_of_append plain fixed
  rwa [String.ofList_toList] at rest

/-- Behind question marks a key is never met by what is left of it. -/
theorem not_meets_unmarked {p : Parameter} (undecoded : p.Undecoded)
    (marked : p.key.toList.head? = some '?') : ¬p.unmarked.Meets p := by
  intro meets
  have same := Text.sameIgnoringCase_iff.mp meets.key
  rw [decodedKey_unmarked_of_fixed undecoded.key] at same
  have sizes := congrArg List.length (String.ofList_inj.mp same)
  rw [List.length_map, List.length_map, unmarked, String.toList_ofList] at sizes
  obtain ⟨rest, text⟩ := List.head?_eq_some_iff.mp marked
  have shorter := (List.dropWhile_sublist (l := rest) (· == '?')).length_le
  rw [text, List.dropWhile_cons_of_pos (by decide), List.length_cons] at sizes
  omega

variable {first : Parameter} {rest : List Parameter}

/-- Where every value is met, decoding changes none of them: what meets a value that it changes is a larger one
that it changes too. -/
theorem decodedValue_of_met
    (met : ∀ q ∈ first :: rest, ∃ p ∈ first.unmarked :: rest, p.Meets q) :
    ∀ q ∈ first :: rest, q.decodedValue = q.value := by
  refine forall_fit_of_larger (fun q => q.value.utf8ByteSize) fun q listed changed => ?_
  obtain ⟨p, there, meets⟩ := met q listed
  obtain ⟨other, inside, same⟩ : ∃ other ∈ first :: rest, other.value = p.value := by
    rcases List.mem_cons.mp there with rfl | later
    · exact ⟨first, List.mem_cons_self, rfl⟩
    · exact ⟨p, List.mem_cons_of_mem _ later, rfl⟩
  have spelled : other.decodedValue = q.value := by
    rw [decodedValue, same]
    exact meets.value
  have also : other.decodedValue ≠ other.value := by
    intro fixed
    have equal : other.value = q.value := fixed.symm.trans spelled
    rw [decodedValue, equal] at fixed
    exact changed fixed
  refine ⟨other, inside, also, ?_⟩
  rw [← spelled]
  exact Text.utf8ByteSize_percentDecoded_lt also

theorem decodedKey_of_met
    (met : ∀ q ∈ first :: rest, ∃ p ∈ first.unmarked :: rest, p.Meets q) :
    ∀ q ∈ first :: rest, q.decodedKey = q.key := by
  refine forall_fit_of_larger (fun q => q.key.utf8ByteSize) fun q listed changed => ?_
  obtain ⟨p, there, meets⟩ := met q listed
  have spelled := Text.sameIgnoringCase_iff.mp meets.key
  have also : p.decodedKey ≠ p.key := by
    intro fixed
    rw [fixed] at spelled
    exact changed ((Text.percentDecoded_eq_self_congr spelled).mp fixed)
  have above : q.key.utf8ByteSize < p.key.utf8ByteSize := by
    have sizes := congrArg String.utf8ByteSize spelled
    rw [Text.utf8ByteSize_lowerAscii, Text.utf8ByteSize_lowerAscii] at sizes
    rw [← sizes]
    exact Text.utf8ByteSize_percentDecoded_lt also
  rcases List.mem_cons.mp there with rfl | later
  · exact ⟨first, List.mem_cons_self, mt decodedKey_unmarked_of_fixed also,
      above.trans_le (utf8ByteSize_key_unmarked_le first)⟩
  · exact ⟨p, List.mem_cons_of_mem _ later, also, above⟩

/-- The first parameter is asked for with the question marks that are passed over in it, so it has to be there
again. -/
theorem met_iff :
    (∀ q ∈ first :: rest, ∃ p ∈ first.unmarked :: rest, p.Meets q) ↔
      (∀ q ∈ first :: rest, q.Undecoded) ∧
        (first.key.toList.head? = some '?' → ∃ p ∈ rest, p.Meets first) := by
  constructor
  · intro met
    have undecoded : ∀ q ∈ first :: rest, q.Undecoded := fun q listed =>
      ⟨decodedKey_of_met met q listed, decodedValue_of_met met q listed⟩
    refine ⟨undecoded, fun marked => ?_⟩
    obtain ⟨p, there, meets⟩ := met first List.mem_cons_self
    rcases List.mem_cons.mp there with rfl | later
    · exact absurd meets (not_meets_unmarked (undecoded first List.mem_cons_self) marked)
    · exact ⟨p, later, meets⟩
  · rintro ⟨undecoded, again⟩
    obtain ⟨own, others⟩ := List.forall_mem_cons.mp undecoded
    rw [List.forall_mem_cons]
    refine ⟨?_, fun q later => ⟨q, List.mem_cons_of_mem _ later, (others q later).meets_self⟩⟩
    by_cases marked : first.key.toList.head? = some '?'
    · obtain ⟨p, later, meets⟩ := again marked
      exact ⟨p, List.mem_cons_of_mem _ later, meets⟩
    · rw [unmarked_eq_self marked]
      exact ⟨first, List.mem_cons_self, own.meets_self⟩

end Parameter

namespace Query

/-- The parameters of a query text as they stand, with question marks at the front. -/
def written (query : String) : List Parameter := (Text.splitAll '&' query.toList).map Parameter.ofText

/-- A query text has the parameters that it asks for: decoding changes none of them, and the first one is there
again if question marks at its front are passed over. -/
@[mk_iff]
structure MeetsItself (query : String) : Prop where
  undecoded : ∀ p ∈ written query, p.Undecoded
  again : ∀ first ∈ (written query).head?, first.key.toList.head? = some '?' →
    ∃ p ∈ (written query).tail, p.Meets first

instance (query : String) : Decidable (MeetsItself query) :=
  decidable_of_iff _ (meetsItself_iff query).symm

/-- Where every item is a pair, the question marks are all that is lost of what is written. -/
theorem parameters_of_named {query : String}
    (named : ∀ item ∈ Text.splitAll '&' query.toList, '=' ∈ item) :
    ∃ first rest, written query = first :: rest ∧ parameters query = first.unmarked :: rest := by
  obtain ⟨item, items, cut⟩ := List.exists_cons_of_ne_nil (Text.splitAll_ne_nil '&' query.toList)
  have whole : ['&'].intercalate (Text.splitAll '&' query.toList) = query.toList :=
    Text.intercalate_splitAll _
  have separate : ∀ text ∈ item :: items, '&' ∉ text := by
    rw [← cut]
    exact fun _ => Text.absent_of_mem_splitAll
  rw [cut] at named whole
  obtain ⟨⟨key, value⟩, apart⟩ : ∃ parts, Text.splitOnce '=' item = some parts := by
    rw [← Option.isSome_iff_exists, Option.isSome_iff_ne_none, ne_eq, Text.splitOnce_eq_none_iff, not_not]
    exact named item List.mem_cons_self
  obtain ⟨rfl, plain⟩ := Text.splitOnce_eq_some apart
  have read := parameters_intercalate plain separate fun text later =>
    named text (List.mem_cons_of_mem _ later)
  rw [whole, String.ofList_toList] at read
  refine ⟨_, _, ?_, read⟩
  rw [written, cut, List.map_cons, Parameter.ofText_of_named plain]

end Query

end GatewayRouting
