import GatewayRouting.Proofs.Template.Ways
import Mathlib.Data.List.Lex
import Mathlib.Order.OrderDual

/-!
The order in which the ways of matching are listed: ascending in the lengths of the values, read from the left,
as long as each piece prefers the shortest value or has no choice, and descending if it prefers the longest.
-/

set_option autoImplicit false

namespace GatewayRouting.Pattern

/-- The lengths of values, read from the left, are smaller. -/
def Shorter (a b : List (List Char)) : Prop := a.map List.length < b.map List.length

theorem Shorter.append_left (front : List (List Char)) {a b : List (List Char)} (shorter : Shorter a b) :
    Shorter (front ++ a) (front ++ b) := by
  unfold Shorter
  rw [List.map_append, List.map_append]
  exact List.append_left_lt shorter

/-- The first value decides, unless both have the same length. -/
theorem Shorter.of_first {taken other : List Char} (below : taken.length < other.length)
    (a b : List (List Char)) : Shorter (taken :: a) (other :: b) := by
  unfold Shorter
  rw [List.map_cons, List.map_cons, List.cons_lt_cons_iff]
  exact Or.inl below

/-- The first of values that are listed in the order of a measure has the least. -/
theorem head?_eq_some_iff_of_pairwise_lt {β : Type} [LinearOrder β] (measure : List (List Char) → β)
    {l : List (List (List Char))} {values : List (List Char)}
    (ordered : l.Pairwise fun a b => measure a < measure b) :
    l.head? = some values ↔ values ∈ l ∧ ∀ other ∈ l, measure values ≤ measure other := by
  cases l with
  | nil => simp
  | cons first others =>
    obtain ⟨least, _⟩ := List.pairwise_cons.mp ordered
    rw [List.head?_cons, Option.some_inj]
    constructor
    · rintro rfl
      refine ⟨List.mem_cons_self, ?_⟩
      intro other listed
      rcases List.mem_cons.mp listed with rfl | listed
      · exact le_rfl
      · exact le_of_lt (least other listed)
    · rintro ⟨listed, minimal⟩
      rcases List.mem_cons.mp listed with rfl | listed
      · rfl
      · exact absurd (least values listed) (not_lt_of_ge (minimal first List.mem_cons_self))

theorem head?_eq_some_iff_of_ascending {l : List (List (List Char))} {values : List (List Char)}
    (ascending : l.Pairwise Shorter) :
    l.head? = some values ↔
      values ∈ l ∧ ∀ other ∈ l, values.map List.length ≤ other.map List.length :=
  head?_eq_some_iff_of_pairwise_lt (List.map List.length) ascending

theorem head?_eq_some_iff_of_descending {l : List (List (List Char))} {values : List (List Char)}
    (descending : l.Pairwise fun a b => Shorter b a) :
    l.head? = some values ↔
      values ∈ l ∧ ∀ other ∈ l, other.map List.length ≤ values.map List.length :=
  head?_eq_some_iff_of_pairwise_lt (fun a => OrderDual.toDual (a.map List.length)) descending

/-- Values in front of both sides change nothing. -/
def Prependable (R : List (List Char) → List (List Char) → Prop) : Prop :=
  ∀ front {a b}, R a b → R (front ++ a) (front ++ b)

/-- The pieces list the ways of matching any text in an order. -/
def Listed (R : List (List Char) → List (List Char) → Prop) (caseSensitive : Bool) (pieces : List Piece) :
    Prop :=
  ∀ text, (ways caseSensitive pieces text).Pairwise R

variable {R : List (List Char) → List (List Char) → Prop} {caseSensitive : Bool} {pieces : List Piece}

theorem listed_nil : Listed R caseSensitive [] := by
  intro text
  cases text <;> simp [ways]

theorem listed_cons (prependable : Prependable R) {p : Piece} (others : Listed R caseSensitive pieces)
    (lengths : ∀ text, (p.lengths caseSensitive text).Pairwise fun k m =>
      ∀ a ∈ ways caseSensitive pieces (text.drop k), ∀ b ∈ ways caseSensitive pieces (text.drop m),
        R (p.values (text.take k) ++ a) (p.values (text.take m) ++ b)) :
    Listed R caseSensitive (p :: pieces) := by
  intro text
  rw [ways, List.pairwise_flatMap]
  constructor
  · intro k _
    rw [List.pairwise_map]
    exact (others (text.drop k)).imp (prependable _)
  · apply (lengths text).imp
    intro k m ordered
    simpa only [List.forall_mem_map] using ordered

/-- A piece without choice: no text can be taken at two lengths so that the others take the rest. -/
theorem listed_cons_of_unique (prependable : Prependable R) {p : Piece}
    (others : Listed R caseSensitive pieces)
    (unique : ∀ text, ∀ k ∈ p.lengths caseSensitive text, ∀ m ∈ p.lengths caseSensitive text,
      ways caseSensitive pieces (text.drop k) ≠ [] → ways caseSensitive pieces (text.drop m) ≠ [] → k = m) :
    Listed R caseSensitive (p :: pieces) := by
  apply listed_cons prependable others
  intro text
  apply (Piece.lengths_nodup caseSensitive p text).imp_of_mem
  intro k m listedLeft listedRight apart a wayLeft b wayRight
  have same := unique text k listedLeft m listedRight (List.ne_nil_of_mem wayLeft)
    (List.ne_nil_of_mem wayRight)
  exact absurd same apart

theorem listed_literal (prependable : Prependable R) (text : List Char)
    (others : Listed R caseSensitive pieces) : Listed R caseSensitive (.literal text :: pieces) := by
  apply listed_cons_of_unique prependable others
  intro cs k listedLeft m listedRight _ _
  have left := Piece.length_of_mem_literal listedLeft
  have right := Piece.length_of_mem_literal listedRight
  rw [left, right]

/-! Ways in ascending order, the shortest values first. -/

def Ascending (caseSensitive : Bool) (pieces : List Piece) : Prop := Listed Shorter caseSensitive pieces

theorem prependable_shorter : Prependable Shorter := fun front _ _ => Shorter.append_left front

theorem ascending_nil : Ascending caseSensitive [] := listed_nil

theorem ascending_literal (text : List Char) (others : Ascending caseSensitive pieces) :
    Ascending caseSensitive (.literal text :: pieces) := listed_literal prependable_shorter text others

/-- The last piece has to take the whole text. -/
theorem ascending_last (p : Piece) : Ascending caseSensitive [p] := by
  apply listed_cons_of_unique prependable_shorter ascending_nil
  have whole : ∀ (cs : List Char) (k : Nat), k ≤ cs.length →
      ways caseSensitive [] (cs.drop k) ≠ [] → k = cs.length := by
    intro cs k bound taken
    cases rest : cs.drop k with
    | nil =>
      have beyond := List.drop_eq_nil_iff.mp rest
      omega
    | cons c after =>
      rw [rest] at taken
      exact absurd rfl taken
  intro cs k listedLeft m listedRight left right
  rw [whole cs k (Piece.length_le_of_mem listedLeft) left,
    whole cs m (Piece.length_le_of_mem listedRight) right]

theorem ascending_shortSegment (others : Ascending caseSensitive pieces) :
    Ascending caseSensitive (.shortSegment :: pieces) := by
  apply listed_cons prependable_shorter others
  intro text
  apply (Piece.ascending_map_succ_range _).imp_of_mem
  intro k m listedLeft listedRight below a _ b _
  have bound : ∀ n ∈ Piece.shortSegment.lengths caseSensitive text, n ≤ text.length :=
    fun _ => Piece.length_le_of_mem
  have boundLeft := bound k listedLeft
  have boundRight := bound m listedRight
  apply Shorter.of_first
  rw [List.length_take, List.length_take]
  omega

/-- A greedy segment has no choice when the others take nothing or start at a slash. -/
theorem ascending_segment (others : Ascending caseSensitive pieces)
    (follow : ∀ rest, ways caseSensitive pieces rest ≠ [] → rest = [] ∨ rest.head? = some '/') :
    Ascending caseSensitive (.segment :: pieces) := by
  have stop : ∀ (cs : List Char) (k m : Nat), m ≤ cs.length → '/' ∉ cs.take m →
      ways caseSensitive pieces (cs.drop k) ≠ [] → m ≤ k := by
    intro cs k m bound absent taken
    rcases follow (cs.drop k) taken with rest | rest
    · have beyond := List.drop_eq_nil_iff.mp rest
      omega
    · rw [List.head?_drop] at rest
      by_contra beyond
      have inside : (cs.take m)[k]? = some '/' := by
        rw [List.getElem?_take_of_lt (by omega), rest]
      exact absent (List.mem_of_getElem? inside)
  apply listed_cons_of_unique prependable_shorter others
  intro cs k listedLeft m listedRight left right
  obtain ⟨boundLeft, _, absentLeft⟩ := Piece.mem_lengths_iff.mp listedLeft
  obtain ⟨boundRight, _, absentRight⟩ := Piece.mem_lengths_iff.mp listedRight
  have forward := stop cs k m boundRight absentRight left
  have backward := stop cs m k boundLeft absentLeft right
  omega

/-! Ways in descending order, the longest values first. -/

def Descending (caseSensitive : Bool) (pieces : List Piece) : Prop :=
  Listed (fun a b => Shorter b a) caseSensitive pieces

theorem prependable_longer : Prependable fun a b => Shorter b a := fun front _ _ => Shorter.append_left front

theorem descending_nil : Descending caseSensitive [] := listed_nil

theorem descending_literal (text : List Char) (others : Descending caseSensitive pieces) :
    Descending caseSensitive (.literal text :: pieces) := listed_literal prependable_longer text others

/-- A piece that takes what it captures, the longest first. -/
theorem descending_cons {p : Piece} (captured : ∀ taken, p.values taken = [taken])
    (greedy : ∀ text, (p.lengths caseSensitive text).Pairwise (· > ·))
    (others : Descending caseSensitive pieces) : Descending caseSensitive (p :: pieces) := by
  apply listed_cons prependable_longer others
  intro text
  apply (greedy text).imp_of_mem
  intro k m listedLeft _ below a _ b _
  have bound := Piece.length_le_of_mem listedLeft
  rw [captured, captured, List.singleton_append, List.singleton_append]
  apply Shorter.of_first
  rw [List.length_take, List.length_take]
  omega

theorem descending_segment (others : Descending caseSensitive pieces) :
    Descending caseSensitive (.segment :: pieces) :=
  descending_cons (fun _ => rfl) (fun _ => Piece.descending_downFrom_dropLast _) others

theorem descending_something (others : Descending caseSensitive pieces) :
    Descending caseSensitive (.something :: pieces) :=
  descending_cons (fun _ => rfl) (fun _ => Piece.descending_downFrom_dropLast _) others

end GatewayRouting.Pattern
