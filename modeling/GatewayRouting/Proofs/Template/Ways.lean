import GatewayRouting.Proofs.Template.PieceEnds
import Mathlib.Data.List.Find

/-!
Matching a pattern, as the list of all ways in which its pieces take a text. The search that marks ends
gives the first of them.
-/

set_option autoImplicit false

namespace GatewayRouting.Pattern

/-- The ways in which pieces take a whole text, each as the values captured, in the order in which they
are preferred. -/
def ways (caseSensitive : Bool) : List Piece → List Char → List (List (List Char))
  | [], [] => [[]]
  | [], _ :: _ => []
  | p :: pieces, cs =>
    (p.lengths caseSensitive cs).flatMap fun k =>
      (ways caseSensitive pieces (cs.drop k)).map (p.values (cs.take k) ++ ·)

variable {caseSensitive : Bool}

theorem mem_ways_nil {cs : List Char} {values : List (List Char)} :
    values ∈ ways caseSensitive [] cs ↔ cs = [] ∧ values = [] := by
  cases cs <;> simp [ways]

/-- A piece takes the front of the text and the others the rest. -/
theorem mem_ways_cons {p : Piece} {pieces : List Piece} {cs : List Char} {values : List (List Char)} :
    values ∈ ways caseSensitive (p :: pieces) cs ↔
      ∃ taken rest others, cs = taken ++ rest ∧ p.Matches caseSensitive taken ∧
        others ∈ ways caseSensitive pieces rest ∧ values = p.values taken ++ others := by
  simp only [ways, List.mem_flatMap, List.mem_map, Piece.mem_lengths_iff]
  constructor
  · rintro ⟨k, ⟨_, fits⟩, others, way, rfl⟩
    exact ⟨cs.take k, cs.drop k, others, (List.take_append_drop k cs).symm, fits, way, rfl⟩
  · rintro ⟨taken, rest, others, rfl, fits, way, rfl⟩
    refine ⟨taken.length, ⟨by simp, ?_⟩, others, ?_, ?_⟩
    · rwa [List.take_left]
    · rwa [List.drop_left]
    · rw [List.take_left]

theorem mem_ways_literal {text : List Char} {pieces : List Piece} {cs : List Char}
    {values : List (List Char)} :
    values ∈ ways caseSensitive (.literal text :: pieces) cs ↔
      ∃ part rest, cs = part ++ rest ∧ Text.SameText caseSensitive text part ∧
        values ∈ ways caseSensitive pieces rest := by
  rw [mem_ways_cons]
  constructor
  · rintro ⟨part, rest, others, split, same, way, rfl⟩
    exact ⟨part, rest, split, same, way⟩
  · rintro ⟨part, rest, split, same, way⟩
    exact ⟨part, rest, values, split, same, way, rfl⟩

theorem mem_ways_last {p : Piece} {cs : List Char} {values : List (List Char)} :
    values ∈ ways caseSensitive [p] cs ↔ p.Matches caseSensitive cs ∧ values = p.values cs := by
  rw [mem_ways_cons]
  constructor
  · rintro ⟨taken, rest, others, rfl, fits, way, rfl⟩
    obtain ⟨rfl, rfl⟩ := mem_ways_nil.mp way
    rw [List.append_nil, List.append_nil]
    exact ⟨fits, rfl⟩
  · rintro ⟨fits, rfl⟩
    exact ⟨cs, [], [], by rw [List.append_nil], fits, mem_ways_nil.mpr ⟨rfl, rfl⟩,
      by rw [List.append_nil]⟩

/-- A captured value has no character that the text does not have. -/
theorem subset_of_mem_ways {pieces : List Piece} {cs : List Char} {values : List (List Char)}
    (way : values ∈ ways caseSensitive pieces cs) : ∀ value ∈ values, value ⊆ cs := by
  induction pieces generalizing cs values with
  | nil =>
    obtain ⟨_, rfl⟩ := mem_ways_nil.mp way
    exact List.forall_mem_nil _
  | cons p pieces ih =>
    obtain ⟨taken, rest, others, rfl, _, later, rfl⟩ := mem_ways_cons.mp way
    intro value inside
    rcases List.mem_append.mp inside with own | other
    · have part : value ⊆ taken := by
        cases p with
        | optionalTail =>
          rw [List.mem_singleton.mp own]
          exact List.tail_subset taken
        | literal _ | slash => cases own
        | segment | shortSegment | anything | something =>
          rw [List.mem_singleton.mp own]
          exact List.Subset.refl _
      exact List.Subset.trans part (List.subset_append_left _ _)
    · exact List.Subset.trans (ih later value other) (List.subset_append_right _ _)

/-- Whether there is a way at all. -/
def fits (caseSensitive : Bool) (pieces : List Piece) (cs : List Char) : Bool :=
  !(ways caseSensitive pieces cs).isEmpty

theorem fits_cons (p : Piece) (pieces : List Piece) (cs : List Char) :
    fits caseSensitive (p :: pieces) cs =
      (p.lengths caseSensitive cs).any fun k => fits caseSensitive pieces (cs.drop k) := by
  simp only [fits, ways]
  induction p.lengths caseSensitive cs with
  | nil => rfl
  | cons k rest ih =>
    rw [List.flatMap_cons, List.any_cons, ← ih]
    cases ways caseSensitive pieces (cs.drop k) <;> simp

theorem ends_eq (pieces : List Piece) (cs : List Char) :
    ends caseSensitive cs pieces = cs.tails.map (fits caseSensitive pieces) := by
  induction pieces with
  | nil =>
    rw [ends]
    induction cs with
    | nil => rfl
    | cons c cs ih =>
      rw [List.tails_cons, List.map_cons, ← ih, List.length_cons, List.replicate_succ, List.cons_append]
      rfl
  | cons p pieces ih =>
    rw [ends, ih, Piece.ends_map_tails]
    apply List.map_congr_left
    intro rest _
    rw [fits_cons]

theorem getD_ends (pieces : List Piece) {cs : List Char} {k : Nat} (bound : k ≤ cs.length) :
    (ends caseSensitive cs pieces).toArray.getD k false = fits caseSensitive pieces (cs.drop k) := by
  have marked := Piece.headD_drop_map_tails (fits caseSensitive pieces) bound
  rw [ends_eq, ← marked]
  simp [List.head?_drop]

theorem findSome?_eq_bind_find? {α β : Type} (g : α → Option β) (l : List α) :
    l.findSome? g = (l.find? fun a => (g a).isSome).bind g := by
  induction l with
  | nil => rfl
  | cons a rest ih => cases found : g a <;> simp [found, ih]

theorem capture_cons (p : Piece) (pieces : List Piece) (cs : List Char) :
    capture caseSensitive (p :: pieces) cs =
      ((p.lengths caseSensitive cs).find? fun k =>
        (ends caseSensitive cs pieces).toArray.getD k false).bind fun k =>
          (capture caseSensitive pieces (cs.drop k)).map (p.values (cs.take k) ++ ·) := by
  rw [capture]
  split
  · rename_i none
    rw [none]
    rfl
  · dsimp only
    split
    · rename_i k found
      rw [found]
      rfl
    · rename_i missing
      rw [missing]
      rfl

/-- The search finds the way that comes first. -/
theorem capture_eq_head? (pieces : List Piece) (cs : List Char) :
    capture caseSensitive pieces cs = (ways caseSensitive pieces cs).head? := by
  induction pieces generalizing cs with
  | nil => cases cs <;> rfl
  | cons p pieces ih =>
    have tried : ∀ k ∈ p.lengths caseSensitive cs,
        (ends caseSensitive cs pieces).toArray.getD k false =
          (((ways caseSensitive pieces (cs.drop k)).map (p.values (cs.take k) ++ ·)).head?).isSome := by
      intro k listed
      rw [getD_ends pieces (Piece.length_le_of_mem listed), fits]
      cases ways caseSensitive pieces (cs.drop k) <;> rfl
    rw [capture_cons, List.find?_congr tried, ways, List.head?_flatMap, findSome?_eq_bind_find?]
    congr 1
    funext k
    rw [ih, List.head?_map]

theorem isSome_capture_iff {pieces : List Piece} {cs : List Char} :
    (capture caseSensitive pieces cs).isSome = true ↔ ∃ values, values ∈ ways caseSensitive pieces cs := by
  rw [capture_eq_head?, List.isSome_head?]
  constructor
  · exact List.exists_mem_of_ne_nil _
  · rintro ⟨values, way⟩
    exact List.ne_nil_of_mem way

theorem subset_of_capture {pieces : List Piece} {cs : List Char} {values : List (List Char)}
    (captured : capture caseSensitive pieces cs = some values) : ∀ value ∈ values, value ⊆ cs := by
  rw [capture_eq_head?] at captured
  exact subset_of_mem_ways (List.mem_of_mem_head? captured)

end GatewayRouting.Pattern
