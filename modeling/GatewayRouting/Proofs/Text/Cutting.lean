import GatewayRouting.Text.Split
import Mathlib.Algebra.Ring.Nat
import Mathlib.Data.List.Basic

/-!
Cutting a text at a separator and joining the pieces again.
-/

set_option autoImplicit false

namespace GatewayRouting.Text

variable {separator : Char}

theorem splitOnce_eq_none_iff {cs : List Char} : splitOnce separator cs = none ↔ separator ∉ cs := by
  induction cs with
  | nil => simp [splitOnce]
  | cons c rest ih =>
    rw [splitOnce, List.mem_cons, not_or]
    by_cases found : c = separator
    · simp [found]
    · rw [if_neg found, Option.map_eq_none_iff, ih]
      simp [Ne.symm found]

theorem splitOnce_append_cons {before : List Char} (absent : separator ∉ before)
    (after : List Char) :
    splitOnce separator (before ++ separator :: after) = some (before, after) := by
  induction before with
  | nil => rw [List.nil_append, splitOnce, if_pos rfl]
  | cons c rest ih =>
    rw [List.mem_cons, not_or] at absent
    rw [List.cons_append, splitOnce, if_neg (Ne.symm absent.1), ih absent.2]
    rfl

theorem splitLast_eq_some {separator : Char} {cs before after : List Char}
    (cut : splitLast separator cs = some (before, after)) : cs = before ++ separator :: after := by
  obtain ⟨⟨behind, ahead⟩, found, same⟩ := Option.map_eq_some_iff.mp cut
  obtain ⟨rfl, rfl⟩ := Prod.mk.inj same
  have whole := congrArg List.reverse (splitOnce_eq_some found).1
  simpa using whole

theorem splitLast_eq_none_iff {cs : List Char} : splitLast separator cs = none ↔ separator ∉ cs := by
  rw [splitLast, Option.map_eq_none_iff, splitOnce_eq_none_iff, List.mem_reverse]

theorem splitLast_append_cons (before : List Char) {after : List Char} (absent : separator ∉ after) :
    splitLast separator (before ++ separator :: after) = some (before, after) := by
  have backwards : (before ++ separator :: after).reverse = after.reverse ++ separator :: before.reverse := by
    simp
  rw [splitLast, backwards, splitOnce_append_cons (mt List.mem_reverse.mp absent), Option.map_some]
  dsimp only
  rw [List.reverse_reverse, List.reverse_reverse]

theorem splitAll_cons_of_other {c : Char} (apart : c ≠ separator) (cs : List Char) :
    ∃ piece pieces, splitAll separator cs = piece :: pieces ∧
      splitAll separator (c :: cs) = (c :: piece) :: pieces := by
  cases cut : splitAll separator cs with
  | nil => exact absurd cut (splitAll_ne_nil separator cs)
  | cons piece pieces =>
    refine ⟨piece, pieces, rfl, ?_⟩
    rw [splitAll, if_neg apart, cut]

theorem splitAll_of_absent {cs : List Char} (absent : separator ∉ cs) :
    splitAll separator cs = [cs] := by
  induction cs with
  | nil => rfl
  | cons c rest ih =>
    rw [List.mem_cons, not_or] at absent
    obtain ⟨piece, pieces, cut, longer⟩ := splitAll_cons_of_other (Ne.symm absent.1) rest
    rw [ih absent.2] at cut
    cases cut
    exact longer

/-- The pieces of a text are those before a separator and those after it. -/
theorem splitAll_append_cons (before after : List Char) :
    splitAll separator (before ++ separator :: after) =
      splitAll separator before ++ splitAll separator after := by
  induction before with
  | nil => simp [splitAll]
  | cons c rest ih =>
    rw [List.cons_append, splitAll]
    by_cases found : c = separator
    · rw [if_pos found, ih, splitAll, if_pos found, List.cons_append]
    · obtain ⟨piece, pieces, cut, longer⟩ := splitAll_cons_of_other found rest
      rw [if_neg found, ih, cut, longer]
      rfl

theorem absent_of_mem_splitAll {cs piece : List Char} (inside : piece ∈ splitAll separator cs) :
    separator ∉ piece := by
  induction cs generalizing piece with
  | nil =>
    rw [splitAll, List.mem_singleton] at inside
    subst inside
    exact List.not_mem_nil
  | cons c rest ih =>
    by_cases found : c = separator
    · rw [splitAll, if_pos found] at inside
      rcases List.mem_cons.mp inside with rfl | later
      · exact List.not_mem_nil
      · exact ih later
    · obtain ⟨first, others, cut, longer⟩ := splitAll_cons_of_other found rest
      rw [longer] at inside
      rw [cut] at ih
      rcases List.mem_cons.mp inside with rfl | later
      · rw [List.mem_cons, not_or]
        exact ⟨Ne.symm found, ih List.mem_cons_self⟩
      · exact ih (List.mem_cons_of_mem _ later)

theorem subset_of_mem_splitAll {cs piece : List Char} (inside : piece ∈ splitAll separator cs) :
    piece ⊆ cs := by
  induction cs generalizing piece with
  | nil =>
    rw [splitAll, List.mem_singleton] at inside
    rw [inside]
    exact List.Subset.refl []
  | cons c rest ih =>
    by_cases found : c = separator
    · rw [splitAll, if_pos found] at inside
      rcases List.mem_cons.mp inside with rfl | later
      · exact List.nil_subset _
      · exact List.subset_cons_of_subset c (ih later)
    · obtain ⟨first, others, cut, longer⟩ := splitAll_cons_of_other found rest
      rw [longer] at inside
      rw [cut] at ih
      rcases List.mem_cons.mp inside with rfl | later
      · exact List.cons_subset_cons c (ih List.mem_cons_self)
      · exact List.subset_cons_of_subset c (ih (List.mem_cons_of_mem _ later))

theorem intercalate_cons_eq (text : List Char) (rest : List (List Char)) :
    [separator].intercalate (text :: rest) = text ++ rest.flatMap (separator :: ·) := by
  induction rest generalizing text with
  | nil => rw [List.intercalate_singleton, List.flatMap_nil, List.append_nil]
  | cons next others ih =>
    rw [List.intercalate_cons_cons, ih, List.flatMap_cons, List.append_assoc]
    rfl

theorem mem_of_mem_intercalate {texts : List (List Char)} {c : Char}
    (inside : c ∈ [separator].intercalate texts) : c = separator ∨ ∃ text ∈ texts, c ∈ text := by
  cases texts with
  | nil => cases inside
  | cons text rest =>
    rw [intercalate_cons_eq, List.mem_append, List.mem_flatMap] at inside
    rcases inside with first | ⟨other, listed, later⟩
    · exact Or.inr ⟨text, List.mem_cons_self, first⟩
    · rcases List.mem_cons.mp later with between | within
      · exact Or.inl between
      · exact Or.inr ⟨other, List.mem_cons_of_mem text listed, within⟩

/-- The pieces of a text, joined again, are the text. -/
theorem intercalate_splitAll (cs : List Char) : [separator].intercalate (splitAll separator cs) = cs := by
  induction cs with
  | nil => rfl
  | cons c rest ih =>
    by_cases found : c = separator
    · obtain ⟨piece, pieces, cut⟩ := List.exists_cons_of_ne_nil (splitAll_ne_nil separator rest)
      rw [splitAll, if_pos found, cut, List.intercalate_cons_cons, ← cut, ih, found]
      rfl
    · obtain ⟨piece, pieces, cut, longer⟩ := splitAll_cons_of_other found rest
      rw [cut, intercalate_cons_eq] at ih
      rw [longer, intercalate_cons_eq, List.cons_append, ih]

/-- Joined texts are cut at the places where they were joined, and each of them further. -/
theorem splitAll_intercalate {texts : List (List Char)} (some : texts ≠ []) :
    splitAll separator ([separator].intercalate texts) = texts.flatMap (splitAll separator) := by
  induction texts with
  | nil => exact absurd rfl some
  | cons text rest ih =>
    cases rest with
    | nil => rw [List.intercalate_singleton, List.flatMap_singleton]
    | cons next others =>
      rw [List.intercalate_cons_cons, List.append_assoc, List.singleton_append,
        splitAll_append_cons, ih (List.cons_ne_nil next others)]
      rfl

theorem flatMap_splitAll_of_absent {texts : List (List Char)}
    (absent : ∀ text ∈ texts, separator ∉ text) : texts.flatMap (splitAll separator) = texts := by
  induction texts with
  | nil => rfl
  | cons text rest ih =>
    obtain ⟨first, others⟩ := List.forall_mem_cons.mp absent
    rw [List.flatMap_cons, splitAll_of_absent first, ih others, List.singleton_append]

/-- The occurrences of a text of one character are those of the character. -/
theorem splitFound_singleton (cs : List Char) : splitFound [separator] 0 cs = splitAll separator cs := by
  induction cs with
  | nil => rfl
  | cons c rest ih =>
    have found : [separator].isPrefixOf (c :: rest) = true ↔ c = separator := by
      rw [List.isPrefixOf_iff_prefix, List.cons_prefix_cons, eq_comm]
      exact and_iff_left (List.nil_prefix)
    rw [splitFound, splitAll, ih]
    simp only [found, List.length_singleton, ih]

theorem between_append (opening inside closing : List Char) :
    between opening closing (opening ++ (inside ++ closing)) = some inside := by
  have opened : opening.isPrefixOf (opening ++ (inside ++ closing)) = true :=
    List.isPrefixOf_iff_prefix.mpr (List.prefix_append opening _)
  have closed : closing.isSuffixOf (inside ++ closing) = true :=
    List.isSuffixOf_iff_suffix.mpr (List.suffix_append inside closing)
  rw [between, if_pos opened, List.drop_left, if_pos closed, List.length_append, Nat.add_sub_cancel,
    List.take_left]

/-! Joined texts that are told apart. -/

/-- Where equally many separators stand before them, two separators of one text are the same one. -/
theorem append_cons_inj_of_count {front other rest more : List Char}
    (counts : front.count separator = other.count separator)
    (same : front ++ separator :: rest = other ++ separator :: more) :
    front = other ∧ rest = more := by
  induction front generalizing other with
  | nil =>
    cases other with
    | nil => exact ⟨rfl, (List.cons.inj same).2⟩
    | cons d other =>
      obtain ⟨rfl, _⟩ := List.cons.inj same
      rw [List.count_nil, List.count_cons_self] at counts
      omega
  | cons c front ih =>
    cases other with
    | nil =>
      obtain ⟨rfl, _⟩ := List.cons.inj same
      rw [List.count_nil, List.count_cons_self] at counts
      omega
    | cons d other =>
      obtain ⟨rfl, later⟩ := List.cons.inj same
      rw [List.count_cons, List.count_cons] at counts
      have fewer : front.count separator = other.count separator := by omega
      obtain ⟨rfl, rfl⟩ := ih fewer later
      exact ⟨rfl, rfl⟩

/-- Texts with equally many separators, each one as its counterpart, are told apart when they are joined. -/
theorem intercalate_inj_of_count {texts others : List (List Char)}
    (counts : texts.map (List.count separator) = others.map (List.count separator))
    (same : [separator].intercalate texts = [separator].intercalate others) : texts = others := by
  induction texts generalizing others with
  | nil => exact (List.map_eq_nil_iff.mp counts.symm).symm
  | cons text rest ih =>
    cases others with
    | nil => cases counts
    | cons other more =>
      obtain ⟨first, later⟩ := List.cons.inj counts
      cases rest with
      | nil =>
        have nothing : more = [] := List.map_eq_nil_iff.mp later.symm
        rw [nothing, List.intercalate_singleton, List.intercalate_singleton] at same
        rw [nothing, same]
      | cons next rest =>
        cases more with
        | nil => cases later
        | cons following more =>
          rw [List.intercalate_cons_cons, List.intercalate_cons_cons, List.append_assoc,
            List.append_assoc] at same
          obtain ⟨rfl, tails⟩ := append_cons_inj_of_count first same
          rw [ih later tails]

/-- The separators of a joined text are those inside the texts and those between them. -/
theorem count_intercalate_cons (text : List Char) (rest : List (List Char)) :
    ([separator].intercalate (text :: rest)).count separator =
      text.count separator + ((rest.map (List.count separator)).map Nat.succ).sum := by
  rw [intercalate_cons_eq, List.count_append, List.count_flatMap, List.map_map]
  congr 2
  refine List.map_congr_left ?_
  intro other _
  exact List.count_cons_self

/-- The first of the joined texts may hold any number of separators. -/
theorem intercalate_cons_inj_of_count {text other : List Char} {rest more : List (List Char)}
    (counts : rest.map (List.count separator) = more.map (List.count separator))
    (same : [separator].intercalate (text :: rest) = [separator].intercalate (other :: more)) :
    text :: rest = other :: more := by
  have total := congrArg (List.count separator) same
  rw [count_intercalate_cons, count_intercalate_cons, counts] at total
  have first : text.count separator = other.count separator := Nat.add_right_cancel total
  exact intercalate_inj_of_count (congrArg₂ List.cons first counts) same

/-- Texts that are not empty and hold no separator are told apart when they are joined. -/
theorem intercalate_inj_of_absent {texts others : List (List Char)}
    (filled : ∀ text ∈ texts, text ≠ [] ∧ separator ∉ text)
    (filledToo : ∀ text ∈ others, text ≠ [] ∧ separator ∉ text)
    (same : [separator].intercalate texts = [separator].intercalate others) : texts = others := by
  have pieces {items : List (List Char)} (good : ∀ text ∈ items, text ≠ [] ∧ separator ∉ text) :
      items = (splitAll separator ([separator].intercalate items)).filter (· ≠ []) := by
    by_cases nothing : items = []
    · subst nothing
      rfl
    · rw [splitAll_intercalate nothing, flatMap_splitAll_of_absent fun text inside => (good text inside).2,
        List.filter_eq_self.mpr]
      intro text inside
      exact decide_eq_true (good text inside).1
  rw [pieces filled, same, ← pieces filledToo]

/-- Two ways to cut a text at a separator: at the same place, or one of them before the other. -/
theorem append_cons_eq_append_cons_iff {front other rest more : List Char} :
    front ++ separator :: rest = other ++ separator :: more ↔
      (front = other ∧ rest = more) ∨
      (∃ between, other = front ++ separator :: between ∧ rest = between ++ separator :: more) ∨
      ∃ between, front = other ++ separator :: between ∧ more = between ++ separator :: rest := by
  have later {a b c d : List Char} {gap : List Char} (longer : b = a ++ gap)
      (tails : separator :: c = gap ++ separator :: d) :
      (a = b ∧ c = d) ∨ ∃ between, b = a ++ separator :: between ∧ c = between ++ separator :: d := by
    cases gap with
    | nil => exact Or.inl ⟨by rw [longer, List.append_nil], (List.cons.inj tails).2⟩
    | cons s gap =>
      obtain ⟨rfl, tail⟩ := List.cons.inj tails
      exact Or.inr ⟨gap, longer, tail⟩
  constructor
  · intro same
    rcases List.append_eq_append_iff.mp same with ⟨gap, longer, tails⟩ | ⟨gap, longer, tails⟩
    · rcases later longer tails with equal | moved
      · exact Or.inl equal
      · exact Or.inr (Or.inl moved)
    · rcases later longer tails with ⟨fronts, rests⟩ | moved
      · exact Or.inl ⟨fronts.symm, rests.symm⟩
      · exact Or.inr (Or.inr moved)
  · rintro (⟨rfl, rfl⟩ | ⟨between, rfl, rfl⟩ | ⟨between, rfl, rfl⟩)
    · rfl
    · rw [List.append_assoc, List.cons_append]
    · rw [List.append_assoc, List.cons_append]

end GatewayRouting.Text
