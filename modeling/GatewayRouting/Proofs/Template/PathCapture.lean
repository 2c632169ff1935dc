import GatewayRouting.Proofs.Template.Compiled
import GatewayRouting.Proofs.Template.PathWays

/-!
What an upstream template captures from a path: the values of the least split along its tokens.
-/

set_option autoImplicit false

namespace GatewayRouting.UpstreamTemplate

open Pattern (ways mem_ways_literal mem_ways_last)

variable {caseSensitive : Bool}

/-- The pieces of a path part, with its two special cases. -/
theorem shape_cases (tokens : List Token) (hasQuery : Bool) :
    (tokens = [.literal ['/']] ∧ (shape tokens hasQuery).1 = [.literal ['/']]) ∨
    (hasQuery = false ∧ ∃ name, tokens = [.literal ['/'], .placeholder name] ∧
      (shape tokens hasQuery).1 = [.literal ['/'], .anything]) ∨
    ((tokens ≠ [.literal ['/']] ∧
      ∀ name, tokens = [.literal ['/'], .placeholder name] → hasQuery = true) ∧
      (shape tokens hasQuery).1 = piecesAfter none tokens) := by
  unfold shape
  split
  · exact Or.inl ⟨rfl, rfl⟩
  · cases hasQuery with
    | false => exact Or.inr (Or.inl ⟨rfl, _, rfl, rfl⟩)
    | true => exact Or.inr (Or.inr ⟨⟨by simp, fun _ _ => rfl⟩, rfl⟩)
  · rename_i notRoot notWhole
    exact Or.inr (Or.inr ⟨⟨notRoot, fun name same => absurd same (notWhole name)⟩, rfl⟩)

theorem slash_same_slash : Text.SameText caseSensitive ['/'] ['/'] :=
  Text.SameText.slash_cons_iff.mpr ⟨[], rfl, .nil⟩

theorem mem_ways_root {path : List Char} {values : List (List Char)} :
    values ∈ ways caseSensitive [.literal ['/']] path ↔ path = ['/'] ∧ values = [] := by
  rw [mem_ways_last, Piece.Matches, Text.SameText.slash_cons_iff]
  constructor
  · rintro ⟨⟨rest, rfl, same⟩, rfl⟩
    cases same
    exact ⟨rfl, rfl⟩
  · rintro ⟨rfl, rfl⟩
    exact ⟨⟨[], rfl, .nil⟩, rfl⟩

theorem mem_ways_whole {path : List Char} {values : List (List Char)} :
    values ∈ ways caseSensitive [.literal ['/'], .anything] path ↔
      ∃ value, path = '/' :: value ∧ '\n' ∉ value ∧ values = [value] := by
  rw [mem_ways_literal]
  simp only [mem_ways_last, Piece.Matches, Piece.values]
  constructor
  · rintro ⟨part, value, rfl, same, absent, rfl⟩
    obtain ⟨rest, rfl, ends⟩ := Text.SameText.slash_cons_iff.mp same
    cases ends
    exact ⟨value, rfl, absent, rfl⟩
  · rintro ⟨value, rfl, absent, rfl⟩
    exact ⟨['/'], value, rfl, slash_same_slash, absent, rfl⟩

/-- The pieces of a path part take a path in the ways in which it splits along the tokens. -/
theorem mem_ways_shape {tokens : List Token} {hasQuery : Bool} {path : List Char}
    {values : List (List Char)} :
    values ∈ ways caseSensitive (shape tokens hasQuery).1 path ↔
      PathSplits caseSensitive hasQuery tokens path values := by
  rcases shape_cases tokens hasQuery with ⟨rfl, pieces⟩ | ⟨rfl, name, rfl, pieces⟩ |
    ⟨⟨notRoot, notWhole⟩, pieces⟩
  · rw [pieces, mem_ways_root]
    constructor
    · rintro ⟨rfl, rfl⟩
      exact ⟨.literal slash_same_slash .done, fun _ => rfl, fun _ same => by simp at same⟩
    · intro split
      exact ⟨split.root rfl, List.eq_nil_of_length_eq_zero split.splits.length_values⟩
  · rw [pieces, mem_ways_whole]
    constructor
    · rintro ⟨value, rfl, absent, rfl⟩
      exact ⟨.literal slash_same_slash (.lastPlaceholder absent), fun same => by simp at same,
        fun _ _ _ => rfl⟩
    · rintro ⟨splits, _, whole⟩
      have initial := whole name rfl rfl
      cases splits with
      | literal same others =>
        obtain ⟨rest, rfl, ends⟩ := Text.SameText.slash_cons_iff.mp same
        cases ends
        cases others with
        | placeholder more _ _ _ => exact absurd rfl more
        | lastPlaceholder absent => exact ⟨_, rfl, absent, rfl⟩
      | missingSlashOfTail _ same =>
        cases same
        cases initial
  · have start : ∀ name, tokens = [.placeholder name] → placeholderPiece none [] = .anything :=
      fun _ _ => rfl
    rw [pieces, (piecesAfter_enumerates none tokens start).mem]
    constructor
    · intro splits
      refine ⟨splits, fun same => absurd same notRoot, ?_⟩
      intro name same noQuery
      rw [notWhole name same] at noQuery
      cases noQuery
    · exact PathSplits.splits

theorem ascending_shape (tokens : List Token) (hasQuery : Bool) :
    Pattern.Ascending caseSensitive (shape tokens hasQuery).1 := by
  rcases shape_cases tokens hasQuery with ⟨_, pieces⟩ | ⟨_, _, _, pieces⟩ | ⟨_, pieces⟩
  · rw [pieces]
    exact Pattern.ascending_last _
  · rw [pieces]
    exact Pattern.ascending_literal _ (Pattern.ascending_last _)
  · rw [pieces]
    exact (piecesAfter_enumerates none tokens fun _ _ => rfl).ascending

/-- What the search finds in a path is its least split. -/
theorem capture_shape_eq_some_iff {tokens : List Token} {hasQuery : Bool} {path : List Char}
    {values : List (List Char)} :
    Pattern.capture caseSensitive (shape tokens hasQuery).1 path = some values ↔
      PathSplits caseSensitive hasQuery tokens path values ∧
        ∀ other, PathSplits caseSensitive hasQuery tokens path other →
          values.map List.length ≤ other.map List.length := by
  rw [Pattern.capture_eq_head?,
    Pattern.head?_eq_some_iff_of_ascending (ascending_shape tokens hasQuery path)]
  simp only [mem_ways_shape]

theorem isSome_capture_shape_iff {tokens : List Token} {hasQuery : Bool} {path : List Char} :
    (Pattern.capture caseSensitive (shape tokens hasQuery).1 path).isSome = true ↔
      ∃ values, PathSplits caseSensitive hasQuery tokens path values := by
  rw [Pattern.isSome_capture_iff]
  simp only [mem_ways_shape]

theorem compile_eq_ok {template : String} {t : UpstreamTemplate}
    (accepted : compile template caseSensitive = .ok t) :
    ∃ tokens, Token.tokenize .bare (splitQuery template).1 = .ok tokens ∧
      t.pieces = (shape tokens (splitQuery template).2.isSome).1 ∧
      t.caseSensitive = caseSensitive ∧ t.pathNames = Token.names tokens := by
  obtain ⟨_, tokens, query, read, parsed, _, rfl⟩ := compile_eq_ok_iff.mp accepted
  refine ⟨tokens, read, ?_, rfl, rfl⟩
  rw [← isSome_of_mapM parsed]
  rfl

/-- A compiled template takes a path exactly when the path splits along the tokens of the path part, and
it captures the values of the split whose lengths, read from the left, are least. -/
theorem capturePath_eq_least_split {template : String} {t : UpstreamTemplate}
    (accepted : compile template caseSensitive = .ok t) :
    ∃ tokens, Token.tokenize .bare (splitQuery template).1 = .ok tokens ∧
      ∀ path : String,
        ((t.capturePath path).isSome = true ↔
          ∃ values, PathSplits caseSensitive (splitQuery template).2.isSome tokens path.toList values) ∧
        ∀ found, t.capturePath path = some found ↔
          ∃ values,
            PathSplits caseSensitive (splitQuery template).2.isSome tokens path.toList values ∧
            (∀ other,
              PathSplits caseSensitive (splitQuery template).2.isSome tokens path.toList other →
                values.map List.length ≤ other.map List.length) ∧
            values.length = (Token.names tokens).length ∧
            found = (Token.names tokens).zipWith
              (fun name value => ⟨name, String.ofList value⟩) values := by
  obtain ⟨tokens, read, pieces, sensitive, names⟩ := compile_eq_ok accepted
  refine ⟨tokens, read, fun path => ⟨?_, fun found => ?_⟩⟩
  · rw [capturePath, Option.isSome_map, pieces, sensitive]
    exact isSome_capture_shape_iff
  · rw [capturePath, pieces, sensitive, names, Option.map_eq_some_iff]
    constructor
    · rintro ⟨values, captured, rfl⟩
      obtain ⟨split, least⟩ := capture_shape_eq_some_iff.mp captured
      exact ⟨values, split, least, split.splits.length_values, rfl⟩
    · rintro ⟨values, split, least, _, rfl⟩
      exact ⟨values, capture_shape_eq_some_iff.mpr ⟨split, least⟩, rfl⟩

/-- Adjacent placeholders: the first takes one character. -/
theorem capturePath_of_adjacent :
    ∃ t, compile "/\x7ba\x7d\x7bb\x7d" false = .ok t ∧
      t.capturePath "/xyz" = some [⟨"a", "x"⟩, ⟨"b", "yz"⟩] := by
  obtain ⟨t, accepted⟩ := exists_of_isOk
    (show (compile "/\x7ba\x7d\x7bb\x7d" false).isOk = true by decide +kernel)
  obtain ⟨tokens, read, captured⟩ := capturePath_eq_least_split accepted
  have known : Token.tokenize .bare (splitQuery "/\x7ba\x7d\x7bb\x7d").1 =
      .ok [.literal ['/'], .placeholder "a", .placeholder "b"] := by decide +kernel
  rw [known] at read
  cases read
  have path : "/xyz".toList = ['/'] ++ (['x'] ++ ['y', 'z']) := by decide
  refine ⟨t, accepted, ((captured "/xyz").2 _).mpr ⟨[['x'], ['y', 'z']], ?_, ?_, rfl, by decide⟩⟩
  · rw [path]
    refine ⟨.literal slash_same_slash (.placeholder (by simp) (by simp) (by simp)
      (.lastPlaceholder (by simp))), fun same => by simp at same, fun _ same => by simp at same⟩
  · rintro other ⟨splits, _, _⟩
    rw [path] at splits
    obtain ⟨part, after, whole, same, split⟩ := (splits_literal_iff (by simp) (by simp)).mp splits
    obtain ⟨value, rest, others, rfl, ⟨filled, _⟩, last, rfl⟩ :=
      (splits_placeholder_iff (by simp)).mp split
    have sizes := congrArg List.length whole
    have slash := same.length_eq
    have positive := List.length_pos_iff.mpr filled
    cases last with
    | placeholder more _ _ _ => exact absurd rfl more
    | lastPlaceholder _ =>
      simp only [List.length_append, List.length_cons, List.length_nil] at sizes slash
      simp only [List.map_cons, List.map_nil, List.length_cons, List.length_nil]
      rw [← not_lt, List.cons_lt_cons_iff, List.cons_lt_cons_iff]
      simp only [List.lt_irrefl, and_false, or_false]
      omega

end GatewayRouting.UpstreamTemplate
