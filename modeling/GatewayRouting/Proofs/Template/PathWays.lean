import GatewayRouting.Proofs.Template.PathSplits
import GatewayRouting.Proofs.Template.WaysOrder

/-!
The pieces of a path template take a path in exactly the ways in which it splits along the tokens, and
list them with the shortest values first.
-/

set_option autoImplicit false

namespace GatewayRouting.UpstreamTemplate

open Pattern (ways mem_ways_nil mem_ways_cons mem_ways_literal mem_ways_last)

variable {caseSensitive : Bool} {path : List Char} {values : List (List Char)}

/-- The pieces of a last literal. -/
theorem mem_ways_lastLiteral {text : List Char} :
    values ∈ ways caseSensitive (literalPieces text []) path ↔
      Splits caseSensitive [.literal text] path values := by
  rw [literalPieces, mem_ways_literal]
  simp only [mem_ways_last, Piece.Matches, Piece.values]
  cases final : endsInSlash text with
  | false =>
    rw [if_neg (by simp)]
    constructor
    · rintro ⟨part, rest, rfl, same, rfl | rfl, rfl⟩
      · exact .literal same .done
      · exact .extraSlash final same
    · intro splits
      cases splits with
      | literal same others =>
        cases others
        exact ⟨_, [], rfl, same, Or.inl rfl, rfl⟩
      | extraSlash _ same => exact ⟨_, ['/'], rfl, same, Or.inr rfl, rfl⟩
      | missingSlash final' _ => rw [final] at final'; cases final'
  | true =>
    rw [if_pos rfl]
    constructor
    · rintro ⟨part, rest, rfl, same, rfl | rfl, rfl⟩
      · rw [List.append_nil]
        exact .missingSlash final same
      · have whole : Text.SameText caseSensitive text (part ++ ['/']) :=
          (sameText_of_endsInSlash final).mpr ⟨part, rfl, same⟩
        rw [← List.append_nil (part ++ ['/'])]
        exact .literal whole .done
    · intro splits
      cases splits with
      | literal same others =>
        cases others
        obtain ⟨front, rfl, sameFront⟩ := (sameText_of_endsInSlash final).mp same
        exact ⟨front, ['/'], by rw [List.append_nil], sameFront, Or.inr rfl, rfl⟩
      | extraSlash final' _ => rw [final] at final'; cases final'
      | missingSlash _ same => exact ⟨_, [], by rw [List.append_nil], same, Or.inl rfl, rfl⟩

/-- The pieces of a last placeholder and of the literal before it. -/
theorem mem_ways_tail {text : List Char} {name : String} :
    values ∈ ways caseSensitive
        (literalPieces text [.placeholder name] ++ [placeholderPiece (some (.literal text)) []]) path ↔
      Splits caseSensitive [.literal text, .placeholder name] path values := by
  rw [literalPieces, placeholderPiece]
  cases final : endsInSlash text with
  | false =>
    rw [if_neg (by simp), if_neg (by simp), List.singleton_append, mem_ways_literal]
    simp only [mem_ways_last, Piece.Matches, Piece.values]
    constructor
    · rintro ⟨part, rest, rfl, same, absent, rfl⟩
      exact .literal same (.lastPlaceholder absent)
    · intro splits
      cases splits with
      | literal same others =>
        cases others with
        | placeholder more _ _ _ => exact absurd rfl more
        | lastPlaceholder absent => exact ⟨_, _, rfl, same, absent, rfl⟩
      | missingSlashOfTail final' _ => rw [final] at final'; cases final'
  | true =>
    rw [if_pos rfl, if_pos rfl, List.singleton_append, mem_ways_literal]
    simp only [mem_ways_last, Piece.Matches, Piece.values]
    constructor
    · rintro ⟨part, rest, rfl, same, rfl | ⟨value, rfl, absent⟩, rfl⟩
      · rw [List.append_nil]
        exact .missingSlashOfTail final same
      · have whole : Text.SameText caseSensitive text (part ++ ['/']) :=
          (sameText_of_endsInSlash final).mpr ⟨part, rfl, same⟩
        rw [List.append_cons]
        exact .literal whole (.lastPlaceholder absent)
    · intro splits
      cases splits with
      | literal same others =>
        obtain ⟨front, rfl, sameFront⟩ := (sameText_of_endsInSlash final).mp same
        cases others with
        | placeholder more _ _ _ => exact absurd rfl more
        | lastPlaceholder absent =>
          exact ⟨front, _, List.append_assoc _ _ _, sameFront, Or.inr ⟨_, rfl, absent⟩, rfl⟩
      | missingSlashOfTail _ same => exact ⟨_, [], by rw [List.append_nil], same, Or.inl rfl, rfl⟩

theorem splits_literal_iff {text : List Char} {rest : List Token} (more : rest ≠ [])
    (notTail : ∀ name, rest ≠ [.placeholder name]) :
    Splits caseSensitive (.literal text :: rest) path values ↔
      ∃ part after, path = part ++ after ∧ Text.SameText caseSensitive text part ∧
        Splits caseSensitive rest after values := by
  constructor
  · intro splits
    cases splits with
    | literal same others => exact ⟨_, _, rfl, same, others⟩
    | extraSlash _ _ => exact absurd rfl more
    | missingSlash _ _ => exact absurd rfl more
    | missingSlashOfTail _ _ => exact absurd rfl (notTail _)
  · rintro ⟨part, after, rfl, same, others⟩
    exact .literal same others

theorem splits_placeholder_iff {name : String} {rest : List Token} (more : rest ≠ []) :
    Splits caseSensitive (.placeholder name :: rest) path values ↔
      ∃ value after others, path = value ++ after ∧ (value ≠ [] ∧ '/' ∉ value) ∧
        Splits caseSensitive rest after others ∧ values = value :: others := by
  constructor
  · intro splits
    cases splits with
    | placeholder _ filled absent others => exact ⟨_, _, _, rfl, ⟨filled, absent⟩, others, rfl⟩
    | lastPlaceholder _ => exact absurd rfl more
  · rintro ⟨value, after, others, rfl, ⟨filled, absent⟩, splits, rfl⟩
    exact .placeholder more filled absent splits

theorem literalPieces_of_more {text : List Char} {rest : List Token} (more : rest ≠ [])
    (notTail : ∀ name, rest ≠ [.placeholder name]) : literalPieces text rest = [.literal text] := by
  unfold literalPieces
  split
  · exact absurd rfl more
  · exact absurd rfl (notTail _)
  · rfl

/-- A placeholder that is not last takes a greedy segment only before a slash. -/
theorem placeholderPiece_of_more (before : Option Token) {rest : List Token} (more : rest ≠ []) :
    (placeholderPiece before rest = .segment ∧
      ∃ text tokens, rest = .literal text :: tokens ∧ startsWithSlash text = true) ∨
    placeholderPiece before rest = .shortSegment := by
  cases rest with
  | nil => exact absurd rfl more
  | cons token tokens =>
    cases token with
    | literal text =>
      cases initial : startsWithSlash text with
      | true => exact Or.inl ⟨by simp [placeholderPiece, initial], text, tokens, rfl, initial⟩
      | false => exact Or.inr (by simp [placeholderPiece, initial])
    | placeholder name => exact Or.inr rfl

theorem mem_ways_placeholder {p : Piece} {pieces : List Piece} {name : String} {rest : List Token}
    (segment : p = .segment ∨ p = .shortSegment) (more : rest ≠ [])
    (others : ∀ {path values}, values ∈ ways caseSensitive pieces path ↔
      Splits caseSensitive rest path values) :
    values ∈ ways caseSensitive (p :: pieces) path ↔
      Splits caseSensitive (.placeholder name :: rest) path values := by
  rw [mem_ways_cons, splits_placeholder_iff more]
  rcases segment with rfl | rfl
  · simp only [others, Piece.Matches, Piece.values, List.singleton_append]
  · simp only [others, Piece.Matches, Piece.values, List.singleton_append]

/-- The pieces take a text in the ways in which it splits along the tokens, the least values first. -/
structure Enumerates (caseSensitive : Bool) (pieces : List Piece) (tokens : List Token) : Prop where
  mem : ∀ {path values},
    values ∈ ways caseSensitive pieces path ↔ Splits caseSensitive tokens path values
  ascending : Pattern.Ascending caseSensitive pieces

namespace Enumerates

theorem nil : Enumerates caseSensitive [] [] := by
  refine ⟨?_, Pattern.ascending_nil⟩
  intro path values
  rw [mem_ways_nil]
  constructor
  · rintro ⟨rfl, rfl⟩
    exact .done
  · intro splits
    cases splits
    exact ⟨rfl, rfl⟩

theorem lastLiteral (text : List Char) :
    Enumerates caseSensitive (literalPieces text []) [.literal text] :=
  ⟨mem_ways_lastLiteral, Pattern.ascending_literal _ (Pattern.ascending_last _)⟩

theorem tail (text : List Char) (name : String) :
    Enumerates caseSensitive
      (literalPieces text [.placeholder name] ++ [placeholderPiece (some (.literal text)) []])
      [.literal text, .placeholder name] :=
  ⟨mem_ways_tail, Pattern.ascending_literal _ (Pattern.ascending_last _)⟩

theorem lastPlaceholder (name : String) : Enumerates caseSensitive [.anything] [.placeholder name] := by
  refine ⟨?_, Pattern.ascending_last _⟩
  intro path values
  rw [mem_ways_last]
  constructor
  · rintro ⟨absent, rfl⟩
    exact .lastPlaceholder absent
  · intro splits
    cases splits with
    | placeholder more _ _ _ => exact absurd rfl more
    | lastPlaceholder absent => exact ⟨absent, rfl⟩

variable {pieces : List Piece} {rest : List Token}

theorem literal {text : List Char} (more : rest ≠ []) (notTail : ∀ name, rest ≠ [.placeholder name])
    (others : Enumerates caseSensitive pieces rest) :
    Enumerates caseSensitive (.literal text :: pieces) (.literal text :: rest) := by
  refine ⟨?_, Pattern.ascending_literal text others.ascending⟩
  intro path values
  rw [mem_ways_literal, splits_literal_iff more notTail]
  simp only [others.mem]

theorem placeholder {before : Option Token} {name : String} (more : rest ≠ [])
    (others : Enumerates caseSensitive pieces rest) :
    Enumerates caseSensitive (placeholderPiece before rest :: pieces) (.placeholder name :: rest) := by
  rcases placeholderPiece_of_more before more with ⟨greedy, text, tokens, rfl, initial⟩ | short
  · rw [greedy]
    refine ⟨mem_ways_placeholder (Or.inl rfl) more others.mem, ?_⟩
    apply Pattern.ascending_segment others.ascending
    intro after taken
    obtain ⟨values, way⟩ := List.exists_mem_of_ne_nil _ taken
    exact (others.mem.mp way).head?_of_startsWithSlash initial
  · rw [short]
    exact ⟨mem_ways_placeholder (Or.inr rfl) more others.mem,
      Pattern.ascending_shortSegment others.ascending⟩

end Enumerates

/-- The pieces after a token, unless it makes a lone placeholder the tail of a literal. -/
theorem piecesAfter_enumerates (before : Option Token) (tokens : List Token)
    (start : ∀ name, tokens = [.placeholder name] → placeholderPiece before [] = .anything) :
    Enumerates caseSensitive (piecesAfter before tokens) tokens := by
  induction tokens generalizing before with
  | nil => exact .nil
  | cons token rest ih =>
    cases token with
    | literal text =>
      rw [piecesAfter]
      by_cases last : rest = []
      · subst last
        rw [piecesAfter, List.append_nil]
        exact .lastLiteral text
      by_cases tail : ∃ name, rest = [.placeholder name]
      · obtain ⟨name, rfl⟩ := tail
        exact .tail text name
      · have notTail : ∀ name, rest ≠ [.placeholder name] := fun name same => tail ⟨name, same⟩
        rw [literalPieces_of_more last notTail]
        exact .literal last notTail (ih _ fun name same => absurd same (notTail name))
    | placeholder name =>
      rw [piecesAfter]
      by_cases last : rest = []
      · subst last
        rw [start name rfl]
        exact .lastPlaceholder name
      · exact .placeholder last (ih _ fun _ _ => rfl)

end GatewayRouting.UpstreamTemplate
