import GatewayRouting.Proofs.Downstream.Filling
import GatewayRouting.Proofs.Downstream.Parts

/-!
What a header template captures from a value: of all splits along its tokens the one with the longest values,
read from the left. Putting the values back gives the header value again.
-/

set_option autoImplicit false

namespace GatewayRouting.HeaderTemplate

open Pattern (ways mem_ways_nil mem_ways_cons mem_ways_literal)

/-- A text is split along tokens, and the placeholders among them take the values. None of them is empty, and
only the value of the last placeholder may have a slash. -/
inductive Splits (caseSensitive : Bool) : List Token → List Char → List (List Char) → Prop
  | done : Splits caseSensitive [] [] []
  | literal {text part rest : List Char} {tokens : List Token} {values : List (List Char)} :
      Text.SameText caseSensitive text part → Splits caseSensitive tokens rest values →
      Splits caseSensitive (.literal text :: tokens) (part ++ rest) values
  | placeholder {name : String} {value rest : List Char} {tokens : List Token}
      {values : List (List Char)} :
      value ≠ [] → (Token.names tokens ≠ [] → '/' ∉ value) → Splits caseSensitive tokens rest values →
      Splits caseSensitive (.placeholder name :: tokens) (value ++ rest) (value :: values)

/-- The tokens with values in place of the placeholders. -/
def rebuilt (tokens : List Token) (captures : List Capture) : List Char :=
  (tokens.map Span.ofToken).flatMap (Span.shown captures)

variable {caseSensitive : Bool} {tokens : List Token} {text : List Char} {values : List (List Char)}

theorem splits_nil_iff : Splits caseSensitive [] text values ↔ text = [] ∧ values = [] := by
  constructor
  · intro splits
    cases splits
    exact ⟨rfl, rfl⟩
  · rintro ⟨rfl, rfl⟩
    exact .done

theorem splits_literal_iff {literal : List Char} :
    Splits caseSensitive (.literal literal :: tokens) text values ↔
      ∃ part rest, text = part ++ rest ∧ Text.SameText caseSensitive literal part ∧
        Splits caseSensitive tokens rest values := by
  constructor
  · intro splits
    cases splits with
    | literal same others => exact ⟨_, _, rfl, same, others⟩
  · rintro ⟨part, rest, rfl, same, others⟩
    exact .literal same others

theorem splits_placeholder_iff {name : String} :
    Splits caseSensitive (.placeholder name :: tokens) text values ↔
      ∃ value rest others, text = value ++ rest ∧
        (value ≠ [] ∧ (Token.names tokens ≠ [] → '/' ∉ value)) ∧
        Splits caseSensitive tokens rest others ∧ values = value :: others := by
  constructor
  · intro splits
    cases splits with
    | placeholder filled absent others => exact ⟨_, _, _, rfl, ⟨filled, absent⟩, others, rfl⟩
  · rintro ⟨value, rest, others, rfl, ⟨filled, absent⟩, splits, rfl⟩
    exact .placeholder filled absent splits

theorem Splits.length_values (splits : Splits caseSensitive tokens text values) :
    values.length = (Token.names tokens).length := by
  induction splits with
  | done => rfl
  | literal _ _ ih => exact ih
  | placeholder _ _ _ ih => exact congrArg Nat.succ ih

/-- What a placeholder takes from a text on one line. -/
theorem matches_placeholder_iff {value : List Char} (oneLine : '\n' ∉ value) :
    (if (Token.names tokens).isEmpty then Piece.something else .segment).Matches caseSensitive value ↔
      value ≠ [] ∧ (Token.names tokens ≠ [] → '/' ∉ value) := by
  cases Token.names tokens with
  | nil => simp [Piece.Matches, oneLine]
  | cons name names => simp [Piece.Matches]

theorem values_placeholder (value : List Char) :
    (if (Token.names tokens).isEmpty then Piece.something else .segment).values value = [value] := by
  split <;> rfl

/-- The pieces take a text on one line in the ways in which it splits along the tokens. -/
theorem mem_ways_piecesOf (oneLine : '\n' ∉ text) :
    values ∈ ways caseSensitive (piecesOf tokens) text ↔ Splits caseSensitive tokens text values := by
  induction tokens generalizing text values with
  | nil => rw [piecesOf, mem_ways_nil, splits_nil_iff]
  | cons token tokens ih =>
    -- What is left behind the first token is on one line too.
    have ofRest {part rest : List Char} {others : List (List Char)} (split : text = part ++ rest) :
        others ∈ ways caseSensitive (piecesOf tokens) rest ↔ Splits caseSensitive tokens rest others := by
      apply ih
      rw [split, List.mem_append, not_or] at oneLine
      exact oneLine.2
    cases token with
    | literal literal =>
      rw [piecesOf, mem_ways_literal, splits_literal_iff]
      constructor
      · rintro ⟨part, rest, split, same, way⟩
        exact ⟨part, rest, split, same, (ofRest split).mp way⟩
      · rintro ⟨part, rest, split, same, others⟩
        exact ⟨part, rest, split, same, (ofRest split).mpr others⟩
    | placeholder name =>
      have ofFront {part rest : List Char} (split : text = part ++ rest) : '\n' ∉ part := by
        rw [split, List.mem_append, not_or] at oneLine
        exact oneLine.1
      rw [piecesOf, mem_ways_cons, splits_placeholder_iff]
      constructor
      · rintro ⟨value, rest, others, split, fits, way, rfl⟩
        rw [values_placeholder]
        exact ⟨value, rest, others, split, (matches_placeholder_iff (ofFront split)).mp fits,
          (ofRest split).mp way, rfl⟩
      · rintro ⟨value, rest, others, split, fits, splits, rfl⟩
        refine ⟨value, rest, others, split, (matches_placeholder_iff (ofFront split)).mpr fits,
          (ofRest split).mpr splits, ?_⟩
        rw [values_placeholder, List.singleton_append]

/-- Each placeholder prefers the longest text. -/
theorem descending_piecesOf (tokens : List Token) :
    Pattern.Descending caseSensitive (piecesOf tokens) := by
  induction tokens with
  | nil => exact Pattern.descending_nil
  | cons token tokens ih =>
    cases token with
    | literal literal => exact Pattern.descending_literal literal ih
    | placeholder name =>
      rw [piecesOf]
      split
      · exact Pattern.descending_something ih
      · exact Pattern.descending_segment ih

theorem capture_piecesOf_eq_some_iff (oneLine : '\n' ∉ text) :
    Pattern.capture caseSensitive (piecesOf tokens) text = some values ↔
      Splits caseSensitive tokens text values ∧
        ∀ other, Splits caseSensitive tokens text other →
          other.map List.length ≤ values.map List.length := by
  rw [Pattern.capture_eq_head?,
    Pattern.head?_eq_some_iff_of_descending (descending_piecesOf tokens text)]
  simp only [mem_ways_piecesOf oneLine]

theorem isSome_capture_piecesOf_iff (oneLine : '\n' ∉ text) :
    (Pattern.capture caseSensitive (piecesOf tokens) text).isSome = true ↔
      ∃ values, Splits caseSensitive tokens text values := by
  rw [Pattern.isSome_capture_iff]
  simp only [mem_ways_piecesOf oneLine]

/-- The values of a split give the text again where they are put into the tokens. -/
theorem Splits.sameText_rebuilt {captures : List Capture}
    (splits : Splits caseSensitive tokens text values)
    (assigns : Assigns captures (Token.names tokens) values) :
    Text.SameText caseSensitive (rebuilt tokens captures) text := by
  induction splits with
  | done => exact .nil
  | literal same _ ih => exact same.append (ih assigns)
  | @placeholder name value rest tokens values _ _ _ ih =>
    obtain ⟨found, others⟩ := List.forall₂_cons.mp assigns
    have own : (Span.ofToken (.placeholder name)).shown captures = value := by
      rw [Span.ofToken, Span.shown, found, Option.getD_some]
    have whole : rebuilt (.placeholder name :: tokens) captures = value ++ rebuilt tokens captures := by
      rw [rebuilt, List.map_cons, List.flatMap_cons, own, rebuilt]
    rw [whole]
    exact (Text.SameText.refl value).append (ih others)

/-- A compiled template takes a value exactly when the value splits along the tokens, and it captures the
values of the split whose lengths, read from the left, are greatest. They rebuild the value, character for
character where case counts. -/
theorem captures_eq_greatest_split {name template : String} {t : HeaderTemplate}
    (accepted : compile name template caseSensitive = .ok t) :
    ∃ tokens, Token.tokenize .header template = .ok tokens ∧
      ∀ value : String, '\n' ∉ value.toList →
        ((t.captures value).isSome = true ↔
          ∃ values, Splits caseSensitive tokens value.toList values) ∧
        ∀ found,
          (t.captures value = some found ↔
            ∃ values, Splits caseSensitive tokens value.toList values ∧
              (∀ other, Splits caseSensitive tokens value.toList other →
                other.map List.length ≤ values.map List.length) ∧
              values.length = (Token.names tokens).length ∧
              found = assigned (Token.names tokens) values) ∧
          (t.captures value = some found →
            Text.SameText caseSensitive (rebuilt tokens found) value.toList ∧
            (caseSensitive = true → rebuilt tokens found = value.toList)) := by
  obtain ⟨tokens, read, distinct, rfl⟩ := compile_eq_ok_iff.mp accepted
  refine ⟨tokens, read, fun value oneLine => ?_⟩
  have greatest (found : List Capture) :
      (ofTokens name template caseSensitive tokens).captures value = some found ↔
        ∃ values, Splits caseSensitive tokens value.toList values ∧
          (∀ other, Splits caseSensitive tokens value.toList other →
            other.map List.length ≤ values.map List.length) ∧
          values.length = (Token.names tokens).length ∧
          found = assigned (Token.names tokens) values := by
    rw [captures, Option.map_eq_some_iff]
    constructor
    · rintro ⟨values, captured, rfl⟩
      obtain ⟨splits, greatest⟩ := (capture_piecesOf_eq_some_iff oneLine).mp captured
      exact ⟨values, splits, greatest, splits.length_values, rfl⟩
    · rintro ⟨values, splits, greatest, _, rfl⟩
      exact ⟨values, (capture_piecesOf_eq_some_iff oneLine).mpr ⟨splits, greatest⟩, rfl⟩
  refine ⟨?_, fun found => ⟨greatest found, fun captured => ?_⟩⟩
  · rw [captures, Option.isSome_map]
    exact isSome_capture_piecesOf_iff oneLine
  · obtain ⟨values, splits, _, sizes, rfl⟩ := (greatest found).mp captured
    have assigns := assigns_of_distinct (requireDistinct_eq_ok.mp distinct) sizes []
    rw [List.append_nil] at assigns
    have same := splits.sameText_rebuilt assigns
    refine ⟨same, ?_⟩
    rintro rfl
    exact same.eq_of_sensitive

/-- Of two placeholders side by side the first takes all but one character, and the last one of the three has
a slash in its value. -/
theorem captures_of_adjacent_names :
    ∃ t, compile "X-Trace" "\x7ba\x7d\x7bheader:b\x7d-\x7bc\x7d;v1" true = .ok t ∧
      '\n' ∉ "xyz-q/r;v1".toList ∧
      t.captures "xyz-q/r;v1" = some [⟨"a", "xy"⟩, ⟨"b", "z"⟩, ⟨"c", "q/r"⟩] ∧
      ∃ tokens, Splits true tokens "xyz-q/r;v1".toList [['x', 'y'], ['z'], ['q', '/', 'r']] ∧
        ∀ other, Splits true tokens "xyz-q/r;v1".toList other → other.map List.length ≤ [2, 1, 3] := by
  have accepted : compile "X-Trace" "\x7ba\x7d\x7bheader:b\x7d-\x7bc\x7d;v1" true =
      .ok (ofTokens "X-Trace" "\x7ba\x7d\x7bheader:b\x7d-\x7bc\x7d;v1" true
        [.placeholder "a", .placeholder "b", .literal ['-'], .placeholder "c",
          .literal [';', 'v', '1']]) := by
    decide +kernel
  obtain ⟨tokens, read, captured⟩ := captures_eq_greatest_split accepted
  have oneLine : '\n' ∉ "xyz-q/r;v1".toList := by decide
  have found : (ofTokens "X-Trace" "\x7ba\x7d\x7bheader:b\x7d-\x7bc\x7d;v1" true
        [.placeholder "a", .placeholder "b", .literal ['-'], .placeholder "c",
          .literal [';', 'v', '1']]).captures "xyz-q/r;v1" =
      some [⟨"a", "xy"⟩, ⟨"b", "z"⟩, ⟨"c", "q/r"⟩] := by
    decide +kernel
  obtain ⟨values, splits, greatest, sizes, same⟩ := ((captured _ oneLine).2 _).1.mp found
  have known : values = [['x', 'y'], ['z'], ['q', '/', 'r']] := by
    rw [← values_assigned sizes, ← same]
    decide
  subst known
  exact ⟨_, accepted, oneLine, found, tokens, splits, greatest⟩

end GatewayRouting.HeaderTemplate
