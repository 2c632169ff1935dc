import GatewayRouting.Proofs.Template.Compiled
import GatewayRouting.Proofs.Template.Stretches
import GatewayRouting.Proofs.Template.Ways

/-!
The outline of a template: what is left of it without the case of its texts and without its names. Templates
that differ in ASCII case only have one outline, and where case does not count the outline decides what a path
has to look like.
-/

set_option autoImplicit false

namespace GatewayRouting

/-- Two texts that differ at most in the case of ASCII letters. -/
abbrev SameLower (a b : List Char) : Prop := a.map Char.toLower = b.map Char.toLower

namespace Span

/-- A stretch in lower case. -/
def lowered : Span → Span
  | .text cs => .text (cs.map Char.toLower)
  | .name inside => .name (inside.map Char.toLower)

theorem consChar_toLower (c : Char) (spans : List Span) :
    consChar c.toLower (spans.map lowered) = (consChar c spans).map lowered := by
  cases spans with
  | nil => rfl
  | cons first others => cases first <;> rfl

theorem scan_map_toLower (state : Option (List Char)) (cs : List Char) :
    scan (state.map (List.map Char.toLower)) (cs.map Char.toLower) = (scan state cs).map lowered := by
  have opening (c : Char) : c.toLower = '\x7b' ↔ c = '\x7b' := Text.toLower_eq_iff (by decide)
  have closing (c : Char) : c.toLower = '\x7d' ↔ c = '\x7d' := Text.toLower_eq_iff (by decide)
  induction cs generalizing state with
  | nil => cases state <;> rfl
  | cons c rest ih =>
    cases state with
    | none =>
      simp only [List.map_cons, Option.map_none, scan, opening]
      split
      · exact ih (some [])
      · rw [← consChar_toLower]
        exact congrArg _ (ih none)
    | some inside =>
      simp only [List.map_cons, Option.map_some, scan, closing]
      split
      · exact congrArg (lowered (.name inside) :: ·) (ih none)
      · have later := ih (some (inside ++ [c]))
        rwa [Option.map_some, List.map_append] at later

end Span

namespace Token

/-- A token in lower case and without its name. -/
def outline : Token → Token
  | .literal text => .literal (text.map Char.toLower)
  | .placeholder _ => .placeholder ""

theorem outline_token_lowered (span : Span) : span.lowered.token.outline = span.token.outline := by
  cases span with
  | text cs => simp [Span.lowered, Span.token, outline]
  | name inside => rfl

/-- Texts that differ in case only are read as tokens of one outline. -/
theorem outline_tokenize {a b : String} {tokens others : List Token} (same : SameLower a.toList b.toList)
    (read : tokenize .bare a = .ok tokens) (otherRead : tokenize .bare b = .ok others) :
    tokens.map outline = others.map outline := by
  have byLower (cs : List Char) : ((Span.ofText cs).map Span.token).map outline =
      (Span.ofText (cs.map Char.toLower)).map fun span => span.token.outline := by
    have lowered := Span.scan_map_toLower none cs
    rw [Option.map_none] at lowered
    rw [Span.ofText, Span.ofText, lowered, List.map_map, List.map_map]
    exact List.map_congr_left fun span _ => (outline_token_lowered span).symm
  obtain ⟨_, rfl⟩ := Span.tokenize_eq_ok_iff.mp read
  obtain ⟨_, rfl⟩ := Span.tokenize_eq_ok_iff.mp otherRead
  rw [byLower, byLower, same]

theorem isEmpty_names_map_outline (tokens : List Token) :
    (names (tokens.map outline)).isEmpty = (names tokens).isEmpty := by
  induction tokens with
  | nil => rfl
  | cons token rest ih =>
    cases token with
    | literal text => exact ih
    | placeholder name => rfl

theorem exists_eq_placeholder_iff {tokens : List Token} :
    (∃ name, tokens = [.placeholder name]) ↔ tokens.map outline = [.placeholder ""] := by
  constructor
  · rintro ⟨name, rfl⟩
    rfl
  · intro same
    obtain ⟨token, rfl, single⟩ := List.map_eq_singleton_iff.mp same
    cases token with
    | literal text => cases single
    | placeholder name => exact ⟨name, rfl⟩

end Token

namespace Piece

/-- A piece in lower case. -/
def outline : Piece → Piece
  | .literal text => .literal (text.map Char.toLower)
  | p => p

theorem isAtFront_map_toLower (text cs : List Char) :
    isAtFront false (text.map Char.toLower) cs = isAtFront false text cs := by
  induction text generalizing cs with
  | nil => rfl
  | cons l ls ih =>
    cases cs with
    | nil => rfl
    | cons c cs => rw [List.map_cons, isAtFront, isAtFront, ih, Text.sameChar_toLower]

theorem lengths_outline (p : Piece) (cs : List Char) : p.outline.lengths false cs = p.lengths false cs := by
  cases p with
  | literal text => rw [outline, lengths, lengths, isAtFront_map_toLower, List.length_map]
  | slash | segment | shortSegment | anything | something | optionalTail => rfl

theorem values_outline (p : Piece) (taken : List Char) : p.outline.values taken = p.values taken := by
  cases p <;> rfl

/-- What a piece takes where case counts it takes in any case. -/
theorem Matches.of_sensitive {p : Piece} {taken : List Char} (fits : p.Matches true taken)
    (caseSensitive : Bool) : p.Matches caseSensitive taken := by
  cases p with
  | literal text =>
    rw [Matches, Text.SameText.eq_of_sensitive fits]
    exact .refl taken
  | slash | segment | shortSegment | anything | something | optionalTail => exact fits

end Piece

namespace Pattern

theorem ways_map_outline (pieces : List Piece) (cs : List Char) :
    ways false (pieces.map Piece.outline) cs = ways false pieces cs := by
  induction pieces generalizing cs with
  | nil => cases cs <;> rfl
  | cons p pieces ih => simp only [List.map_cons, ways, Piece.lengths_outline, Piece.values_outline, ih]

/-- Where case does not count, a pattern captures by its outline. -/
theorem capture_map_outline (pieces : List Piece) (cs : List Char) :
    capture false (pieces.map Piece.outline) cs = capture false pieces cs := by
  rw [capture_eq_head?, capture_eq_head?, ways_map_outline]

theorem mem_ways_of_sensitive {pieces : List Piece} {cs : List Char} {values : List (List Char)}
    (way : values ∈ ways true pieces cs) (caseSensitive : Bool) : values ∈ ways caseSensitive pieces cs := by
  induction pieces generalizing cs values with
  | nil => exact mem_ways_nil.mpr (mem_ways_nil.mp way)
  | cons p pieces ih =>
    obtain ⟨taken, rest, others, whole, fits, later, same⟩ := mem_ways_cons.mp way
    exact mem_ways_cons.mpr ⟨taken, rest, others, whole, fits.of_sensitive caseSensitive, ih later, same⟩

/-- A pattern that matches does so too where case counts for less. -/
theorem isSome_capture_of_sensitive {strict loose : Bool} (weaker : loose = true → strict = true)
    {pieces : List Piece} {cs : List Char} (captured : (capture strict pieces cs).isSome = true) :
    (capture loose pieces cs).isSome = true := by
  cases strict with
  | false =>
    cases loose with
    | false => exact captured
    | true => cases weaker rfl
  | true =>
    obtain ⟨values, found⟩ := Option.isSome_iff_exists.mp captured
    rw [capture_eq_head?] at found ⊢
    rw [List.isSome_head?]
    exact List.ne_nil_of_mem (mem_ways_of_sensitive (List.mem_of_mem_head? found) loose)

end Pattern

namespace UpstreamTemplate

theorem startsWithSlash_map_toLower (text : List Char) :
    startsWithSlash (text.map Char.toLower) = startsWithSlash text := by
  cases text with
  | nil => rfl
  | cons c rest =>
    rw [Bool.eq_iff_iff]
    simp [startsWithSlash, Text.toLower_eq_iff (show '/'.isAlpha = false by decide)]

theorem endsInSlash_map_toLower (text : List Char) :
    endsInSlash (text.map Char.toLower) = endsInSlash text := by
  rw [Bool.eq_iff_iff]
  simp [endsInSlash, Text.toLower_eq_iff (show '/'.isAlpha = false by decide)]

theorem literalPieces_map_outline (text : List Char) (rest : List Token) :
    literalPieces (text.map Char.toLower) (rest.map Token.outline) =
      (literalPieces text rest).map Piece.outline := by
  have cut : (if endsInSlash (text.map Char.toLower) then (text.map Char.toLower).dropLast
      else text.map Char.toLower) =
      (if endsInSlash text then text.dropLast else text).map Char.toLower := by
    rw [endsInSlash_map_toLower, apply_ite (List.map Char.toLower), List.map_dropLast]
  rcases rest with - | ⟨first, others⟩
  · simp [literalPieces, cut, Piece.outline]
  · cases first <;> cases others <;> simp [literalPieces, cut, Piece.outline, Token.outline]

theorem placeholderPiece_map_outline (before : Option Token) (rest : List Token) :
    placeholderPiece (before.map Token.outline) (rest.map Token.outline) =
      (placeholderPiece before rest).outline := by
  cases rest with
  | nil =>
    cases before with
    | none => rfl
    | some token =>
      cases token with
      | literal text =>
        simp only [Option.map_some, List.map_nil, Token.outline, placeholderPiece, endsInSlash_map_toLower]
        split <;> rfl
      | placeholder name => rfl
  | cons token others =>
    cases token with
    | literal text =>
      simp only [List.map_cons, Token.outline, placeholderPiece, startsWithSlash_map_toLower]
      split <;> rfl
    | placeholder name => rfl

theorem piecesAfter_map_outline (before : Option Token) (tokens : List Token) :
    piecesAfter (before.map Token.outline) (tokens.map Token.outline) =
      (piecesAfter before tokens).map Piece.outline := by
  induction tokens generalizing before with
  | nil => rfl
  | cons token rest ih =>
    cases token with
    | literal text =>
      rw [List.map_cons, Token.outline, piecesAfter, piecesAfter, literalPieces_map_outline,
        List.map_append, ← ih]
      rfl
    | placeholder name =>
      rw [List.map_cons, Token.outline, piecesAfter, piecesAfter, List.map_cons,
        placeholderPiece_map_outline, ← ih]
      rfl

theorem tokensKind_map_outline (tokens : List Token) :
    tokensKind (tokens.map Token.outline) = tokensKind tokens := by
  unfold tokensKind
  rw [List.getLast?_map, Token.isEmpty_names_map_outline]
  cases tokens.getLast? with
  | none => rfl
  | some token => cases token <;> rfl

theorem outline_eq_slash_iff {token : Token} : token.outline = .literal ['/'] ↔ token = .literal ['/'] := by
  cases token with
  | literal text => simp [Token.outline, Text.toLower_eq_iff (show '/'.isAlpha = false by decide)]
  | placeholder name => simp [Token.outline]

theorem shape_of_other {tokens : List Token} {hasQuery : Bool} (notRoot : tokens ≠ [.literal ['/']])
    (notWhole : ∀ name, tokens ≠ [.literal ['/'], .placeholder name]) :
    shape tokens hasQuery = (piecesAfter none tokens, tokensKind tokens) := by
  unfold shape
  split
  · exact absurd rfl notRoot
  · exact absurd rfl (notWhole _)
  · rfl

/-- Pieces and kind of a path follow the outline of its tokens. -/
theorem shape_map_outline (tokens : List Token) (hasQuery : Bool) :
    shape (tokens.map Token.outline) hasQuery =
      ((shape tokens hasQuery).1.map Piece.outline, (shape tokens hasQuery).2) := by
  by_cases root : tokens = [.literal ['/']]
  · rw [root]
    rfl
  by_cases whole : ∃ name, tokens = [.literal ['/'], .placeholder name]
  · obtain ⟨name, rfl⟩ := whole
    cases hasQuery <;> rfl
  have notWhole : ∀ name, tokens ≠ [.literal ['/'], .placeholder name] := fun name same => whole ⟨name, same⟩
  rw [shape_of_other root notWhole, shape_of_other]
  · exact congrArg₂ Prod.mk (piecesAfter_map_outline none tokens) (tokensKind_map_outline tokens)
  · intro same
    obtain ⟨token, rfl, slash⟩ := List.map_eq_singleton_iff.mp same
    exact root (congrArg ([·]) (outline_eq_slash_iff.mp slash))
  · intro name same
    obtain ⟨first, others, rfl, slash, rest⟩ := List.map_eq_cons_iff.mp same
    obtain ⟨last, rfl, placeholder⟩ := List.map_eq_singleton_iff.mp rest
    rw [outline_eq_slash_iff.mp slash] at notWhole
    cases last with
    | literal text => cases placeholder
    | placeholder label => exact notWhole label rfl

end UpstreamTemplate

end GatewayRouting
