import GatewayRouting.Proofs.Downstream.Filling
import GatewayRouting.Proofs.Template.SegmentSplits

/-!
Values put into the path part of a template are captured again from the path that this makes.
-/

set_option autoImplicit false

namespace GatewayRouting.UpstreamTemplate

variable {caseSensitive : Bool} {tokens : List Token} {values : List (List Char)}

/-- The path that values make of the path part of a template. It is never empty. -/
def filledPath (template : String) (captures : List Capture) : String :=
  let filled := substitute (splitQuery template).1.toList captures
  String.ofList (if filled.isEmpty then ['/'] else filled)

theorem startsWithSlash_splitQuery {template : String}
    (initial : startsWithSlash template.toList = true) :
    startsWithSlash (splitQuery template).1.toList = true := by
  obtain ⟨rest, text⟩ := eq_cons_of_startsWithSlash initial
  unfold splitQuery
  rw [text, Text.splitOnce, if_neg (by decide)]
  cases Text.splitOnce '?' rest with
  | none => exact initial
  | some parts =>
    dsimp only [Option.map_some]
    rw [String.toList_ofList]
    rfl

/-- The tokens of a path start with its first slash. -/
theorem exists_first_literal {path : String} (initial : startsWithSlash path.toList = true)
    (read : Token.tokenize .bare path = .ok tokens) :
    ∃ text rest, tokens = .literal text :: rest ∧ startsWithSlash text = true := by
  obtain ⟨others, text⟩ := eq_cons_of_startsWithSlash initial
  rw [Token.tokenize, text, Token.scan, if_neg (by decide), if_neg (by decide)] at read
  obtain ⟨later, _, rfl⟩ := map_eq_ok.mp read
  unfold Token.consChar
  split
  · exact ⟨_, _, rfl, rfl⟩
  · exact ⟨_, _, rfl, rfl⟩

/-- The text that values make of tokens splits along them into the values. -/
theorem Fits.splits_written (fits : Fits tokens values) :
    Splits caseSensitive tokens (written tokens values) values := by
  induction fits with
  | done => exact .done
  | @literal text tokens values _ ih =>
    cases taken : endsEmpty tokens values && endsInSlash text with
    | false =>
      rw [written_literal_of_more taken]
      exact .literal (.refl text) ih
    | true =>
      rw [Bool.and_eq_true] at taken
      obtain ⟨empty, final⟩ := taken
      obtain ⟨⟨name, rfl⟩, rfl⟩ := endsEmpty_iff.mp empty
      rw [written_tail_of_empty final]
      exact .missingSlashOfTail final (.refl _)
  | placeholder more filled absent _ ih => exact .placeholder more filled absent ih
  | @lastPlaceholder name value absent =>
    have whole : written [.placeholder name] [value] = value := by simp [written]
    rw [whole]
    exact .lastPlaceholder absent

/-- Nothing is written only where an empty value takes the one slash before it. -/
theorem eq_of_written_eq_nil {text : List Char} (initial : startsWithSlash text = true)
    (nothing : written (.literal text :: tokens) values = []) :
    text = ['/'] ∧ (∃ name, tokens = [.placeholder name]) ∧ values = [[]] := by
  obtain ⟨rest, rfl⟩ := eq_cons_of_startsWithSlash initial
  cases taken : endsEmpty tokens values && endsInSlash ('/' :: rest) with
  | false =>
    rw [written_literal_of_more taken] at nothing
    cases nothing
  | true =>
    rw [Bool.and_eq_true] at taken
    obtain ⟨empty, final⟩ := taken
    obtain ⟨⟨name, rfl⟩, rfl⟩ := endsEmpty_iff.mp empty
    rw [written_tail_of_empty final, ← List.length_eq_zero_iff, List.length_dropLast] at nothing
    obtain rfl : rest = [] := List.eq_nil_of_length_eq_zero nothing
    exact ⟨rfl, ⟨name, rfl⟩, rfl⟩

/-- Read as a whole path, the text splits into the values, with nothing written as `/`. -/
theorem Fits.pathSplits_written {text : List Char} {hasQuery : Bool}
    (initial : startsWithSlash text = true) (fits : Fits (.literal text :: tokens) values) :
    PathSplits caseSensitive hasQuery (.literal text :: tokens)
      (if (written (.literal text :: tokens) values).isEmpty then ['/']
        else written (.literal text :: tokens) values) values := by
  have splits : Splits caseSensitive _ _ _ := fits.splits_written
  split
  · rename_i nothing
    obtain ⟨rfl, ⟨name, rfl⟩, rfl⟩ := eq_of_written_eq_nil initial (List.isEmpty_iff.mp nothing)
    exact ⟨.literal slash_same_slash (.lastPlaceholder List.not_mem_nil), fun _ => rfl, fun _ _ _ => rfl⟩
  · rename_i something
    have first := (splits.head?_of_startsWithSlash initial).resolve_left (by simpa using something)
    refine ⟨splits, ?_, fun _ _ _ => first⟩
    rintro ⟨⟩
    cases fits with
    | literal fits =>
      cases fits
      rfl

/-- Where a slash follows every placeholder but the last one, as it does where each placeholder fills a
segment, a template captures from the path that values make of it just these values, in their order. -/
theorem captures_of_filledPath {template : String} {t : UpstreamTemplate} {query : Option String}
    {ofQuery : List Capture} (accepted : compile template caseSensitive = .ok t)
    (tight : ∀ inside ∈ templateNames (splitQuery template).1.toList, Text.trim inside = inside)
    (read : Token.tokenize .bare (splitQuery template).1 = .ok tokens)
    (segments : tokens.IsChain Token.MayPrecede) (fits : Fits tokens values)
    (satisfied : t.captureQuery query = some ofQuery) :
    t.captures (filledPath template (assigned t.pathNames values)) query =
        some (assigned t.pathNames values ++ ofQuery) ∧
      (assigned t.pathNames values).map (fun c => c.value.toList) = values := by
  obtain ⟨initial, tokens', queryTemplate, read', _, distinct, rfl⟩ := compile_eq_ok_iff.mp accepted
  cases read.symm.trans read'
  have assigns : Assigns (assigned (Token.names tokens) values) (Token.names tokens) values := by
    simpa using assigns_of_distinct (nodup_of_requireDistinct_append distinct) fits.length_values []
  have filled : substitute (splitQuery template).1.toList (assigned (Token.names tokens) values) =
      written tokens values := substitute_eq_written read tight fits assigns
  have split : PathSplits caseSensitive queryTemplate.isSome tokens
      (filledPath template (assigned (Token.names tokens) values)).toList values := by
    obtain ⟨text, rest, rfl, slash⟩ := exists_first_literal (startsWithSlash_splitQuery initial) read
    rw [filledPath, String.toList_ofList, filled]
    exact fits.pathSplits_written slash
  refine ⟨captures_eq_some_iff.mpr ⟨_, ofQuery, ?_, satisfied, rfl⟩, values_assigned fits.length_values⟩
  refine capturePath_ofTokens_eq_some_iff.mpr ⟨values, split, ?_, rfl⟩
  intro other also
  rw [Splits.unique segments split.splits also.splits]

/-- A value with braces is not read as a name, and an empty tail comes back from a path without its slash. -/
theorem captures_of_filledPath_of_emptyTail :
    ∃ t, compile "/\x7bx\x7d/b/\x7brest\x7d?v=\x7bv\x7d" false = .ok t ∧
      t.captures "/\x7brest\x7d/b" (some "v=1") =
        some [⟨"x", "\x7brest\x7d"⟩, ⟨"rest", ""⟩, ⟨"v", "1"⟩] := by
  have evaluated : (compile "/\x7bx\x7d/b/\x7brest\x7d?v=\x7bv\x7d" false).map (fun t =>
      (t.pathNames, t.captureQuery (some "v=1"))) = .ok (["x", "rest"], some [⟨"v", "1"⟩]) := by
    decide +kernel
  obtain ⟨t, accepted, same⟩ := map_eq_ok.mp evaluated
  obtain ⟨names, satisfied⟩ := Prod.mk.inj same
  have read : Token.tokenize .bare (splitQuery "/\x7bx\x7d/b/\x7brest\x7d?v=\x7bv\x7d").1 =
      .ok [.literal "/".toList, .placeholder "x", .literal "/b/".toList, .placeholder "rest"] := by
    decide +kernel
  have fits : Fits [.literal "/".toList, .placeholder "x", .literal "/b/".toList, .placeholder "rest"]
      ["\x7brest\x7d".toList, []] :=
    .literal (.placeholder (by simp) (by decide) (by decide) (.literal (.lastPlaceholder (by decide))))
  have path : filledPath "/\x7bx\x7d/b/\x7brest\x7d?v=\x7bv\x7d"
      (assigned t.pathNames ["\x7brest\x7d".toList, []]) = "/\x7brest\x7d/b" := by
    rw [names]
    decide +kernel
  have captured := captures_of_filledPath accepted (by decide +kernel) read (by decide) fits satisfied
  rw [path, names] at captured
  exact ⟨t, accepted, captured.1⟩

end GatewayRouting.UpstreamTemplate
