import GatewayRouting.Proofs.Template.Outline

/-!
The outline of a query template: the keys without case, and which of them come with a value. Values are compared
as they are, so two queries of one outline are met together where they name the same values.
-/

set_option autoImplicit false

namespace GatewayRouting

namespace Demand

/-- The text that a parameter has to have, if the demand names one. -/
def literal? (d : Demand) : Option String :=
  match d.value with
  | .literal text => some text
  | .placeholder _ => none

/-- What is left of a demand without case and without its name and value. -/
def outline (d : Demand) : String × Bool := (Text.lowerAscii d.key, d.literal?.isSome)

/-- What a demand asks of a parameter: the key, case aside, and the value if there is one. -/
def asked (d : Demand) : String × Option String := (Text.lowerAscii d.key, d.literal?)

/-- Demands of one outline that name the same values ask the same. -/
theorem asked_of_outline {list others : List Demand} (same : list.map outline = others.map outline)
    (literals : list.filterMap literal? = others.filterMap literal?) :
    list.map asked = others.map asked := by
  induction list generalizing others with
  | nil => rw [List.map_eq_nil_iff.mp same.symm]
  | cons d rest ih =>
    obtain ⟨e, later, rfl, first, others⟩ := List.map_eq_cons_iff.mp same.symm
    obtain ⟨key, kind⟩ := Prod.mk.inj first
    cases own : d.literal? with
    | none =>
      rw [own, Option.isSome_none, Option.isSome_eq_false_iff, Option.isNone_iff_eq_none] at kind
      rw [List.filterMap_cons_none own, List.filterMap_cons_none kind] at literals
      rw [List.map_cons, List.map_cons, ih others.symm literals, asked, asked, own, kind, key]
    | some text =>
      rw [own, Option.isSome_some, Option.isSome_iff_exists] at kind
      obtain ⟨other, kind⟩ := kind
      rw [List.filterMap_cons_some own, List.filterMap_cons_some kind, List.cons.injEq] at literals
      rw [List.map_cons, List.map_cons, ih others.symm literals.2, asked, asked, own, kind, key, literals.1]

end Demand

namespace QueryTemplate

/-- The values that parameters have to have, in order. -/
def literals : QueryTemplate → List String
  | .catchAll _ => []
  | .demands list => list.filterMap Demand.literal?

/-- The outline of a query, nothing for one that takes everything. -/
def outline : QueryTemplate → Option (List (String × Bool))
  | .catchAll _ => none
  | .demands list => some (list.map Demand.outline)

theorem outline_of_ofTokens? {key : List Char} {tokens : List Token} {d : Demand}
    (made : Demand.ofTokens? key tokens = some d) :
    d.outline = (String.ofList (key.map Char.toLower), (Token.names tokens).isEmpty) := by
  unfold Demand.ofTokens? at made
  split at made <;> cases made <;>
    simp [Demand.outline, Demand.literal?, Text.lowerAscii, Token.names, Token.name?]

variable {invalid otherInvalid : TemplateError}

theorem outline_parseDemand {item other : List Char} {d e : Demand} (same : SameLower item other)
    (parsed : parseDemand invalid item = .ok d) (otherParsed : parseDemand otherInvalid other = .ok e) :
    d.outline = e.outline := by
  obtain ⟨key, value, tokens, cut, _, read, made⟩ := parseDemand_eq_ok_iff.mp parsed
  obtain ⟨otherKey, otherValue, others, otherCut, _, otherRead, otherMade⟩ :=
    parseDemand_eq_ok_iff.mp otherParsed
  have lowered := Text.splitOnce_map_toLower (show '='.isAlpha = false by decide) item
  rw [same, Text.splitOnce_map_toLower (by decide), cut, otherCut] at lowered
  obtain ⟨keys, values⟩ := Prod.mk.inj (Option.some.inj lowered)
  have tokensSame := Token.outline_tokenize (by simpa using values) otherRead read
  have kinds := congrArg (fun list => (Token.names list).isEmpty) tokensSame
  rw [Token.isEmpty_names_map_outline, Token.isEmpty_names_map_outline] at kinds
  rw [outline_of_ofTokens? made, outline_of_ofTokens? otherMade, keys, kinds]

theorem outline_mapM_parseDemand {items others : List (List Char)} {list more : List Demand}
    (same : items.map (List.map Char.toLower) = others.map (List.map Char.toLower))
    (mapped : items.mapM (parseDemand invalid) = .ok list)
    (otherMapped : others.mapM (parseDemand otherInvalid) = .ok more) :
    list.map Demand.outline = more.map Demand.outline := by
  rw [mapM_eq_ok] at mapped otherMapped
  induction mapped generalizing others more with
  | nil =>
    obtain rfl := List.map_eq_nil_iff.mp same.symm
    cases otherMapped
    rfl
  | cons parsed _ ih =>
    obtain ⟨other, later, rfl, first, remaining⟩ := List.map_eq_cons_iff.mp same.symm
    cases otherMapped with
    | cons otherParsed otherRest =>
      rw [List.map_cons, List.map_cons, outline_parseDemand first.symm parsed otherParsed,
        ih remaining.symm otherRest]

/-- Queries that differ in case only have one outline. -/
theorem outline_parse {template query other otherQuery : String} {q p : QueryTemplate}
    (same : SameLower query.toList otherQuery.toList) (parsed : parse template query = .ok q)
    (otherParsed : parse other otherQuery = .ok p) : q.outline = p.outline := by
  obtain ⟨tokens, read, made⟩ := parse_eq_ok_iff.mp parsed
  obtain ⟨others, otherRead, otherMade⟩ := parse_eq_ok_iff.mp otherParsed
  have single : (∃ name, tokens = [.placeholder name]) ↔ ∃ name, others = [.placeholder name] := by
    rw [Token.exists_eq_placeholder_iff, Token.exists_eq_placeholder_iff,
      Token.outline_tokenize same read otherRead]
  rcases made with ⟨name, alone, rfl⟩ | ⟨several, list, mapped, rfl⟩
  · rcases otherMade with ⟨_, _, rfl⟩ | ⟨otherSeveral, _⟩
    · rfl
    · obtain ⟨label, otherAlone⟩ := single.mp ⟨name, alone⟩
      exact absurd otherAlone (otherSeveral label)
  · rcases otherMade with ⟨label, otherAlone, _⟩ | ⟨_, more, otherMapped, rfl⟩
    · obtain ⟨name, alone⟩ := single.mpr ⟨label, otherAlone⟩
      exact absurd alone (several name)
    · have items : (Text.splitAll '&' query.toList).map (List.map Char.toLower) =
          (Text.splitAll '&' otherQuery.toList).map (List.map Char.toLower) := by
        rw [← Text.splitAll_map_toLower (by decide), ← Text.splitAll_map_toLower (by decide), same]
      exact congrArg some (outline_mapM_parseDemand items mapped otherMapped)

theorem isSome_captureDemand (parameters : List Parameter) (d : Demand) :
    (captureDemand parameters d).isSome = parameters.any fun p =>
      Text.lowerAscii p.decodedKey == d.asked.1 && d.asked.2.all (p.decodedValue == ·) := by
  have keyed (p : Parameter) : p.hasKey d.key = (Text.lowerAscii p.decodedKey == Text.lowerAscii d.key) := by
    rw [Bool.eq_iff_iff, beq_iff_eq]
    exact Text.sameIgnoringCase_iff
  obtain ⟨key, value⟩ := d
  cases value with
  | literal text =>
    dsimp only [captureDemand, Demand.asked, Demand.literal?]
    rw [List.any_filter]
    simp only [keyed, Option.all_some]
    split
    · rename_i met
      rw [met]
      rfl
    · rename_i unmet
      rw [Bool.eq_false_of_not_eq_true unmet]
      rfl
  | placeholder name =>
    dsimp only [captureDemand, Demand.asked, Demand.literal?]
    rw [Option.isSome_map, List.head?_filter, Bool.eq_iff_iff, List.find?_isSome, List.any_eq_true]
    simp [keyed]

theorem isSome_captureDemands (parameters : List Parameter) (list : List Demand) :
    (captureDemands parameters list).isSome = (list.map Demand.asked).all fun asked =>
      parameters.any fun p => Text.lowerAscii p.decodedKey == asked.1 &&
        asked.2.all (p.decodedValue == ·) := by
  induction list with
  | nil => rfl
  | cons d rest ih =>
    rw [List.map_cons, List.all_cons, ← ih, ← isSome_captureDemand, captureDemands]
    cases captureDemand parameters d <;> cases captureDemands parameters rest <;> rfl

/-- Queries of one outline that name the same values are met together. -/
theorem isSome_capture_of_outline {q p : QueryTemplate} (same : q.outline = p.outline)
    (literals : q.literals = p.literals) (query : Option String) :
    (q.capture query).isSome = (p.capture query).isSome := by
  cases q with
  | catchAll name =>
    cases p with
    | catchAll other => rfl
    | demands list => cases same
  | demands list =>
    cases p with
    | catchAll other => cases same
    | demands others =>
      rw [capture, capture, isSome_captureDemands, isSome_captureDemands,
        Demand.asked_of_outline (Option.some.inj same) literals]

end QueryTemplate

namespace UpstreamTemplate

variable {template other : String} {caseSensitive otherSensitive : Bool} {t u : UpstreamTemplate}

/-- The values that parameters have to have, in order. -/
def queryLiterals (t : UpstreamTemplate) : List String := (t.query.map (·.literals)).getD []

theorem splitQuery_lowerAscii (template : String) :
    splitQuery (Text.lowerAscii template) =
      (Text.lowerAscii (splitQuery template).1, (splitQuery template).2.map Text.lowerAscii) := by
  unfold splitQuery
  rw [Text.lowerAscii, String.toList_ofList, Text.splitOnce_map_toLower (by decide)]
  cases Text.splitOnce '?' template.toList with
  | none => rfl
  | some parts => simp [Text.lowerAscii]

theorem outline_mapM_parse {query otherQuery : Option String} {q p : Option QueryTemplate}
    (same : query.map Text.lowerAscii = otherQuery.map Text.lowerAscii)
    (parsed : query.mapM (QueryTemplate.parse template) = .ok q)
    (otherParsed : otherQuery.mapM (QueryTemplate.parse other) = .ok p) :
    q.map (·.outline) = p.map (·.outline) := by
  cases query with
  | none =>
    rw [Option.map_none, eq_comm, Option.map_eq_none_iff] at same
    subst same
    cases parsed
    cases otherParsed
    rfl
  | some text =>
    rw [Option.map_some, eq_comm, Option.map_eq_some_iff] at same
    obtain ⟨otherText, rfl, same⟩ := same
    obtain ⟨made, parsedText, whole⟩ := bind_eq_ok.mp parsed
    obtain ⟨otherMade, otherParsedText, otherWhole⟩ := bind_eq_ok.mp otherParsed
    cases whole
    cases otherWhole
    exact congrArg some (QueryTemplate.outline_parse (String.ofList_inj.mp same.symm) parsedText
      otherParsedText)

/-- Templates that differ in case only are of one kind, and have pieces and queries of one outline. -/
theorem outline_of_compile (same : Text.lowerAscii template = Text.lowerAscii other)
    (accepted : compile template caseSensitive = .ok t)
    (otherAccepted : compile other otherSensitive = .ok u) :
    t.pieces.map Piece.outline = u.pieces.map Piece.outline ∧ t.kind = u.kind ∧
      t.query.map (·.outline) = u.query.map (·.outline) := by
  obtain ⟨_, tokens, query, read, parsed, _, rfl⟩ := compile_eq_ok_iff.mp accepted
  obtain ⟨_, others, otherQuery, otherRead, otherParsed, _, rfl⟩ := compile_eq_ok_iff.mp otherAccepted
  have parts := splitQuery_lowerAscii template
  rw [same, splitQuery_lowerAscii] at parts
  obtain ⟨paths, queries⟩ := Prod.mk.inj parts
  have tokensSame := Token.outline_tokenize (String.ofList_inj.mp paths.symm) read otherRead
  have queriesSame := outline_mapM_parse queries.symm parsed otherParsed
  have present : query.isSome = otherQuery.isSome := by
    simpa using congrArg Option.isSome queriesSame
  have shapes := shape_map_outline tokens query.isSome
  rw [tokensSame, present, shape_map_outline] at shapes
  obtain ⟨pieces, kind⟩ := Prod.mk.inj shapes
  rw [← present] at pieces kind
  exact ⟨by rw [ofTokens, ofTokens, ← present]; exact pieces.symm,
    by rw [ofTokens, ofTokens, ← present]; exact kind.symm, queriesSame⟩

/-- Whether case counts has no part in the pieces of a template. -/
theorem pieces_of_compile (accepted : compile template caseSensitive = .ok t)
    (otherAccepted : compile template otherSensitive = .ok u) : t.pieces = u.pieces := by
  obtain ⟨_, tokens, query, read, parsed, _, rfl⟩ := compile_eq_ok_iff.mp accepted
  obtain ⟨_, others, otherQuery, otherRead, otherParsed, _, rfl⟩ := compile_eq_ok_iff.mp otherAccepted
  cases read.symm.trans otherRead
  cases parsed.symm.trans otherParsed
  rfl

/-- A path that one template takes is taken by another that differs in case only, if case counts for no more
there, and the texts are one where it counts. -/
theorem isSome_capturePath_of_compile (same : Text.lowerAscii template = Text.lowerAscii other)
    (exact : otherSensitive = true → template = other)
    (weaker : caseSensitive = true → otherSensitive = true)
    (accepted : compile template caseSensitive = .ok t)
    (otherAccepted : compile other otherSensitive = .ok u) {path : String}
    (captured : (u.capturePath path).isSome = true) : (t.capturePath path).isSome = true := by
  rw [capturePath, Option.isSome_map, caseSensitive_of_compile otherAccepted] at captured
  rw [capturePath, Option.isSome_map, caseSensitive_of_compile accepted]
  cases otherSensitive with
  | true =>
    obtain rfl := exact rfl
    rw [pieces_of_compile accepted otherAccepted]
    exact Pattern.isSome_capture_of_sensitive weaker captured
  | false =>
    cases caseSensitive with
    | true => cases weaker rfl
    | false =>
      have outlines := (outline_of_compile same accepted otherAccepted).1
      rwa [← Pattern.capture_map_outline, outlines, Pattern.capture_map_outline]

theorem isSome_captureQuery_of_compile (same : Text.lowerAscii template = Text.lowerAscii other)
    (literals : t.queryLiterals = u.queryLiterals)
    (accepted : compile template caseSensitive = .ok t)
    (otherAccepted : compile other otherSensitive = .ok u) (query : Option String) :
    (t.captureQuery query).isSome = (u.captureQuery query).isSome := by
  have outlines := (outline_of_compile same accepted otherAccepted).2.2
  unfold captureQuery
  unfold queryLiterals at literals
  cases own : t.query with
  | none =>
    rw [own, Option.map_none, eq_comm, Option.map_eq_none_iff] at outlines
    rw [outlines]
  | some q =>
    rw [own, Option.map_some, eq_comm, Option.map_eq_some_iff] at outlines
    obtain ⟨p, known, outlines⟩ := outlines
    rw [own, known] at literals
    rw [known]
    exact QueryTemplate.isSome_capture_of_outline outlines.symm literals query

end UpstreamTemplate

end GatewayRouting
