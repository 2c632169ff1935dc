import GatewayRouting.Proofs.Downstream.RoundTrip
import GatewayRouting.Proofs.Query.MeetsItself
import GatewayRouting.Proofs.Resolution.Shadowing
import GatewayRouting.Proofs.Template.Grammar

/-!
Templates without placeholders, and requests for their own text. The path is always taken; the query is where
its text asks for parameters that it has itself.
-/

set_option autoImplicit false

namespace GatewayRouting

/-- Text that has tokens and no placeholder has no brace at all. -/
theorem TemplateGrammar.Stretches.braceFree {cs : List Char} {names : List (List Char)}
    (stretches : Stretches cs names) (plain : '\x7b' ∉ cs) : BraceFree cs := by
  induction stretches with
  | done => exact .nil
  | text free _ ih =>
    exact BraceFree.append_iff.mpr ⟨free, ih fun found => plain (List.mem_append_right _ found)⟩
  | name _ _ _ => exact absurd List.mem_cons_self plain

/-- The demand for a parameter as it is written. -/
def Parameter.demand (p : Parameter) : Demand := ⟨p.key, .literal p.value⟩

namespace QueryTemplate

variable {template query : String} {invalid : TemplateError}

/-- An item without braces asks for the parameter that it is itself. -/
theorem parseDemand_of_braceFree {item : List Char} (free : BraceFree item) {d : Demand}
    (parsed : parseDemand invalid item = .ok d) : d = (Parameter.ofText item).demand ∧ '=' ∈ item := by
  obtain ⟨key, value, tokens, cut, _, read, made⟩ := parseDemand_eq_ok_iff.mp parsed
  obtain ⟨rfl, once⟩ := Text.splitOnce_eq_some cut
  have valueFree := (BraceFree.cons_iff.mp (BraceFree.append_iff.mp free).2).2
  refine ⟨?_, by simp⟩
  rw [Parameter.ofText_of_named once, Parameter.demand]
  by_cases empty : value = []
  · subst empty
    cases read
    cases made
    rfl
  · rw [Token.tokenize_text empty valueFree] at read
    cases read
    cases made
    rfl

/-- A query without braces asks for its own parameters. -/
theorem parse_of_braceFree (free : BraceFree query.toList) {q : QueryTemplate}
    (parsed : parse template query = .ok q) :
    q = .demands ((Query.written query).map Parameter.demand) ∧
      ∀ item ∈ Text.splitAll '&' query.toList, '=' ∈ item := by
  obtain ⟨tokens, read, ⟨name, rfl, _⟩ | ⟨_, list, mapped, rfl⟩⟩ := parse_eq_ok_iff.mp parsed
  · obtain ⟨inside, _, whole, _⟩ := Token.eq_name_of_tokenize read
    rw [whole] at free
    exact absurd List.mem_cons_self free.opening
  · have freeItems : ∀ item ∈ Text.splitAll '&' query.toList, BraceFree item :=
      fun item listed => free.of_subset (Text.subset_of_mem_splitAll listed)
    rw [mapM_eq_ok] at mapped
    rw [Query.written]
    clear parsed
    generalize Text.splitAll '&' query.toList = items at mapped freeItems
    induction mapped with
    | nil => exact ⟨rfl, List.forall_mem_nil _⟩
    | @cons item d items list first _ ih =>
      obtain ⟨own, later⟩ := List.forall_mem_cons.mp freeItems
      obtain ⟨rfl, named⟩ := parseDemand_of_braceFree own first
      obtain ⟨others, allNamed⟩ := ih later
      cases others
      exact ⟨rfl, List.forall_mem_cons.mpr ⟨named, allNamed⟩⟩

/-- Demands for parameters as they are written. -/
theorem isSome_captureDemands_written (parameters written : List Parameter) :
    (captureDemands parameters (written.map Parameter.demand)).isSome = true ↔
      ∀ q ∈ written, ∃ p ∈ parameters, p.Meets q := by
  rw [isSome_captureDemands, List.map_map, List.all_map, List.all_eq_true]
  refine forall₂_congr fun q _ => ?_
  simp only [Function.comp_apply, List.any_eq_true, Bool.and_eq_true, beq_iff_eq, Parameter.meets_iff,
    Parameter.hasKey, Text.sameIgnoringCase_iff, Parameter.demand, Demand.asked, Demand.literal?,
    Option.all_some]

theorem isSome_capture_ownText_iff (free : BraceFree query.toList) {q : QueryTemplate}
    (parsed : parse template query = .ok q) :
    (q.capture (some query)).isSome = true ↔ Query.MeetsItself query := by
  obtain ⟨rfl, named⟩ := parse_of_braceFree free parsed
  obtain ⟨first, rest, own, others⟩ := Query.parameters_of_named named
  rw [capture, Option.getD_some, isSome_captureDemands_written, Query.meetsItself_iff, own, others,
    Parameter.met_iff]
  simp

end QueryTemplate

namespace UpstreamTemplate

variable {template : String} {caseSensitive : Bool} {t : UpstreamTemplate}

/-- The two parts of a template hold no character that it does not hold. -/
theorem subset_of_splitQuery (template : String) :
    (splitQuery template).1.toList ⊆ template.toList ∧
      ∀ query ∈ (splitQuery template).2, query.toList ⊆ template.toList := by
  unfold splitQuery
  cases cut : Text.splitOnce '?' template.toList with
  | none => exact ⟨List.Subset.refl _, by simp⟩
  | some parts =>
    obtain ⟨whole, _⟩ := Text.splitOnce_eq_some cut
    simp only [String.toList_ofList, Option.mem_some, forall_eq', whole]
    exact ⟨List.subset_append_left _ _,
      List.Subset.trans (List.subset_cons_self _ _) (List.subset_append_right _ _)⟩

theorem isSome_capturePath_ownText (accepted : compile template caseSensitive = .ok t)
    (free : BraceFree (splitQuery template).1.toList) :
    (t.capturePath (splitQuery template).1).isSome = true := by
  obtain ⟨tokens, read, captured⟩ := capturePath_eq_least_split accepted
  have initial := startsWithSlash_splitQuery (startsWithSlash_of_compile accepted)
  have filled : (splitQuery template).1.toList ≠ [] := by
    intro empty
    rw [empty] at initial
    cases initial
  have literal := Token.tokenize_text filled free
  rw [String.ofList_toList, read] at literal
  cases literal
  refine (captured (splitQuery template).1).1.mpr ⟨[], ?_, ?_, ?_⟩
  · have whole : Splits caseSensitive [.literal (splitQuery template).1.toList]
        ((splitQuery template).1.toList ++ []) [] := .literal (.refl _) .done
    rwa [List.append_nil] at whole
  · intro root
    exact Token.literal.inj (List.cons.inj root).1
  · intro _ same
    exact absurd (List.cons.inj same).2 (List.cons_ne_nil _ _).symm

/-- A text without placeholders that compiles takes its own path. It takes its own query exactly when decoding
leaves every key and value of it as they are, and the first parameter is there again if question marks stand in
front of it. -/
theorem isMatch_ownText_iff (accepted : compile template caseSensitive = .ok t)
    (plain : '\x7b' ∉ template.toList) :
    t.isMatch (splitQuery template).1 (splitQuery template).2 = true ↔
      ∀ query ∈ (splitQuery template).2, Query.MeetsItself query := by
  obtain ⟨_, _, written, _, _⟩ := exists_template_of_compile accepted
  have free := written.stretches.braceFree plain
  obtain ⟨pathInside, queryInside⟩ := subset_of_splitQuery template
  rw [isMatch_eq, isSome_capturePath_ownText accepted (free.of_subset pathInside), Bool.true_and,
    captureQuery]
  obtain ⟨_, _, query, _, parsed, _, rfl⟩ := compile_eq_ok_iff.mp accepted
  cases text : (splitQuery template).2 with
  | none =>
    rw [text] at parsed
    cases parsed
    simp [ofTokens]
  | some own =>
    rw [text] at parsed
    obtain ⟨q, parsedText, same⟩ := bind_eq_ok.mp parsed
    cases same
    simp only [Option.mem_some, forall_eq']
    exact QueryTemplate.isSome_capture_ownText_iff (free.of_subset (queryInside own text)) parsedText

/-- Escapes in the path, escapes that stand for no text, an empty value, and a parameter behind a question mark
that is there again. -/
theorem isMatch_ownText_of_repeatedKey :
    ∃ t, compile "/a%41??a=&b=%FF&c=1%&?A=" true = .ok t ∧
      t.isMatch "/a%41" (some "?a=&b=%FF&c=1%&?A=") = true := by
  obtain ⟨t, accepted⟩ := exists_of_isOk
    (show (compile "/a%41??a=&b=%FF&c=1%&?A=" true).isOk = true by decide +kernel)
  have parts : splitQuery "/a%41??a=&b=%FF&c=1%&?A=" = ("/a%41", some "?a=&b=%FF&c=1%&?A=") := by
    decide +kernel
  have plain : '\x7b' ∉ "/a%41??a=&b=%FF&c=1%&?A=".toList := by decide
  have meets : Query.MeetsItself "?a=&b=%FF&c=1%&?A=" := by decide +kernel
  have taken := isMatch_ownText_iff accepted plain
  rw [parts] at taken
  exact ⟨t, accepted, taken.mpr fun query same => by rwa [← Option.some.inj same]⟩

/-- An escape that decoding takes away is asked for in vain, and so is a question mark in front. -/
theorem not_isMatch_ownText_of_escapedValue :
    (∃ t, compile "/a?x=%41" false = .ok t ∧ splitQuery "/a?x=%41" = ("/a", some "x=%41") ∧
      t.isMatch "/a" (some "x=%41") = false) ∧
    ∃ t, compile "/a??x=1" false = .ok t ∧ splitQuery "/a??x=1" = ("/a", some "?x=1") ∧
      t.isMatch "/a" (some "?x=1") = false := by
  have escaped : (compile "/a?x=%41" false).map (·.isMatch "/a" (some "x=%41")) = .ok false := by
    decide +kernel
  have marked : (compile "/a??x=1" false).map (·.isMatch "/a" (some "?x=1")) = .ok false := by
    decide +kernel
  obtain ⟨t, accepted, refused⟩ := map_eq_ok.mp escaped
  obtain ⟨u, acceptedToo, refusedToo⟩ := map_eq_ok.mp marked
  exact ⟨⟨t, accepted, by decide +kernel, refused⟩, u, acceptedToo, by decide +kernel, refusedToo⟩

end UpstreamTemplate

end GatewayRouting
