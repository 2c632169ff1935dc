import GatewayRouting.Proofs.Except
import GatewayRouting.Template.Header
import GatewayRouting.Template.Upstream

/-!
Compiling an upstream template, step by step: the slash it starts with, the tokens of its path, its query and
the names of both, which are all different.
-/

set_option autoImplicit false

namespace GatewayRouting

/-- The demand for a key whose value has these tokens, of which there is one at most. -/
def Demand.ofTokens? (key : List Char) : List Token → Option Demand
  | [] => some ⟨String.ofList key, .literal ""⟩
  | [.literal text] => some ⟨String.ofList key, .literal (String.ofList text)⟩
  | [.placeholder name] => some ⟨String.ofList key, .placeholder name⟩
  | _ => none

namespace QueryTemplate

variable {template query : String}

theorem parseDemand_eq_ok_iff {invalid : TemplateError} {item : List Char} {d : Demand} :
    parseDemand invalid item = .ok d ↔
      ∃ key value tokens, Text.splitOnce '=' item = some (key, value) ∧
        (key.isEmpty || key.any isBrace) = false ∧
        Token.tokenize .bare (String.ofList value) = .ok tokens ∧ Demand.ofTokens? key tokens = some d := by
  constructor
  · intro parsed
    unfold parseDemand at parsed
    split at parsed
    · cases parsed
    · rename_i key value cut
      split at parsed
      · cases parsed
      · rename_i plain
        obtain ⟨tokens, read, made⟩ := bind_eq_ok.mp parsed
        refine ⟨key, value, tokens, cut, Bool.eq_false_iff.mpr plain, read, ?_⟩
        split at made <;> cases made <;> rfl
  · rintro ⟨key, value, tokens, cut, plain, read, made⟩
    unfold parseDemand
    rw [cut]
    dsimp only
    rw [plain, if_neg (by decide)]
    refine bind_eq_ok.mpr ⟨tokens, read, ?_⟩
    unfold Demand.ofTokens? at made
    split at made <;> cases made <;> rfl

/-- A query is a lone placeholder, or else a list of demands. -/
theorem parse_eq_ok_iff {q : QueryTemplate} :
    parse template query = .ok q ↔
      ∃ tokens, Token.tokenize .bare query = .ok tokens ∧
        ((∃ name, tokens = [.placeholder name] ∧ q = .catchAll name) ∨
          (∀ name, tokens ≠ [.placeholder name]) ∧
            ∃ list, (Text.splitAll '&' query.toList).mapM (parseDemand (.invalidQuery template query)) =
              .ok list ∧ q = .demands list) := by
  constructor
  · intro parsed
    unfold parse at parsed
    obtain ⟨tokens, read, made⟩ := bind_eq_ok.mp parsed
    refine ⟨tokens, read, ?_⟩
    split at made
    · cases made
      exact Or.inl ⟨_, rfl, rfl⟩
    · rename_i several
      obtain ⟨list, mapped, made⟩ := bind_eq_ok.mp made
      cases made
      exact Or.inr ⟨several, list, mapped, rfl⟩
  · rintro ⟨tokens, read, ⟨name, rfl, rfl⟩ | ⟨several, list, mapped, rfl⟩⟩
    · exact bind_eq_ok.mpr ⟨_, read, rfl⟩
    · refine bind_eq_ok.mpr ⟨tokens, read, ?_⟩
      split
      · exact absurd rfl (several _)
      · exact bind_eq_ok.mpr ⟨list, mapped, rfl⟩

theorem key_of_ofTokens? {key : List Char} {tokens : List Token} {d : Demand}
    (made : Demand.ofTokens? key tokens = some d) : d.key = String.ofList key := by
  unfold Demand.ofTokens? at made
  split at made <;> cases made <;> rfl

/-- No demand of a query that is accepted is for the empty key. -/
theorem key_ne_of_parse {list : List Demand} (parsed : parse template query = .ok (.demands list))
    {d : Demand} (listed : d ∈ list) : d.key ≠ "" := by
  obtain ⟨tokens, _, ⟨name, _, single⟩ | ⟨_, others, mapped, all⟩⟩ := parse_eq_ok_iff.mp parsed
  · cases single
  · cases all
    obtain ⟨item, _, parsedItem⟩ := exists_of_mem_mapM mapped listed
    obtain ⟨key, value, _, _, plain, _, made⟩ := parseDemand_eq_ok_iff.mp parsedItem
    rw [key_of_ofTokens? made, ne_eq, String.ofList_eq_empty_iff]
    rintro rfl
    cases plain

end QueryTemplate

namespace UpstreamTemplate

variable {template : String} {caseSensitive : Bool} {t : UpstreamTemplate}

/-- The template made of the tokens of a path and of a query. -/
def ofTokens (template : String) (caseSensitive : Bool) (tokens : List Token)
    (query : Option QueryTemplate) : UpstreamTemplate where
  raw := template
  pieces := (shape tokens query.isSome).1
  kind := (shape tokens query.isSome).2
  caseSensitive
  pathNames := Token.names tokens
  query

/-- Behind a slash nothing is left to check but the two parts and their names. -/
theorem compile_of_startsWithSlash (initial : startsWithSlash template.toList = true) :
    compile template caseSensitive =
      Token.tokenize .bare (splitQuery template).1 >>= fun tokens =>
      (splitQuery template).2.mapM (QueryTemplate.parse template) >>= fun query =>
      requireDistinct template (Token.names tokens ++ queryNames query) >>= fun _ =>
      .ok (ofTokens template caseSensitive tokens query) := by
  have filled : template ≠ "" := by
    rintro rfl
    cases initial
  unfold compile
  dsimp only
  rw [if_neg filled, if_neg (by rw [initial]; decide)]
  rfl

theorem startsWithSlash_of_compile (accepted : compile template caseSensitive = .ok t) :
    startsWithSlash template.toList = true := by
  unfold compile at accepted
  dsimp only at accepted
  by_cases empty : template = ""
  · rw [if_pos empty] at accepted
    cases accepted
  cases initial : startsWithSlash template.toList with
  | true => rfl
  | false =>
    rw [if_neg empty, initial] at accepted
    cases accepted

theorem compile_eq_ok_iff :
    compile template caseSensitive = .ok t ↔
      startsWithSlash template.toList = true ∧
      ∃ tokens query,
        Token.tokenize .bare (splitQuery template).1 = .ok tokens ∧
        (splitQuery template).2.mapM (QueryTemplate.parse template) = .ok query ∧
        requireDistinct template (Token.names tokens ++ queryNames query) = .ok () ∧
        t = ofTokens template caseSensitive tokens query := by
  constructor
  · intro accepted
    have initial := startsWithSlash_of_compile accepted
    rw [compile_of_startsWithSlash initial] at accepted
    obtain ⟨tokens, read, accepted⟩ := bind_eq_ok.mp accepted
    obtain ⟨query, parsed, accepted⟩ := bind_eq_ok.mp accepted
    obtain ⟨distinct, made⟩ := andThen_eq_ok.mp accepted
    cases made
    exact ⟨initial, tokens, query, read, parsed, distinct, rfl⟩
  · rintro ⟨initial, tokens, query, read, parsed, distinct, rfl⟩
    rw [compile_of_startsWithSlash initial, read]
    refine bind_eq_ok.mpr ⟨tokens, rfl, bind_eq_ok.mpr ⟨query, parsed, ?_⟩⟩
    exact andThen_eq_ok.mpr ⟨distinct, rfl⟩

theorem raw_of_compile (accepted : compile template caseSensitive = .ok t) : t.raw = template := by
  obtain ⟨_, _, _, _, _, _, rfl⟩ := compile_eq_ok_iff.mp accepted
  rfl

theorem caseSensitive_of_compile (accepted : compile template caseSensitive = .ok t) :
    t.caseSensitive = caseSensitive := by
  obtain ⟨_, _, _, _, _, _, rfl⟩ := compile_eq_ok_iff.mp accepted
  rfl

theorem key_ne_of_compile (accepted : compile template caseSensitive = .ok t) {list : List Demand}
    (demands : t.query = some (.demands list)) {d : Demand} (listed : d ∈ list) : d.key ≠ "" := by
  obtain ⟨_, tokens, query, _, parsed, _, rfl⟩ := compile_eq_ok_iff.mp accepted
  obtain rfl : query = some (.demands list) := demands
  cases text : (splitQuery template).2 with
  | none =>
    rw [text] at parsed
    cases parsed
  | some written =>
    rw [text] at parsed
    obtain ⟨made, parsedText, same⟩ := bind_eq_ok.mp parsed
    cases same
    exact QueryTemplate.key_ne_of_parse parsedText listed

end UpstreamTemplate

namespace HeaderTemplate

variable {name template : String} {caseSensitive : Bool} {t : HeaderTemplate}

/-- The template of a header made of its tokens. -/
def ofTokens (name template : String) (caseSensitive : Bool) (tokens : List Token) : HeaderTemplate where
  name := Text.lowerAscii name
  raw := template
  pieces := piecesOf tokens
  caseSensitive
  names := Token.names tokens

theorem compile_eq_ok_iff :
    compile name template caseSensitive = .ok t ↔
      ∃ tokens, Token.tokenize .header template = .ok tokens ∧
        requireDistinct template (Token.names tokens) = .ok () ∧
        t = ofTokens name template caseSensitive tokens := by
  constructor
  · intro compiled
    obtain ⟨tokens, read, compiled⟩ := bind_eq_ok.mp compiled
    obtain ⟨distinct, made⟩ := andThen_eq_ok.mp compiled
    cases made
    exact ⟨tokens, read, distinct, rfl⟩
  · rintro ⟨tokens, read, distinct, rfl⟩
    exact bind_eq_ok.mpr ⟨tokens, read, andThen_eq_ok.mpr ⟨distinct, rfl⟩⟩

end HeaderTemplate

theorem repeatedName_eq_none {seen names : List String} :
    repeatedName seen names = none ↔
      (∀ name ∈ names, Text.lowerAscii name ∉ seen) ∧ (names.map Text.lowerAscii).Nodup := by
  -- The names seen grow on the way, so the induction is over all of them.
  induction names generalizing seen with
  | nil => simp [repeatedName]
  | cons name rest ih =>
    unfold repeatedName
    rw [List.map_cons, List.nodup_cons, List.forall_mem_cons]
    split
    · rename_i known
      simp only [reduceCtorEq, false_iff]
      rintro ⟨⟨fresh, _⟩, _⟩
      exact fresh (by simpa using known)
    · rename_i fresh
      rw [ih]
      simp only [List.mem_cons, not_or, List.mem_map, not_exists, not_and]
      constructor
      · rintro ⟨others, distinct⟩
        exact ⟨⟨by simpa using fresh, fun other inside => (others other inside).2⟩,
          fun other inside => (others other inside).1, distinct⟩
      · rintro ⟨⟨_, others⟩, apart, distinct⟩
        exact ⟨fun other inside => ⟨apart other inside, others other inside⟩, distinct⟩

/-- Names are accepted when no two of them are the same, case aside. -/
theorem requireDistinct_eq_ok {template : String} {names : List String} :
    requireDistinct template names = .ok () ↔ (names.map Text.lowerAscii).Nodup := by
  have unseen : repeatedName [] names = none ↔ (names.map Text.lowerAscii).Nodup := by
    simp [repeatedName_eq_none]
  rw [← unseen]
  unfold requireDistinct
  cases repeatedName [] names <;> simp

theorem nodup_of_requireDistinct_append {template : String} {names others : List String}
    (distinct : requireDistinct template (names ++ others) = .ok ()) :
    (names.map Text.lowerAscii).Nodup := by
  rw [requireDistinct_eq_ok, List.map_append] at distinct
  exact (List.nodup_append.mp distinct).1

end GatewayRouting
