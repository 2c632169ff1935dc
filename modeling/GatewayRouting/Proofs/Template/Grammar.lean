import GatewayRouting.Proofs.Downstream.Spans
import GatewayRouting.Proofs.Template.Compiled
import GatewayRouting.Proofs.Text.Cutting
import Mathlib.Data.List.Forall2

/-!
The grammar of upstream templates. Compiling accepts exactly the texts of the grammar whose names are all
different, and records these names without the blanks around them.
-/

set_option autoImplicit false

namespace GatewayRouting

/-! Every predicate lists the names of its text as they stand between their braces, in order. -/

namespace TemplateGrammar

/-- Brace-free text and names in braces, one after the other. -/
inductive Stretches : List Char → List (List Char) → Prop
  | done : Stretches [] []
  | text {front rest : List Char} {names : List (List Char)} :
      BraceFree front → Stretches rest names → Stretches (front ++ rest) names
  | name {inside rest : List Char} {names : List (List Char)} :
      NameText inside → Stretches rest names →
      Stretches ('\x7b' :: inside ++ '\x7d' :: rest) (inside :: names)

/-- A demanded value: brace-free text, perhaps none, or a single name. -/
inductive Value : List Char → List (List Char) → Prop
  | text {cs : List Char} : BraceFree cs → Value cs []
  | name {inside : List Char} : NameText inside → Value ('\x7b' :: inside ++ ['\x7d']) [inside]

/-- A demand `key=value`. What follows the first `=` is the value. -/
inductive Item : List Char → List (List Char) → Prop
  | mk {key value : List Char} {names : List (List Char)} :
      key ≠ [] → BraceFree key → '=' ∉ key → Value value names → Item (key ++ '=' :: value) names

/-- A query: a single name, or items with `&` between them. -/
inductive Query : List Char → List (List Char) → Prop
  | name {inside : List Char} : NameText inside → Query ('\x7b' :: inside ++ ['\x7d']) [inside]
  | items {items : List (List Char)} {names : List (List (List Char))} :
      items ≠ [] → (∀ item ∈ items, '&' ∉ item) → List.Forall₂ Item items names →
      Query (['&'].intercalate items) names.flatten

/-- A template, with the names of its path and those of its query. The query follows the first `?`. -/
inductive Template : List Char → List (List Char) → List (List Char) → Prop
  | path {path : List Char} {names : List (List Char)} :
      path.head? = some '/' → '?' ∉ path → Stretches path names → Template path names []
  | pathAndQuery {path query : List Char} {ofPath ofQuery : List (List Char)} :
      path.head? = some '/' → '?' ∉ path → Stretches path ofPath → Query query ofQuery →
      Template (path ++ '?' :: query) ofPath ofQuery

theorem Stretches.append {front rest : List Char} {names others : List (List Char)}
    (first : Stretches front names) (later : Stretches rest others) :
    Stretches (front ++ rest) (names ++ others) := by
  induction first with
  | done => exact later
  | text free _ ih =>
    rw [List.append_assoc]
    exact .text free ih
  | name good _ ih =>
    rw [List.append_assoc, List.cons_append, List.cons_append]
    exact .name good ih

theorem Stretches.of_text {cs : List Char} (free : BraceFree cs) : Stretches cs [] := by
  have alone := Stretches.text free .done
  rwa [List.append_nil] at alone

theorem Value.stretches {cs : List Char} {names : List (List Char)} (value : Value cs names) :
    Stretches cs names := by
  cases value with
  | text free => exact .of_text free
  | name good => exact .name good .done

theorem Item.stretches {cs : List Char} {names : List (List Char)} (item : Item cs names) :
    Stretches cs names := by
  cases item with
  | mk filled free _ value =>
    have separator : Stretches ['='] [] := .of_text ⟨by decide, by decide⟩
    exact (Stretches.of_text free).append (separator.append value.stretches)

theorem Stretches.of_items {items : List (List Char)} {names : List (List (List Char))}
    (all : List.Forall₂ Item items names) : Stretches (['&'].intercalate items) names.flatten := by
  have separator : Stretches ['&'] [] := .of_text ⟨by decide, by decide⟩
  induction all with
  | nil => exact .done
  | @cons item own items names first others ih =>
    cases others with
    | nil =>
      rw [List.intercalate_singleton, List.flatten_singleton]
      exact first.stretches
    | cons second later =>
      rw [List.intercalate_cons_cons, List.append_assoc, List.flatten_cons]
      exact first.stretches.append (separator.append ih)

theorem Query.stretches {cs : List Char} {names : List (List Char)} (query : Query cs names) :
    Stretches cs names := by
  cases query with
  | name good => exact .name good .done
  | items _ _ all => exact .of_items all

/-- A whole template is made of stretches too: the names of its path come before those of its query. -/
theorem Template.stretches {cs : List Char} {ofPath ofQuery : List (List Char)}
    (template : Template cs ofPath ofQuery) : Stretches cs (ofPath ++ ofQuery) := by
  cases template with
  | path _ _ stretches =>
    rw [List.append_nil]
    exact stretches
  | pathAndQuery _ _ stretches query =>
    have separator : Stretches ['?'] [] := .of_text ⟨by decide, by decide⟩
    exact stretches.append (separator.append query.stretches)

/-- A query of items does not begin with a brace. -/
theorem head?_items {items : List (List Char)} {names : List (List (List Char))} (some : items ≠ [])
    (all : List.Forall₂ Item items names) :
    (['&'].intercalate items).head? ≠ Option.some '\x7b' := by
  cases all with
  | nil => exact absurd rfl some
  | cons first others =>
    cases first with
    | @mk key value _ filled free _ _ =>
      rw [Text.intercalate_cons_eq, List.append_assoc, List.head?_append_of_ne_nil _ filled]
      intro begins
      exact free.opening (List.mem_of_head? begins)

end TemplateGrammar

open TemplateGrammar

namespace Span

theorem filterMap_name?_consChar (c : Char) (spans : List Span) :
    (consChar c spans).filterMap name? = spans.filterMap name? := by
  unfold consChar
  split <;> rfl

theorem ofText_cons_of_other {c : Char} (other : c ≠ '\x7b') (cs : List Char) :
    ofText (c :: cs) = consChar c (ofText cs) := by
  rw [ofText, scan, if_neg other]
  rfl

theorem ofText_name {inside : List Char} (closed : '\x7d' ∉ inside) (rest : List Char) :
    ofText ('\x7b' :: inside ++ '\x7d' :: rest) = .name inside :: ofText rest := by
  rw [ofText, List.cons_append, scan, if_pos rfl, scan_name closed, List.nil_append]
  rfl

/-- Text without braces is one stretch, unless more text follows it. -/
theorem ofText_append {cs rest : List Char} (filled : cs ≠ []) (free : BraceFree cs)
    (stop : ∀ text others, ofText rest ≠ .text text :: others) :
    ofText (cs ++ rest) = .text cs :: ofText rest := by
  induction cs with
  | nil => exact absurd rfl filled
  | cons c others ih =>
    obtain ⟨⟨other, _⟩, later⟩ := BraceFree.cons_iff.mp free
    rw [List.cons_append, ofText_cons_of_other other]
    by_cases last : others = []
    · subst last
      unfold consChar
      split
      · rename_i more
        exact absurd more (stop _ _)
      · rfl
    · rw [ih last later]
      rfl

theorem ofText_of_braceFree {cs : List Char} (filled : cs ≠ []) (free : BraceFree cs) :
    ofText cs = [.text cs] := by
  have alone := ofText_append filled free (by simp [ofText, scan] : ∀ text others, ofText [] ≠ _)
  rwa [List.append_nil] at alone

theorem ofText_append_name {cs inside : List Char} (filled : cs ≠ []) (free : BraceFree cs)
    (closed : '\x7d' ∉ inside) (rest : List Char) :
    ofText (cs ++ ('\x7b' :: inside ++ '\x7d' :: rest)) = .text cs :: .name inside :: ofText rest := by
  rw [ofText_append filled free, ofText_name closed]
  rw [ofText_name closed]
  simp

theorem stretches_flatMap_source {spans : List Span} (good : ∀ span ∈ spans, span.WellFormed) :
    Stretches (spans.flatMap source) (spans.filterMap name?) := by
  induction spans with
  | nil => exact .done
  | cons first others ih =>
    obtain ⟨own, later⟩ := List.forall_mem_cons.mp good
    cases first with
    | text cs => exact .text own (ih later)
    | name inside =>
      rw [List.flatMap_cons, source, List.append_assoc]
      exact .name own (ih later)

/-- A text is made of stretches exactly when those that the lenient reader finds are well formed, and then
it has their names. -/
theorem stretches_iff {cs : List Char} {names : List (List Char)} :
    Stretches cs names ↔
      (∀ span ∈ ofText cs, span.WellFormed) ∧ names = templateNames cs := by
  constructor
  · intro stretches
    unfold templateNames
    induction stretches with
    | done => exact ⟨List.forall_mem_nil _, rfl⟩
    | @text front rest names free _ ih =>
      induction front with
      | nil => exact ih
      | cons c front later =>
        rw [BraceFree.cons_iff] at free
        rw [List.cons_append, ofText_cons_of_other free.1.1, wellFormed_consChar,
          filterMap_name?_consChar]
        exact ⟨⟨free.1, (later free.2).1⟩, (later free.2).2⟩
    | @name inside rest names good _ ih =>
      rw [ofText_name good.braceFree.closing, List.forall_mem_cons]
      exact ⟨⟨good, ih.1⟩, congrArg (inside :: ·) ih.2⟩
  · rintro ⟨good, rfl⟩
    have whole := stretches_flatMap_source good
    rwa [flatMap_source_ofText] at whole

end Span

namespace Token

variable {template : String} {tokens : List Token}

theorem tokenize_eq_ok_of_spans {cs : List Char} {spans : List Span} (read : Span.ofText cs = spans)
    (good : ∀ span ∈ spans, span.WellFormed) :
    tokenize .bare (String.ofList cs) = .ok (spans.map Span.token) := by
  rw [Span.tokenize_eq_ok_iff, String.toList_ofList, read]
  exact ⟨good, rfl⟩

/-- A text is read as tokens exactly when it is made of stretches, and the names are theirs. -/
theorem exists_tokenize_iff {recorded : List String} :
    (∃ tokens, tokenize .bare template = .ok tokens ∧ names tokens = recorded) ↔
      ∃ inside, Stretches template.toList inside ∧ recorded = inside.map recordedName := by
  simp only [Span.tokenize_eq_ok_iff, Span.stretches_iff]
  constructor
  · rintro ⟨_, ⟨good, rfl⟩, rfl⟩
    exact ⟨_, ⟨good, rfl⟩, Span.names_map_token _⟩
  · rintro ⟨_, ⟨good, rfl⟩, rfl⟩
    exact ⟨_, ⟨good, rfl⟩, Span.names_map_token _⟩

/-- A single placeholder is a name in braces, and nothing else. -/
theorem eq_name_of_tokenize {name : String} (read : tokenize .bare template = .ok [.placeholder name]) :
    ∃ inside, NameText inside ∧ template.toList = '\x7b' :: inside ++ ['\x7d'] ∧
      name = recordedName inside := by
  obtain ⟨good, same⟩ := Span.tokenize_eq_ok_iff.mp read
  have whole := Span.flatMap_source_ofText template.toList
  obtain ⟨span, alone, token⟩ := List.map_eq_singleton_iff.mp same.symm
  rw [alone, List.forall_mem_singleton] at good
  rw [alone, List.flatMap_singleton] at whole
  cases span with
  | text cs => cases token
  | name inside =>
    cases token
    exact ⟨inside, good, whole.symm, rfl⟩

theorem eq_text_of_tokenize {text : List Char} (read : tokenize .bare template = .ok [.literal text]) :
    template.toList = text ∧ BraceFree text := by
  obtain ⟨good, same⟩ := Span.tokenize_eq_ok_iff.mp read
  have whole := Span.flatMap_source_ofText template.toList
  obtain ⟨span, alone, token⟩ := List.map_eq_singleton_iff.mp same.symm
  rw [alone, List.forall_mem_singleton] at good
  rw [alone, List.flatMap_singleton] at whole
  cases span with
  | text cs =>
    cases token
    exact ⟨whole.symm, good⟩
  | name inside => cases token

theorem eq_nil_of_tokenize (read : tokenize .bare template = .ok []) : template.toList = [] := by
  have same := (Span.tokenize_eq_ok_iff.mp read).2
  have whole := Span.flatMap_source_ofText template.toList
  rw [List.map_eq_nil_iff.mp same.symm] at whole
  exact whole.symm

theorem tokenize_text {text : List Char} (filled : text ≠ []) (free : BraceFree text) :
    tokenize .bare (String.ofList text) = .ok [.literal text] :=
  tokenize_eq_ok_of_spans (Span.ofText_of_braceFree filled free) (List.forall_mem_singleton.mpr free)

theorem tokenize_name {inside : List Char} (good : NameText inside) :
    tokenize .bare (String.ofList ('\x7b' :: inside ++ ['\x7d'])) =
      .ok [.placeholder (recordedName inside)] :=
  tokenize_eq_ok_of_spans (Span.ofText_name good.braceFree.closing [])
    (List.forall_mem_singleton.mpr good)

end Token

/-- The name that a demand captures a value under, if it does. -/
def Demand.names (d : Demand) : List String :=
  match d.value with
  | .placeholder name => [name]
  | .literal _ => []

namespace QueryTemplate

variable {template query : String} {invalid : TemplateError} {recorded : List String}

theorem names_demands (list : List Demand) : names (.demands list) = list.flatMap Demand.names := by
  rw [names]
  induction list with
  | nil => rfl
  | cons d rest ih =>
    rw [List.flatMap_cons, ← ih, Demand.names]
    cases value : d.value <;> simp [value]

theorem isBrace_iff {cs : List Char} : cs.any isBrace = false ↔ BraceFree cs := by
  simp only [List.any_eq_false, isBrace, Bool.or_eq_true, beq_iff_eq, not_or, braceFree_iff]
  constructor
  · intro none
    exact ⟨fun inside => (none _ inside).1 rfl, fun inside => (none _ inside).2 rfl⟩
  · rintro ⟨opening, closing⟩ c inside
    exact ⟨fun same => opening (same ▸ inside), fun same => closing (same ▸ inside)⟩

/-- A demand is accepted exactly when it is an item of the grammar. -/
theorem exists_parseDemand_iff {item : List Char} :
    (∃ d, parseDemand invalid item = .ok d ∧ d.names = recorded) ↔
      ∃ inside, Item item inside ∧ recorded = inside.map recordedName := by
  simp only [parseDemand_eq_ok_iff, Bool.or_eq_false_iff, List.isEmpty_eq_false_iff, isBrace_iff]
  constructor
  · rintro ⟨d, ⟨key, value, tokens, cut, ⟨filled, free⟩, read, made⟩, rfl⟩
    obtain ⟨rfl, once⟩ := Text.splitOnce_eq_some cut
    have whole {names : List (List Char)} (good : TemplateGrammar.Value value names) :
        Item (key ++ '=' :: value) names := .mk filled free once good
    unfold Demand.ofTokens? at made
    split at made
    · cases made
      have empty := Token.eq_nil_of_tokenize read
      rw [String.toList_ofList] at empty
      exact ⟨[], whole (empty ▸ .text .nil), rfl⟩
    · cases made
      obtain ⟨same, free⟩ := Token.eq_text_of_tokenize read
      rw [String.toList_ofList] at same
      exact ⟨[], whole (same ▸ .text free), rfl⟩
    · cases made
      obtain ⟨inside, good, same, rfl⟩ := Token.eq_name_of_tokenize read
      rw [String.toList_ofList] at same
      exact ⟨[inside], whole (same ▸ .name good), rfl⟩
    · cases made
  · rintro ⟨_, ⟨filled, free, once, value⟩, rfl⟩
    have cut := Text.splitOnce_append_cons once
    cases value with
    | text good =>
      rename_i value
      by_cases empty : value = []
      · subst empty
        exact ⟨_, ⟨_, _, [], cut _, ⟨filled, free⟩, rfl, rfl⟩, rfl⟩
      · exact ⟨_, ⟨_, _, _, cut _, ⟨filled, free⟩, Token.tokenize_text empty good, rfl⟩, rfl⟩
    | name good => exact ⟨_, ⟨_, _, _, cut _, ⟨filled, free⟩, Token.tokenize_name good, rfl⟩, rfl⟩

theorem exists_mapM_parseDemand_iff {items : List (List Char)} :
    (∃ list, items.mapM (parseDemand invalid) = .ok list ∧ list.flatMap Demand.names = recorded) ↔
      ∃ names, List.Forall₂ Item items names ∧ recorded = names.flatten.map recordedName := by
  simp only [mapM_eq_ok]
  constructor
  · rintro ⟨list, all, rfl⟩
    induction all with
    | nil => exact ⟨[], .nil, rfl⟩
    | cons first _ ih =>
      obtain ⟨own, item, names⟩ := exists_parseDemand_iff.mp ⟨_, first, rfl⟩
      obtain ⟨further, others, otherNames⟩ := ih
      refine ⟨own :: further, .cons item others, ?_⟩
      rw [List.flatMap_cons, names, otherNames, List.flatten_cons, List.map_append]
  · rintro ⟨names, all, rfl⟩
    induction all with
    | nil => exact ⟨[], .nil, rfl⟩
    | cons first _ ih =>
      obtain ⟨d, parsed, names⟩ := exists_parseDemand_iff.mpr ⟨_, first, rfl⟩
      obtain ⟨others, mapped, otherNames⟩ := ih
      refine ⟨d :: others, .cons parsed mapped, ?_⟩
      rw [List.flatMap_cons, names, otherNames, List.flatten_cons, List.map_append]

/-- A query is accepted exactly when it is a query of the grammar. -/
theorem exists_parse_iff :
    (∃ q, parse template query = .ok q ∧ q.names = recorded) ↔
      ∃ inside, Query query.toList inside ∧ recorded = inside.map recordedName := by
  simp only [parse_eq_ok_iff]
  constructor
  · rintro ⟨q, ⟨tokens, read, ⟨name, rfl, rfl⟩ | ⟨_, list, mapped, rfl⟩⟩, rfl⟩
    · obtain ⟨inside, good, whole, rfl⟩ := Token.eq_name_of_tokenize read
      rw [whole]
      exact ⟨[inside], .name good, rfl⟩
    · obtain ⟨names, all, same⟩ := exists_mapM_parseDemand_iff.mp ⟨list, mapped, rfl⟩
      have apart : ∀ item ∈ Text.splitAll '&' query.toList, '&' ∉ item :=
        fun _ => Text.absent_of_mem_splitAll
      have whole := TemplateGrammar.Query.items (Text.splitAll_ne_nil '&' query.toList) apart all
      rw [Text.intercalate_splitAll] at whole
      exact ⟨_, whole, (names_demands list).trans same⟩
  · rintro ⟨inside, written, rfl⟩
    generalize text : query.toList = cs at written
    obtain rfl : query = String.ofList cs := by rw [← text, String.ofList_toList]
    cases written with
    | name good => exact ⟨_, ⟨_, Token.tokenize_name good, Or.inl ⟨_, rfl, rfl⟩⟩, rfl⟩
    | @items items names some apart all =>
      have stretches := Stretches.of_items all
      rw [← text] at stretches
      obtain ⟨tokens, read, _⟩ := Token.exists_tokenize_iff.mpr ⟨_, stretches, rfl⟩
      obtain ⟨list, mapped, same⟩ := exists_mapM_parseDemand_iff.mpr ⟨names, all, rfl⟩
      have cut : Text.splitAll '&' (['&'].intercalate items) = items := by
        rw [Text.splitAll_intercalate some, Text.flatMap_splitAll_of_absent apart]
      -- A single name in braces would begin with a brace.
      have several : ∀ name, tokens ≠ [.placeholder name] := by
        rintro name rfl
        obtain ⟨_, _, whole, _⟩ := Token.eq_name_of_tokenize read
        rw [text] at whole
        exact head?_items some all (by rw [whole]; rfl)
      rw [cut]
      exact ⟨.demands list, ⟨tokens, read, Or.inr ⟨several, list, mapped, rfl⟩⟩,
        (names_demands list).trans same⟩

end QueryTemplate

namespace UpstreamTemplate

variable {template : String}

theorem splitQuery_of_absent {cs : List Char} (absent : '?' ∉ cs) :
    splitQuery (String.ofList cs) = (String.ofList cs, none) := by
  rw [splitQuery, String.toList_ofList, Text.splitOnce_eq_none_iff.mpr absent]

theorem splitQuery_of_query {path : List Char} (absent : '?' ∉ path) (query : List Char) :
    splitQuery (String.ofList (path ++ '?' :: query)) =
      (String.ofList path, some (String.ofList query)) := by
  rw [splitQuery, String.toList_ofList, Text.splitOnce_append_cons absent]

/-- What stands for the query of a template, if there is one. -/
def QueryPart (query : Option String) (names : List (List Char)) : Prop :=
  match query with
  | none => names = []
  | some text => TemplateGrammar.Query text.toList names

/-- A template of the grammar has a slash in front, and its two parts are of the grammar. -/
theorem template_iff {inPath inQuery : List (List Char)} :
    TemplateGrammar.Template template.toList inPath inQuery ↔
      startsWithSlash template.toList = true ∧ Stretches (splitQuery template).1.toList inPath ∧
        QueryPart (splitQuery template).2 inQuery := by
  constructor
  · intro written
    generalize text : template.toList = cs at written
    obtain rfl : template = String.ofList cs := by rw [← text, String.ofList_toList]
    cases written with
    | path initial absent stretches =>
      rw [splitQuery_of_absent absent, String.toList_ofList]
      exact ⟨by simpa [startsWithSlash] using initial, stretches, rfl⟩
    | pathAndQuery initial absent stretches query =>
      rw [splitQuery_of_query absent, String.toList_ofList, QueryPart, String.toList_ofList]
      exact ⟨by simp [startsWithSlash, initial], stretches, query⟩
  · rintro ⟨initial, stretches, query⟩
    unfold splitQuery at stretches query
    cases cut : Text.splitOnce '?' template.toList with
    | none =>
      rw [cut] at stretches query
      obtain rfl : inQuery = [] := query
      exact .path (by simpa [startsWithSlash] using initial) (Text.splitOnce_eq_none_iff.mp cut) stretches
    | some parts =>
      obtain ⟨path, text⟩ := parts
      obtain ⟨whole, absent⟩ := Text.splitOnce_eq_some cut
      rw [cut] at stretches query
      dsimp only [QueryPart] at stretches query
      rw [String.toList_ofList] at stretches query
      rw [whole] at initial ⊢
      refine .pathAndQuery ?_ absent stretches query
      cases path with
      | nil => cases initial
      | cons c rest => simpa [startsWithSlash] using initial

theorem exists_mapM_parse_iff {query : Option String} {recorded : List String} :
    (∃ q, query.mapM (QueryTemplate.parse template) = .ok q ∧ queryNames q = recorded) ↔
      ∃ inside, QueryPart query inside ∧ recorded = inside.map recordedName := by
  cases query with
  | none =>
    constructor
    · rintro ⟨_, mapped, rfl⟩
      cases mapped
      exact ⟨[], rfl, rfl⟩
    · rintro ⟨_, rfl, rfl⟩
      exact ⟨none, rfl, rfl⟩
  | some text =>
    constructor
    · rintro ⟨_, mapped, rfl⟩
      obtain ⟨q, parsed, made⟩ := bind_eq_ok.mp mapped
      cases made
      exact QueryTemplate.exists_parse_iff.mp ⟨q, parsed, rfl⟩
    · intro written
      obtain ⟨q, parsed, names⟩ : ∃ q, QueryTemplate.parse template text = .ok q ∧ q.names = _ :=
        QueryTemplate.exists_parse_iff.mpr written
      exact ⟨some q, bind_eq_ok.mpr ⟨q, parsed, rfl⟩, names⟩

theorem exists_template_of_compile {caseSensitive : Bool} {t : UpstreamTemplate}
    (accepted : compile template caseSensitive = .ok t) :
    ∃ inPath inQuery, TemplateGrammar.Template template.toList inPath inQuery ∧
      t.pathNames = inPath.map recordedName ∧ queryNames t.query = inQuery.map recordedName := by
  obtain ⟨initial, tokens, query, read, parsed, _, rfl⟩ := compile_eq_ok_iff.mp accepted
  obtain ⟨inPath, stretches, pathNames⟩ := Token.exists_tokenize_iff.mp ⟨tokens, read, rfl⟩
  obtain ⟨inQuery, part, names⟩ := exists_mapM_parse_iff.mp ⟨query, parsed, rfl⟩
  exact ⟨inPath, inQuery, template_iff.mpr ⟨initial, stretches, part⟩, pathNames, names⟩

/-- A text compiles exactly when it is a template of the grammar whose names, without the blanks around them,
are all different, case aside; these names are recorded, in order. -/
theorem compile_iff_grammar (template : String) (caseSensitive : Bool) (ofPath ofQuery : List String) :
    (∃ t, compile template caseSensitive = .ok t ∧ t.pathNames = ofPath ∧
        queryNames t.query = ofQuery) ↔
      ∃ inPath inQuery, TemplateGrammar.Template template.toList inPath inQuery ∧
        ofPath = inPath.map recordedName ∧ ofQuery = inQuery.map recordedName ∧
        ((ofPath ++ ofQuery).map Text.lowerAscii).Nodup := by
  constructor
  · rintro ⟨t, accepted, rfl, rfl⟩
    obtain ⟨inPath, inQuery, written, pathNames, names⟩ := exists_template_of_compile accepted
    obtain ⟨_, tokens, query, _, _, distinct, rfl⟩ := compile_eq_ok_iff.mp accepted
    exact ⟨inPath, inQuery, written, pathNames, names, requireDistinct_eq_ok.mp distinct⟩
  · rintro ⟨inPath, inQuery, written, rfl, rfl, distinct⟩
    obtain ⟨initial, stretches, part⟩ := template_iff.mp written
    obtain ⟨tokens, read, pathNames⟩ := Token.exists_tokenize_iff.mpr ⟨inPath, stretches, rfl⟩
    obtain ⟨query, parsed, names⟩ : ∃ q, (splitQuery template).2.mapM (QueryTemplate.parse template) =
        .ok q ∧ queryNames q = _ :=
      exists_mapM_parse_iff.mpr ⟨inQuery, part, rfl⟩
    rw [← pathNames, ← names] at distinct ⊢
    exact ⟨ofTokens template caseSensitive tokens query, compile_eq_ok_iff.mpr
      ⟨initial, tokens, query, read, parsed, requireDistinct_eq_ok.mpr distinct, rfl⟩, rfl, rfl⟩

end UpstreamTemplate

end GatewayRouting
