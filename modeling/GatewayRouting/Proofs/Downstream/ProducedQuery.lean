import GatewayRouting.Proofs.Downstream.Filling
import GatewayRouting.Proofs.Downstream.Parts
import GatewayRouting.Proofs.Query.Parameters
import Mathlib.Data.List.TakeWhile

/-!
A downstream query made of pairs `key={name}`. It is read back as those keys with the captured values unless
a value has a separator of its own: values are put in as they were sent.
-/

set_option autoImplicit false

namespace GatewayRouting

/-- A pair `key={name}` of a downstream query. -/
structure NamedPair where
  key : List Char
  name : List Char
  braceFree : '\x7b' ∉ key
  closed : '\x7d' ∉ name

namespace NamedPair

variable {captures : List Capture} {p : NamedPair} {pairs : List NamedPair}

def text (p : NamedPair) : List Char := p.key ++ '=' :: '\x7b' :: p.name ++ ['\x7d']

/-- The query of a template that lists these pairs. -/
def queryOf (pairs : List NamedPair) : List Char := ['&'].intercalate (pairs.map text)

/-- The value captured for the pair. -/
def value (captures : List Capture) (p : NamedPair) : List Char := (captured? captures p.name).getD []

/-- The pair with its value in place of the name. -/
def written (captures : List Capture) (p : NamedPair) : List Char := p.key ++ '=' :: p.value captures

/-- The parameter that the pair is meant to be for the service. -/
def parameter (captures : List Capture) (p : NamedPair) : Parameter :=
  ⟨String.ofList p.key, String.ofList (p.value captures)⟩

/-- The written pair has no separators but its own. -/
@[mk_iff]
structure Plain (captures : List Capture) (p : NamedPair) : Prop where
  oneKey : '=' ∉ p.key
  oneText : '&' ∉ p.key
  oneValue : '&' ∉ p.value captures

instance : Decidable (p.Plain captures) :=
  decidable_of_iff _ (plain_iff captures p).symm

theorem Plain.ofText_written (plain : p.Plain captures) :
    Parameter.ofText (p.written captures) = p.parameter captures :=
  Parameter.ofText_of_named plain.oneKey _

theorem Plain.absent_written (plain : p.Plain captures) : '&' ∉ p.written captures := by
  rw [written, List.mem_append, List.mem_cons, not_or, not_or]
  exact ⟨plain.oneText, by decide, plain.oneValue⟩

theorem written_ne_nil : p.written captures ≠ [] := by simp [written]

/-- A value captured first stays the same whatever is captured after it. -/
theorem value_append (known : (captured? captures p.name).isSome) (more : List Capture) :
    p.value (captures ++ more) = p.value captures := by
  obtain ⟨value, found⟩ := Option.isSome_iff_exists.mp known
  rw [NamedPair.value, NamedPair.value, captured?_append, found, Option.some_or]

/-- An empty value takes no slash with it: an equals sign stands before it. -/
theorem fill_text (known : (captured? captures p.name).isSome) (rest out : List Char) :
    Span.fill captures out (Span.scan none (p.text ++ rest)) =
      Span.fill captures (out ++ p.written captures) (Span.scan none rest) := by
  obtain ⟨value, found⟩ := Option.isSome_iff_exists.mp known
  have apart : (out ++ (p.key ++ ['='])).getLast? ≠ some '/' := by
    rw [← List.append_assoc, List.getLast?_concat]
    decide
  have keyFree : '\x7b' ∉ p.key ++ ['='] := by
    rw [List.mem_append, not_or]
    exact ⟨p.braceFree, by decide⟩
  have cut : p.text ++ rest = (p.key ++ ['=']) ++ '\x7b' :: (p.name ++ '\x7d' :: rest) := by simp [text]
  rw [cut, Span.fill_scan_append keyFree, Span.scan, if_pos rfl, Span.scan_name p.closed, List.nil_append,
    Span.fill_name_of_kept found (Or.inr apart), written, NamedPair.value, found]
  simp

theorem fill_separated (known : ∀ p ∈ pairs, (captured? captures p.name).isSome) (out : List Char) :
    Span.fill captures out (Span.scan none (pairs.flatMap fun p => '&' :: p.text)) =
      out ++ pairs.flatMap fun p => '&' :: p.written captures := by
  induction pairs generalizing out with
  | nil => rw [List.flatMap_nil, Span.scan, Span.fill, List.flatMap_nil, List.append_nil]
  | cons p rest ih =>
    obtain ⟨own, others⟩ := List.forall_mem_cons.mp known
    have cut (q : List Char) (more : List Char) : ('&' :: q) ++ more = ['&'] ++ (q ++ more) := rfl
    rw [List.flatMap_cons, cut, Span.fill_scan_append (by decide), fill_text own, ih others,
      List.flatMap_cons, cut, List.append_assoc, List.append_assoc]

/-- Every pair is written with its value. -/
theorem substitute_queryOf (known : ∀ p ∈ pairs, (captured? captures p.name).isSome) :
    substitute (queryOf pairs) captures = ['&'].intercalate (pairs.map (written captures)) := by
  cases pairs with
  | nil => rfl
  | cons p rest =>
    obtain ⟨own, others⟩ := List.forall_mem_cons.mp known
    rw [substitute, Span.ofText, queryOf, List.map_cons, Text.intercalate_cons_eq, List.flatMap_map,
      fill_text own, fill_separated others, List.map_cons, Text.intercalate_cons_eq, List.flatMap_map,
      List.nil_append]

/-- Joined pairs are told apart again. -/
theorem segments_written (plain : ∀ p ∈ pairs, p.Plain captures) :
    Query.segments (['&'].intercalate (pairs.map (written captures))) = pairs.map (written captures) := by
  rw [Query.segments_intercalate, List.filter_eq_self]
  · rw [List.forall_mem_map]
    intro p _
    simp [written_ne_nil]
  · rw [List.forall_mem_map]
    exact fun p inside => (plain p inside).absent_written

theorem produced_queryOf (known : ∀ p ∈ pairs, (captured? captures p.name).isSome)
    (plain : ∀ p ∈ pairs, p.Plain captures) :
    DownstreamUrl.produced (some (queryOf pairs)) captures = pairs.map (written captures) := by
  rw [DownstreamUrl.produced, substitute_queryOf known, segments_written plain]

/-- The pair without question marks at the front of its key. -/
def unmarked (p : NamedPair) : NamedPair where
  key := p.key.dropWhile (· == '?')
  name := p.name
  braceFree := fun found => p.braceFree ((List.dropWhile_sublist _).subset found)
  closed := p.closed

theorem key_unmarked : p.unmarked.key = p.key.dropWhile (· == '?') := rfl

theorem value_unmarked : p.unmarked.value captures = p.value captures := rfl

/-- Only question marks at the front of a key make a difference. -/
theorem parameter_unmarked_iff :
    p.unmarked.parameter captures = p.parameter captures ↔ p.key.head? ≠ some '?' := by
  rw [parameter, parameter, value_unmarked, Parameter.mk.injEq, String.ofList_inj, key_unmarked,
    and_iff_left rfl]
  exact Query.dropWhile_eq_self_iff

/-- Joined pairs are read as their parameters, but for question marks in front of all. -/
theorem parameters_written (plain : ∀ q ∈ p :: pairs, q.Plain captures) :
    Query.parameters (String.ofList (['&'].intercalate ((p :: pairs).map (written captures)))) =
      p.unmarked.parameter captures :: pairs.map (parameter captures) := by
  obtain ⟨own, others⟩ := List.forall_mem_cons.mp plain
  have separate : ∀ text ∈ (p :: pairs).map (written captures), '&' ∉ text :=
    List.forall_mem_map.mpr fun q inside => (plain q inside).absent_written
  have named : ∀ text ∈ pairs.map (written captures), '=' ∈ text :=
    List.forall_mem_map.mpr fun q _ => by simp [written]
  have read : pairs.map (Parameter.ofText ∘ written captures) = pairs.map (parameter captures) :=
    List.map_congr_left fun q inside => (others q inside).ofText_written
  rw [List.map_cons] at separate ⊢
  rw [written, Query.parameters_intercalate own.oneKey separate named, List.map_map, read,
    Parameter.unmarked, String.toList_ofList]
  rfl

/-- The separators of a query are in no key and no value that is read from it. -/
theorem plain_of_parameters {query : String}
    (same : Query.parameters query = pairs.map (parameter captures)) : ∀ p ∈ pairs, p.Plain captures := by
  intro p inside
  have listed : p.parameter captures ∈ Query.parameters query := by
    rw [same]
    exact List.mem_map_of_mem inside
  obtain ⟨keyFree, valueFree⟩ := Query.absent_of_mem_parameters listed
  have oneKey := Query.equals_not_mem_key listed
  rw [parameter, String.toList_ofList] at keyFree valueFree oneKey
  exact ⟨oneKey, keyFree, valueFree⟩

/-- A query is read as the pairs that it is made of exactly when they are plain and no question mark in front
is passed over. -/
theorem parameters_produced_iff (known : ∀ p ∈ pairs, (captured? captures p.name).isSome) :
    Query.parameters (String.ofList
        (['&'].intercalate (DownstreamUrl.produced (some (queryOf pairs)) captures))) =
        pairs.map (parameter captures) ↔
      (∀ p ∈ pairs, p.Plain captures) ∧ ∀ p ∈ pairs.head?, p.key.head? ≠ some '?' := by
  constructor
  · intro same
    have plain := plain_of_parameters same
    refine ⟨plain, ?_⟩
    rw [produced_queryOf known plain] at same
    cases pairs with
    | nil => simp
    | cons p rest =>
      rw [parameters_written plain, List.map_cons, List.cons.injEq] at same
      simpa using parameter_unmarked_iff.mp same.1
  · rintro ⟨plain, unmarked⟩
    rw [produced_queryOf known plain]
    cases pairs with
    | nil => rfl
    | cons p rest =>
      rw [parameters_written plain, List.map_cons, parameter_unmarked_iff.mpr (unmarked p rfl)]

end NamedPair

theorem UpstreamTemplate.isSome_captured?_of_pathNames {template : String} {caseSensitive : Bool}
    {t : UpstreamTemplate} {path : String} {ofPath : List Capture}
    (accepted : compile template caseSensitive = .ok t) (captured : t.capturePath path = some ofPath)
    {name : String} (inside : name ∈ t.pathNames) {label : List Char}
    (same : Text.sameAscii name.toList label = true) : (captured? ofPath label).isSome = true := by
  obtain ⟨_, tokens, queryTemplate, _, _, _, rfl⟩ := compile_eq_ok_iff.mp accepted
  obtain ⟨values, split, _, rfl⟩ := capturePath_ofTokens_eq_some_iff.mp captured
  exact isSome_captured?_assigned split.splits.length_values inside same

namespace DownstreamUrl

/-- A downstream query of pairs whose names are captured from the path is read as their keys with the
captured values, in order, exactly when every pair is plain and the first key has no question mark in front.
Captures of the query and the headers make no difference. -/
theorem parameters_query_build_iff {template : String} {caseSensitive : Bool} {t : UpstreamTemplate}
    {path : String} {query : Option String} {found : List Capture} {downstream : String}
    {pairs : List NamedPair} (accepted : UpstreamTemplate.compile template caseSensitive = .ok t)
    (matched : t.captures path query = some found)
    (listed : (UpstreamTemplate.splitQuery downstream).2.map String.toList = some (NamedPair.queryOf pairs))
    (named : ∀ p ∈ pairs, ∃ name ∈ t.pathNames, Text.sameAscii name.toList p.name = true)
    (more : List Capture) :
    let pieces := produced (some (NamedPair.queryOf pairs)) (found ++ more)
    ∃ ofPath, t.capturePath path = some ofPath ∧
      (∀ p ∈ pairs, (captured? ofPath p.name).isSome = true) ∧
      (build downstream t (found ++ more) path query).query = joined (pieces ++
        (forwarded (templateNames downstream.toList) t.query
          (Query.parameters (query.getD ""))).map Parameter.toText) ∧
      (Query.parameters (String.ofList (['&'].intercalate pieces)) =
          pairs.map (NamedPair.parameter ofPath) ↔
        (∀ p ∈ pairs, p.Plain ofPath) ∧ ∀ p ∈ pairs.head?, p.key.head? ≠ some '?') := by
  intro pieces
  obtain ⟨ofPath, ofQuery, onPath, _, rfl⟩ := UpstreamTemplate.captures_eq_some_iff.mp matched
  have known : ∀ p ∈ pairs, (captured? ofPath p.name).isSome = true := by
    intro p inside
    obtain ⟨name, captured, same⟩ := named p inside
    exact UpstreamTemplate.isSome_captured?_of_pathNames accepted onPath captured same
  have values : ∀ p ∈ pairs, p.value (ofPath ++ ofQuery ++ more) = p.value ofPath := by
    intro p inside
    rw [List.append_assoc, NamedPair.value_append (known p inside)]
  have parameters : pairs.map (NamedPair.parameter ofPath) =
      pairs.map (NamedPair.parameter (ofPath ++ ofQuery ++ more)) := by
    apply List.map_congr_left
    intro p inside
    rw [NamedPair.parameter, NamedPair.parameter, values p inside]
  refine ⟨ofPath, onPath, known, by rw [query_build, listed], ?_⟩
  rw [parameters, NamedPair.parameters_produced_iff]
  · refine and_congr_left fun _ => forall₂_congr fun p inside => ?_
    rw [NamedPair.plain_iff, NamedPair.plain_iff, values p inside]
  · intro p inside
    rw [List.append_assoc, captured?_append, Option.isSome_or, known p inside, Bool.true_or]

/-- An equals sign in a value does no harm, and an empty value is kept. -/
theorem parameters_query_build_of_plainValues :
    ∃ t, UpstreamTemplate.compile "/items/\x7bid\x7d/\x7brest\x7d" false = .ok t ∧
      (build "/x?a=\x7bID\x7d&b=\x7brest\x7d" t [⟨"id", "c=1"⟩, ⟨"rest", ""⟩] "/items/c=1/" (some "z=2")).query =
        some "a=c=1&b=&z=2" ∧
      Query.parameters "a=c=1&b=" = [⟨"a", "c=1"⟩, ⟨"b", ""⟩] := by
  have evaluated : (UpstreamTemplate.compile "/items/\x7bid\x7d/\x7brest\x7d" false).map (fun t =>
      (t.pathNames, t.capturePath "/items/c=1/", t.captureQuery (some "z=2"),
        build "/x?a=\x7bID\x7d&b=\x7brest\x7d" t [⟨"id", "c=1"⟩, ⟨"rest", ""⟩] "/items/c=1/" (some "z=2"))) =
      .ok (["id", "rest"], some [⟨"id", "c=1"⟩, ⟨"rest", ""⟩], some [],
        ⟨"/x", some "a=c=1&b=&z=2"⟩) := by
    decide +kernel
  obtain ⟨t, accepted, same⟩ := map_eq_ok.mp evaluated
  obtain ⟨names, known, onQuery, made⟩ : _ ∧ _ ∧ _ ∧ _ := by simpa only [Prod.mk.injEq] using same
  have matched : t.captures "/items/c=1/" (some "z=2") = some [⟨"id", "c=1"⟩, ⟨"rest", ""⟩] :=
    UpstreamTemplate.captures_eq_some_iff.mpr ⟨_, _, known, onQuery, rfl⟩
  have listed : (UpstreamTemplate.splitQuery "/x?a=\x7bID\x7d&b=\x7brest\x7d").2.map String.toList =
      some (NamedPair.queryOf [⟨"a".toList, "ID".toList, by decide, by decide⟩,
        ⟨"b".toList, "rest".toList, by decide, by decide⟩]) := by
    decide +kernel
  obtain ⟨ofPath, onPath, _, _, readBack⟩ :=
    parameters_query_build_iff accepted matched listed (by rw [names]; decide +kernel) []
  cases known.symm.trans onPath
  have parameters := readBack.mpr (by decide +kernel)
  exact ⟨t, accepted, by rw [made], parameters⟩

/-- A value of the path brings a parameter of its own. -/
theorem parameters_query_build_of_separator :
    ∃ t, UpstreamTemplate.compile "/items/\x7bid\x7d" false = .ok t ∧ t.pathNames = ["id"] ∧
      t.captures "/items/a&b=c" none = some [⟨"id", "a&b=c"⟩] ∧
      (UpstreamTemplate.splitQuery "/x?id=\x7bid\x7d").2.map String.toList =
        some (NamedPair.queryOf [⟨"id".toList, "id".toList, by decide, by decide⟩]) ∧
      build "/x?id=\x7bid\x7d" t [⟨"id", "a&b=c"⟩] "/items/a&b=c" none = ⟨"/x", some "id=a&b=c"⟩ ∧
      Query.parameters "id=a&b=c" = [⟨"id", "a"⟩, ⟨"b", "c"⟩] := by
  have evaluated : (UpstreamTemplate.compile "/items/\x7bid\x7d" false).map (fun t =>
      (t.pathNames, t.captures "/items/a&b=c" none,
        build "/x?id=\x7bid\x7d" t [⟨"id", "a&b=c"⟩] "/items/a&b=c" none)) =
      .ok (["id"], some [⟨"id", "a&b=c"⟩], ⟨"/x", some "id=a&b=c"⟩) := by
    decide +kernel
  obtain ⟨t, accepted, same⟩ := map_eq_ok.mp evaluated
  obtain ⟨names, matched, made⟩ : _ ∧ _ ∧ _ := by simpa only [Prod.mk.injEq] using same
  exact ⟨t, accepted, names, matched, by decide +kernel, made, by decide +kernel⟩

end DownstreamUrl

end GatewayRouting
