import GatewayRouting.Downstream.Url
import GatewayRouting.Proofs.Text.Cutting

/-!
The two parts of a downstream address: which part of the template each is made of, and where a character in
the path can come from.
-/

set_option autoImplicit false

namespace GatewayRouting

variable {captures : List Capture} {c : Char}

namespace Span

/-- What a span is written as, but for a slash that an empty value takes with it. -/
def shown (captures : List Capture) : Span → List Char
  | .text cs => cs
  | .name cs => (captured? captures cs).getD ('\x7b' :: cs ++ ['\x7d'])

/-- The characters of a span in the template, without the braces around a name. -/
def chars : Span → List Char
  | .text cs | .name cs => cs

theorem mem_dropLast_iff {out : List Char} (slash : out.getLast? = some '/') (other : c ≠ '/') :
    c ∈ out.dropLast ↔ c ∈ out := by
  obtain ⟨front, rfl⟩ := List.getLast?_eq_some_iff.mp slash
  simp [other]

/-- Nothing is lost from what spans are written as but slashes, and everything else keeps its place. -/
theorem filter_notSlash_fill (spans : List Span) (out : List Char) :
    (fill captures out spans).filter Piece.notSlash =
      (out ++ spans.flatMap (shown captures)).filter Piece.notSlash := by
  induction spans generalizing out with
  | nil => rw [fill, List.flatMap_nil, List.append_nil]
  | cons span rest ih =>
    rw [List.flatMap_cons, ← List.append_assoc]
    cases span with
    | text cs => rw [fill, ih, shown]
    | name cs =>
      rw [fill, shown]
      cases found : captured? captures cs with
      | none =>
        dsimp only
        rw [ih, List.append_assoc out, Option.getD_none]
      | some value =>
        dsimp only
        split
        · rename_i taken
          simp only [Bool.and_eq_true, List.isEmpty_iff, beq_iff_eq] at taken
          obtain ⟨⟨empty, _⟩, slash⟩ := taken
          obtain ⟨front, rfl⟩ := List.getLast?_eq_some_iff.mp slash
          rw [ih, empty]
          simp [Piece.notSlash]
        · rw [ih, Option.getD_some]

theorem mem_fill_iff (other : c ≠ '/') {spans : List Span} {out : List Char} :
    c ∈ fill captures out spans ↔ c ∈ out ∨ ∃ span ∈ spans, c ∈ span.shown captures := by
  have kept (cs : List Char) : c ∈ cs.filter Piece.notSlash ↔ c ∈ cs := by
    simp [Piece.notSlash, other]
  rw [← kept, filter_notSlash_fill, kept, List.mem_append, List.mem_flatMap]

theorem absent_consChar {d : Char} (other : c ≠ d) {spans : List Span}
    (absent : ∀ span ∈ spans, c ∉ span.chars) : ∀ span ∈ consChar d spans, c ∉ span.chars := by
  unfold consChar
  split
  · rw [List.forall_mem_cons] at absent ⊢
    refine ⟨?_, absent.2⟩
    rw [chars, List.mem_cons, not_or]
    exact ⟨other, absent.1⟩
  · rw [List.forall_mem_cons]
    exact ⟨by simpa [chars] using other, absent⟩

/-- The spans of a text have no character that the text does not have. -/
theorem absent_scan (notOpening : c ≠ '\x7b') {cs : List Char} {state : Option (List Char)}
    (before : c ∉ state.getD []) (absent : c ∉ cs) : ∀ span ∈ scan state cs, c ∉ span.chars := by
  induction cs generalizing state with
  | nil =>
    cases state with
    | none => simp [scan]
    | some inside =>
      rw [scan, List.forall_mem_singleton, chars, List.mem_cons, not_or]
      exact ⟨notOpening, before⟩
  | cons d rest ih =>
    rw [List.mem_cons, not_or] at absent
    cases state with
    | none =>
      rw [scan]
      split
      · exact ih List.not_mem_nil absent.2
      · exact absent_consChar absent.1 (ih List.not_mem_nil absent.2)
    | some inside =>
      rw [scan]
      split
      · rw [List.forall_mem_cons]
        exact ⟨before, ih List.not_mem_nil absent.2⟩
      · apply ih _ absent.2
        rw [Option.getD_some, List.mem_append, List.mem_singleton, not_or]
        exact ⟨before, absent.1⟩

end Span

/-- A character that the template does not have comes from a value that is put into it. -/
theorem mem_substitute_iff {template : List Char} (absent : c ∉ template) (notSlash : c ≠ '/')
    (notOpening : c ≠ '\x7b') (notClosing : c ≠ '\x7d') :
    c ∈ substitute template captures ↔
      ∃ name ∈ templateNames template, ∃ value, captured? captures name = some value ∧ c ∈ value := by
  have foreign : ∀ span ∈ Span.ofText template, c ∉ span.chars :=
    Span.absent_scan notOpening List.not_mem_nil absent
  rw [substitute, Span.mem_fill_iff notSlash]
  constructor
  · rintro (nothing | ⟨span, inside, inShown⟩)
    · cases nothing
    have own := foreign span inside
    cases span with
    | text cs => exact absurd inShown own
    | name cs =>
      rw [Span.shown] at inShown
      cases found : captured? captures cs with
      | none =>
        rw [found, Option.getD_none] at inShown
        rw [Span.chars] at own
        simp [notOpening, notClosing, own] at inShown
      | some value =>
        rw [found] at inShown
        exact ⟨cs, List.mem_filterMap.mpr ⟨.name cs, inside, rfl⟩, value, found, inShown⟩
  · rintro ⟨name, listed, value, found, inValue⟩
    obtain ⟨span, inside, named⟩ := List.mem_filterMap.mp listed
    refine Or.inr ⟨span, inside, ?_⟩
    cases span with
    | text cs => cases named
    | name cs =>
      cases named
      rwa [Span.shown, found]

/-- The path part of a template holds no question mark. -/
theorem UpstreamTemplate.question_not_mem_splitQuery (template : String) :
    '?' ∉ (splitQuery template).1.toList := by
  unfold splitQuery
  cases cut : Text.splitOnce '?' template.toList with
  | none => exact Text.splitOnce_eq_none_iff.mp cut
  | some parts =>
    dsimp only
    rw [String.toList_ofList]
    exact (Text.splitOnce_eq_some cut).2

namespace DownstreamUrl

variable {downstream : String} {t : UpstreamTemplate} {path : String} {query : Option String}

theorem path_build :
    (build downstream t captures path query).path =
      String.ofList (pathFrom (UpstreamTemplate.splitQuery downstream).1.toList captures path) := by
  unfold build UpstreamTemplate.splitQuery
  cases Text.splitOnce '?' downstream.toList with
  | none => rfl
  | some parts => simp

theorem query_build :
    (build downstream t captures path query).query =
      joined (produced ((UpstreamTemplate.splitQuery downstream).2.map String.toList) captures ++
        (forwarded (templateNames downstream.toList) t.query
          (Query.parameters (query.getD ""))).map Parameter.toText) := by
  unfold build UpstreamTemplate.splitQuery
  cases Text.splitOnce '?' downstream.toList with
  | none => rfl
  | some parts => simp

/-- The path differs from the filled template by slashes only. -/
theorem mem_pathFrom_iff {template : List Char} (other : c ≠ '/') :
    c ∈ pathFrom template captures path ↔ c ∈ substitute template captures := by
  have filled : c ∈ (if (substitute template captures).isEmpty then ['/']
      else substitute template captures) ↔ c ∈ substitute template captures := by
    split
    · rename_i empty
      simp [List.isEmpty_iff.mp empty, other]
    · rfl
  rw [← filled]
  unfold pathFrom
  dsimp only
  generalize (if (substitute template captures).isEmpty then ['/']
    else substitute template captures) = made
  split
  · rename_i trimmed
    simp only [Bool.and_eq_true, beq_iff_eq] at trimmed
    exact Span.mem_dropLast_iff trimmed.1.2 other
  · rfl

/-- Path and query are told apart again exactly when the path has no question mark. -/
theorem splitOnce_pathAndQuery_iff (url : DownstreamUrl) :
    Text.splitOnce '?' url.pathAndQuery.toList =
        url.query.map (fun query => (url.path.toList, query.toList)) ↔
      '?' ∉ url.path.toList := by
  unfold pathAndQuery
  cases url.query with
  | none => exact Text.splitOnce_eq_none_iff
  | some query =>
    have whole : (url.path ++ "?" ++ query).toList = url.path.toList ++ '?' :: query.toList := by
      simp
    rw [whole, Option.map_some]
    constructor
    · intro cut
      exact (Text.splitOnce_eq_some cut).2
    · intro absent
      exact Text.splitOnce_append_cons absent _

end DownstreamUrl

end GatewayRouting
