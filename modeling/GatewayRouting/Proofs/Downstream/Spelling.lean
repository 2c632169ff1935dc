import GatewayRouting.Proofs.Downstream.Forwarding
import GatewayRouting.Proofs.Template.Grammar

/-!
How a placeholder is spelled. The strict reader drops the blanks around a name and the lenient one keeps them,
so a name is found again just where it is written without them.
-/

set_option autoImplicit false

namespace GatewayRouting

/-- The recorded name is the written one, case aside, only where nothing was dropped. -/
theorem sameAscii_recordedName_iff {inside : List Char} :
    Text.sameAscii inside (recordedName inside).toList = true ↔ Text.trim inside = inside := by
  rw [recordedName, String.toList_ofList, Text.sameAscii, beq_iff_eq]
  constructor
  · intro same
    have sizes : (Text.trim inside).length = inside.length := by
      simpa using (congrArg List.length same).symm
    exact (Text.trim_infix inside).eq_of_length sizes
  · intro tight
    rw [tight]

theorem toList_recordedName {inside : List Char} (tight : Text.trim inside = inside) :
    (recordedName inside).toList = inside := by
  rw [recordedName, String.toList_ofList, tight]

/-- What a name between braces is found under is its text, case aside. -/
theorem isSome_captured?_of_mem {captures : List Capture} {name : String}
    (inside : name ∈ captures.map Capture.name) {label : List Char}
    (same : Text.sameAscii name.toList label = true) : (captured? captures label).isSome = true := by
  obtain ⟨c, known, rfl⟩ := List.mem_map.mp inside
  rw [captured?, Option.isSome_map, List.find?_isSome]
  exact ⟨c, known, same⟩

namespace QueryTemplate

theorem names_of_captureDemand {parameters : List Parameter} {d : Demand} {found : List Capture}
    (captured : captureDemand parameters d = some found) : found.map Capture.name = d.names := by
  obtain ⟨key, value⟩ := d
  cases value with
  | literal text =>
    dsimp only [captureDemand] at captured
    split at captured
    · cases captured
      rfl
    · cases captured
  | placeholder name =>
    obtain ⟨p, _, rfl⟩ := Option.map_eq_some_iff.mp captured
    rfl

/-- A query that meets the template is captured under the names of the template. -/
theorem names_of_capture {template : QueryTemplate} {query : Option String} {found : List Capture}
    (captured : template.capture query = some found) : found.map Capture.name = template.names := by
  cases template with
  | catchAll name =>
    cases captured
    rfl
  | demands list =>
    rw [names_demands]
    rw [capture] at captured
    induction list generalizing found with
    | nil =>
      cases captured
      rfl
    | cons d rest ih =>
      obtain ⟨own, others, first, later, rfl⟩ := captureDemands_cons_eq_some.mp captured
      rw [List.map_append, names_of_captureDemand first, ih later, List.flatMap_cons]

end QueryTemplate

namespace UpstreamTemplate

variable {template : String} {caseSensitive : Bool} {t : UpstreamTemplate}

/-- What is recorded are the names that the lenient reader finds in the whole text, path before query. -/
theorem names_eq_map_recordedName (accepted : compile template caseSensitive = .ok t) :
    t.pathNames ++ queryNames t.query = (templateNames template.toList).map recordedName := by
  obtain ⟨inPath, inQuery, written, pathNames, names⟩ := exists_template_of_compile accepted
  have whole := (Span.stretches_iff.mp written.stretches).2
  rw [pathNames, names, ← whole, List.map_append]

/-- A request is captured under the recorded names, in order. -/
theorem names_of_captures {path : String} {query : Option String} {found : List Capture}
    (accepted : compile template caseSensitive = .ok t) (captured : t.captures path query = some found) :
    found.map Capture.name = t.pathNames ++ queryNames t.query := by
  obtain ⟨_, tokens, queryTemplate, _, _, _, rfl⟩ := compile_eq_ok_iff.mp accepted
  obtain ⟨ofPath, ofQuery, onPath, onQuery, rfl⟩ := captures_eq_some_iff.mp captured
  obtain ⟨values, split, _, rfl⟩ := capturePath_ofTokens_eq_some_iff.mp onPath
  rw [List.map_append, names_assigned split.splits.fits.length_values]
  cases queryTemplate with
  | none =>
    cases onQuery
    rfl
  | some queryTemplate => rw [QueryTemplate.names_of_capture onQuery]; rfl

end UpstreamTemplate

/-- The text of a stretch of which every name is captured. -/
def Span.replaced (captures : List Capture) : Span → List Char
  | .text cs => cs
  | .name inside => (captured? captures inside).getD []

/-- Every name of the template is captured, and its value stands in its place. Slashes are left out on both
sides: an empty value at the end of a segment takes one with it. -/
structure Replaces (captures : List Capture) (template : List Char) : Prop where
  known : ∀ name ∈ templateNames template, (captured? captures name).isSome = true
  placed : (substitute template captures).filter Piece.notSlash =
    ((Span.ofText template).flatMap (Span.replaced captures)).filter Piece.notSlash

theorem Span.shown_eq_replaced {captures : List Capture} {spans : List Span}
    (known : ∀ name ∈ spans.filterMap name?, (captured? captures name).isSome = true) :
    ∀ span ∈ spans, span.shown captures = span.replaced captures := by
  intro span inside
  cases span with
  | text cs => rfl
  | name label =>
    have there := known label (List.mem_filterMap.mpr ⟨.name label, inside, rfl⟩)
    obtain ⟨value, found⟩ := Option.isSome_iff_exists.mp there
    rw [shown, replaced, found]
    rfl

/-- Substitution leaves a name in braces only where nothing is captured under it. -/
theorem replaces_of_known {captures : List Capture} {template : List Char}
    (known : ∀ name ∈ templateNames template, (captured? captures name).isSome = true) :
    Replaces captures template where
  known
  placed := by
    rw [substitute, Span.filter_notSlash_fill, List.nil_append,
      List.flatMap_congr (Span.shown_eq_replaced known)]

namespace UpstreamTemplate

variable {template : String} {caseSensitive : Bool} {t : UpstreamTemplate}

/-- The two readers of a template that compiles agree on its names, and every downstream text that spells its
names like the template has them all replaced, exactly when no name is written with blanks around it. -/
theorem templateNames_agree_iff (accepted : compile template caseSensitive = .ok t) :
    (List.Forall₂ (fun read recorded => Text.sameAscii read recorded.toList = true)
        (templateNames template.toList) (t.pathNames ++ queryNames t.query) ∧
      ∀ path query found, t.captures path query = some found → ∀ more downstream,
        (∀ name ∈ templateNames downstream, ∃ inside ∈ templateNames template.toList,
          Text.sameAscii inside name = true) →
        Replaces (found ++ more) downstream) ↔
      ∀ inside ∈ templateNames template.toList, Text.trim inside = inside := by
  have recorded := names_eq_map_recordedName accepted
  have agree : List.Forall₂ (fun read recorded => Text.sameAscii read recorded.toList = true)
      (templateNames template.toList) (t.pathNames ++ queryNames t.query) ↔
      ∀ inside ∈ templateNames template.toList, Text.trim inside = inside := by
    simp only [recorded, List.forall₂_map_right_iff, List.forall₂_same, sameAscii_recordedName_iff]
  rw [agree]
  constructor
  · exact And.left
  · intro tight
    refine ⟨tight, ?_⟩
    intro path query found captured more downstream spelled
    have names := names_of_captures accepted captured
    apply replaces_of_known
    intro name listed
    obtain ⟨inside, written, same⟩ := spelled name listed
    have known : recordedName inside ∈ (found ++ more).map Capture.name := by
      rw [List.map_append, names, recorded]
      exact List.mem_append_left _ (List.mem_map_of_mem written)
    exact isSome_captured?_of_mem known (by rwa [toList_recordedName (tight inside written)])

/-- Names may be spelled in another case and stand in another order. -/
theorem templateNames_agree_of_otherCase :
    ∃ t found, compile "/units/{unit}?since={Since}" false = .ok t ∧
      t.captures "/units/7" (some "since=x") = some found ∧
      Replaces found "/{since}/{UNIT}".toList := by
  have evaluated : (compile "/units/{unit}?since={Since}" false).map (fun t =>
      t.captures "/units/7" (some "since=x")) = .ok (some [⟨"unit", "7"⟩, ⟨"Since", "x"⟩]) := by
    decide +kernel
  obtain ⟨t, accepted, captured⟩ := map_eq_ok.mp evaluated
  have replaces := ((templateNames_agree_iff accepted).mpr (by decide +kernel)).2 _ _ _ captured []
    "/{since}/{UNIT}".toList (by decide +kernel)
  rw [List.append_nil] at replaces
  exact ⟨t, _, accepted, captured, replaces⟩

/-- Blanks around a name are not recorded, but looked up: the name is captured and its braces stay. -/
theorem path_build_of_blankedName :
    ∃ t found, compile "/a/{ id }" false = .ok t ∧ t.captures "/a/1" none = some found ∧
      ¬List.Forall₂ (fun read recorded => Text.sameAscii read recorded.toList = true)
        (templateNames "/a/{ id }".toList) (t.pathNames ++ queryNames t.query) ∧
      (DownstreamUrl.build "/b/{ id }" t found "/a/1" none).path = "/b/{ id }" := by
  have evaluated : (compile "/a/{ id }" false).map (fun t =>
      (t.captures "/a/1" none, t.pathNames ++ queryNames t.query,
        (DownstreamUrl.build "/b/{ id }" t [⟨"id", "1"⟩] "/a/1" none).path)) =
      .ok (some [⟨"id", "1"⟩], ["id"], "/b/{ id }") := by
    decide +kernel
  obtain ⟨t, accepted, same⟩ := map_eq_ok.mp evaluated
  obtain ⟨captured, recorded, path⟩ := Prod.mk.inj same |>.imp_right Prod.mk.inj
  refine ⟨t, _, accepted, captured, ?_, path⟩
  rw [recorded]
  decide +kernel

end UpstreamTemplate

end GatewayRouting
