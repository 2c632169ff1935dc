import GatewayRouting.Proofs.Template.Compiled
import GatewayRouting.Template.Header

/-!
What can be wrong with a template that starts with a slash, and with a header template: its braces, its names,
or its query.
-/

set_option autoImplicit false

namespace GatewayRouting

/-- The faults behind the first slash of a template. -/
inductive TemplateError.AfterSlash : TemplateError → Prop
  | unbalancedBraces (template : String) : AfterSlash (.unbalancedBraces template)
  | emptyPlaceholder (template : String) : AfterSlash (.emptyPlaceholder template)
  | duplicatePlaceholder (template name : String) : AfterSlash (.duplicatePlaceholder template name)
  | invalidQuery (template query : String) : AfterSlash (.invalidQuery template query)

open TemplateError (AfterSlash)

namespace Token

theorem scan_faults (template : String) (style : NameStyle) (state : Option (List Char))
    (cs : List Char) : FailsWith AfterSlash (scan template style state cs) := by
  induction cs generalizing state with
  | nil =>
    cases state with
    | none => exact .ok []
    | some inside => exact .error (.unbalancedBraces template)
  | cons c rest ih =>
    cases state with
    | none =>
      rw [scan]
      split
      · exact ih (some [])
      · split
        · exact .error (.unbalancedBraces template)
        · exact (ih none).map (consChar c)
    | some inside =>
      rw [scan]
      split
      · dsimp only
        split
        · exact .error (.emptyPlaceholder template)
        · exact (ih none).map _
      · split
        · exact .error (.unbalancedBraces template)
        · exact ih (some (inside ++ [c]))

theorem tokenize_faults (style : NameStyle) (template : String) :
    FailsWith AfterSlash (tokenize style template) :=
  scan_faults template style none template.toList

end Token

theorem requireDistinct_faults (template : String) (names : List String) :
    FailsWith AfterSlash (requireDistinct template names) := by
  unfold requireDistinct
  split
  · exact .error (.duplicatePlaceholder template _)
  · exact .ok ()

namespace QueryTemplate

theorem parseDemand_faults {invalid : TemplateError} (expected : AfterSlash invalid)
    (item : List Char) : FailsWith AfterSlash (parseDemand invalid item) := by
  unfold parseDemand
  split
  · exact .error expected
  · rename_i key value _
    split
    · exact .error expected
    · apply (Token.tokenize_faults .bare (String.ofList value)).bind
      intro tokens _
      split
      · exact .ok _
      · exact .ok _
      · exact .ok _
      · exact .error expected

theorem parse_faults (template query : String) : FailsWith AfterSlash (parse template query) := by
  unfold parse
  apply (Token.tokenize_faults .bare query).bind
  intro tokens _
  split
  · exact .ok _
  · apply (FailsWith.listMapM (parseDemand_faults (.invalidQuery template query)) _).bind
    intro list _
    exact .ok _

end QueryTemplate

theorem UpstreamTemplate.compile_faults {template : String}
    (initial : startsWithSlash template.toList = true) (caseSensitive : Bool) :
    FailsWith AfterSlash (compile template caseSensitive) := by
  rw [compile_of_startsWithSlash initial]
  apply (Token.tokenize_faults .bare _).bind
  intro tokens _
  apply (FailsWith.optionMapM (QueryTemplate.parse_faults template) _).bind
  intro query _
  apply (requireDistinct_faults template _).bind
  intro _ _
  exact .ok _

theorem HeaderTemplate.compile_faults (name template : String) (caseSensitive : Bool) :
    FailsWith AfterSlash (compile name template caseSensitive) := by
  unfold compile
  apply (Token.tokenize_faults .header template).bind
  intro tokens _
  apply (requireDistinct_faults template _).bind
  intro _ _
  exact .ok _

end GatewayRouting
