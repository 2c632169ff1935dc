import GatewayRouting.Proofs.Config.Valid
import GatewayRouting.Proofs.Text.AsciiCase

/-!
Which pairs of route sections the check for duplicates reports: those whose texts agree as they are written.
-/

set_option autoImplicit false

namespace GatewayRouting

/-- One of two lists of methods is for all methods, or a method of each is read as the same one. -/
def SharesMethod (read : String → String) (a b : List String) : Prop :=
  a = [] ∨ b = [] ∨ ∃ m ∈ a, ∃ n ∈ b, read m = read n

instance (read : String → String) (a b : List String) : Decidable (SharesMethod read a b) :=
  inferInstanceAs (Decidable (_ ∨ _))

/-- Both templates in one case, unless one of the routes minds case. -/
def RouteSection.SameTemplate (a b : RouteSection) : Prop :=
  if a.caseSensitive || b.caseSensitive then a.upstreamPathTemplate = b.upstreamPathTemplate
  else Text.lowerAscii a.upstreamPathTemplate = Text.lowerAscii b.upstreamPathTemplate

/-- What a pair of sections is reported for. -/
@[mk_iff]
structure RouteSection.SameAsWritten (a b : RouteSection) : Prop where
  template : a.SameTemplate b
  host : a.upstreamHost.map Text.lowerAscii = b.upstreamHost.map Text.lowerAscii
  methods : SharesMethod Text.upperAscii a.upstreamMethods b.upstreamMethods
  headers : a.headerTemplates = b.headerTemplates

namespace RouteSection

variable {a b : RouteSection}

theorem SameTemplate.lowerAscii_eq (same : a.SameTemplate b) :
    Text.lowerAscii a.upstreamPathTemplate = Text.lowerAscii b.upstreamPathTemplate := by
  unfold SameTemplate at same
  split at same
  · rw [same]
  · exact same

/-- Where either route minds case the templates are the same text. -/
theorem SameTemplate.eq_of_caseSensitive (same : a.SameTemplate b)
    (sensitive : a.caseSensitive = true ∨ b.caseSensitive = true) :
    a.upstreamPathTemplate = b.upstreamPathTemplate := by
  have either : (a.caseSensitive || b.caseSensitive) = true := by simpa using sensitive
  rwa [SameTemplate, if_pos either] at same

end RouteSection

namespace Configuration

variable {a b : RouteSection}

theorem isDuplicate_eq_true_iff : isDuplicate a b = true ↔ a.SameAsWritten b := by
  have template : (if a.caseSensitive || b.caseSensitive then
      a.upstreamPathTemplate == b.upstreamPathTemplate
      else Text.sameIgnoringCase a.upstreamPathTemplate b.upstreamPathTemplate) = true ↔
      a.SameTemplate b := by
    unfold RouteSection.SameTemplate
    split
    · exact beq_iff_eq
    · exact Text.sameIgnoringCase_iff
  have methods : (a.upstreamMethods.isEmpty || b.upstreamMethods.isEmpty ||
      a.upstreamMethods.any fun m => b.upstreamMethods.any fun n => Text.sameIgnoringCase n m) = true ↔
      SharesMethod Text.upperAscii a.upstreamMethods b.upstreamMethods := by
    simp only [SharesMethod, Bool.or_eq_true, List.isEmpty_iff, List.any_eq_true, or_assoc,
      Text.sameIgnoringCase_comm _ _, Text.sameIgnoringCase_iff, Text.upperAscii_eq_iff]
  unfold isDuplicate
  rw [Bool.and_eq_true, Bool.and_eq_true, Bool.and_eq_true, RouteSection.sameAsWritten_iff,
    ← and_assoc, ← and_assoc]
  refine and_congr (and_congr (and_congr template ?_) methods) beq_iff_eq
  cases a.upstreamHost <;> cases b.upstreamHost <;> simp [Text.sameIgnoringCase_iff]

end Configuration

/-- A route of that template to one downstream host, for all methods. -/
def RouteSection.toOneHost (template : String) : RouteSection where
  downstreamPathTemplate := "/"
  downstreamHosts := [.inline ⟨"b", 80⟩]
  upstreamPathTemplate := template

end GatewayRouting
