import GatewayRouting.Proofs.Route.Filters
import GatewayRouting.Proofs.Table.Composition

/-!
Routes of a table that have the same filters. Sections are compared as they are written, routes as they are
read: blanks around a method and the case of a header's name are there for the one and not for the other.
-/

set_option autoImplicit false

namespace GatewayRouting

/-- Two routes have the same template in the same case mode, the same host or none, the same header templates
under the same trigger, and a method in common. -/
@[mk_iff]
structure Upstream.Alike (u v : Upstream) : Prop where
  template : u.template.raw = v.template.raw
  caseMode : u.template.caseSensitive = v.template.caseSensitive
  host : u.host.map Text.lowerAscii = v.host.map Text.lowerAscii
  headers : (u.headerTemplates.map fun t => (t.name, t.raw)).Perm
    (v.headerTemplates.map fun t => (t.name, t.raw))
  trigger : u.headerTrigger = v.headerTrigger
  methods : u.methods = [] ∨ v.methods = [] ∨ ∃ m ∈ u.methods, m ∈ v.methods

instance (u v : Upstream) : Decidable (u.Alike v) :=
  decidable_of_iff _ (Upstream.alike_iff u v).symm

namespace RouteSection

/-- The header templates of a section as they are read. -/
def headerTexts (s : RouteSection) : List (String × String) :=
  s.headerTemplates.entries.map fun e => (Text.lowerAscii e.1, e.2)

/-- Two sections ask for the same, once methods and names of headers are read. -/
@[mk_iff]
structure Overlaps (a b : RouteSection) : Prop where
  template : a.upstreamPathTemplate = b.upstreamPathTemplate
  caseMode : a.caseSensitive = b.caseSensitive
  host : a.upstreamHost.map Text.lowerAscii = b.upstreamHost.map Text.lowerAscii
  headers : a.headerTexts.Perm b.headerTexts
  trigger : a.headerTrigger = b.headerTrigger
  methods : SharesMethod methodName a.upstreamMethods b.upstreamMethods

instance (a b : RouteSection) : Decidable (a.Overlaps b) :=
  decidable_of_iff _ (overlaps_iff a b).symm

/-- Two sections ask for the same, but their header templates or their methods are written differently. -/
def OverlapsUnseen (a b : RouteSection) : Prop :=
  a.Overlaps b ∧ (a.headerTemplates ≠ b.headerTemplates ∨
    ¬SharesMethod Text.upperAscii a.upstreamMethods b.upstreamMethods)

instance (a b : RouteSection) : Decidable (a.OverlapsUnseen b) :=
  inferInstanceAs (Decidable (_ ∧ _))

variable {a b : RouteSection}

/-- Of sections that ask for the same, those that are not reported are the ones written differently. -/
theorem overlapsUnseen_iff_of_unreported (unreported : Configuration.isDuplicate a b = false) :
    a.OverlapsUnseen b ↔ a.Overlaps b := by
  constructor
  · exact And.left
  · intro overlaps
    refine ⟨overlaps, ?_⟩
    by_contra same
    rw [not_or, not_not, not_not] at same
    have template : a.SameTemplate b := by simp [SameTemplate, overlaps.template]
    have reported := Configuration.isDuplicate_eq_true_iff.mpr
      ⟨template, overlaps.host, same.2, same.1⟩
    rw [unreported] at reported
    cases reported

theorem CompilesTo.headerTexts_eq {u : Upstream} (compiled : a.CompilesTo u) :
    u.headerTemplates.map (fun t => (t.name, t.raw)) = a.headerTexts :=
  Upstream.texts_of_compiled compiled.headers

/-- Routes are alike exactly when their sections ask for the same. -/
theorem CompilesTo.alike_iff {u v : Upstream} (first : a.CompilesTo u) (second : b.CompilesTo v) :
    u.Alike v ↔ a.Overlaps b := by
  rw [Upstream.alike_iff, overlaps_iff, UpstreamTemplate.raw_of_compile first.template,
    UpstreamTemplate.raw_of_compile second.template,
    UpstreamTemplate.caseSensitive_of_compile first.template,
    UpstreamTemplate.caseSensitive_of_compile second.template, first.host, second.host,
    first.headerTexts_eq, second.headerTexts_eq, first.trigger, second.trigger,
    Upstream.sharesMethod_iff first.methods second.methods]

end RouteSection

/-- Two lists that are related item by item have the same pairs, if related items do. -/
theorem pairwise_iff_of_forall₂ {α β : Type} {R : α → β → Prop} {P : α → α → Prop} {Q : β → β → Prop}
    {items : List α} {others : List β} (related : List.Forall₂ R items others)
    (agree : ∀ a b c d, R a c → R b d → (P a b ↔ Q c d)) : items.Pairwise P ↔ others.Pairwise Q := by
  induction related with
  | nil => simp
  | @cons a c items others first rest ih =>
    have heads : (∀ b ∈ items, P a b) ↔ ∀ d ∈ others, Q c d := by
      clear ih
      induction rest with
      | nil => simp
      | cons own _ later => rw [List.forall_mem_cons, List.forall_mem_cons, agree _ _ _ _ first own, later]
    rw [List.pairwise_cons, List.pairwise_cons, heads, ih]

namespace RouteTable

/-- In the table of a valid configuration no two routes are alike exactly when no two sections ask for the same
in methods or header templates that are written differently. -/
theorem ofConfiguration_pairwise_not_alike_iff {config : Configuration} {capabilities : Capabilities}
    {t : RouteTable} (valid : config.validate capabilities = .ok ())
    (made : (ofConfiguration config).result = .ok t) :
    t.routes.Pairwise (fun r s => ¬r.upstream.Alike s.upstream) ↔
      config.routes.Pairwise fun a b => ¬a.OverlapsUnseen b := by
  obtain ⟨aggregates, dynamics, catchAll, parts⟩ := result_ofConfiguration_eq_ok.mp made
  have unreported := (Configuration.validate_eq_ok.mp valid).distinct
  have compiled : config.routes.Pairwise (fun a b => ¬a.Overlaps b) ↔
      t.routes.Pairwise fun r s => ¬r.upstream.Alike s.upstream := by
    apply pairwise_iff_of_forall₂ parts.declared
    intro a b r s first second
    rw [RouteSection.CompilesTo.alike_iff (RouteSection.compilesTo_of_assemble first)
      (RouteSection.compilesTo_of_assemble second)]
  rw [← compiled]
  constructor
  · intro apart
    exact apart.imp fun none unseen => none unseen.1
  · intro apart
    refine (unreported.and apart).imp ?_
    rintro a b ⟨unreported, unseen⟩
    rwa [RouteSection.overlapsUnseen_iff_of_unreported unreported] at unseen

/-- A route to `/a` for these methods. -/
def routeFor (methods : List String) : RouteSection :=
  { RouteSection.toOneHost "/a" with upstreamMethods := methods }

/-- Routes of one template that differ in their methods or in whether they look at the tenant. -/
def separateRoutes : Configuration where
  routes :=
    [routeFor ["get", " put"], routeFor ["POST"],
      { routeFor ["GET"] with headerTemplates := .ofList [("X-Tenant", "\x7bt\x7d")] },
      { routeFor ["POST"] with headerTemplates := .ofList [("x-tenant", "\x7bt\x7d")] }]

theorem ofConfiguration_separateRoutes_not_alike :
    ∃ t, (ofConfiguration separateRoutes).result = .ok t ∧
      t.routes.Pairwise fun r s => ¬r.upstream.Alike s.upstream := by
  have valid : separateRoutes.validate {} = .ok () := by decide +kernel
  have compiles : (ofConfiguration separateRoutes).result.isOk = true := by rfl
  obtain ⟨t, made⟩ := exists_of_isOk compiles
  exact ⟨t, made, (ofConfiguration_pairwise_not_alike_iff valid made).mpr (by decide +kernel)⟩

/-- Two routes for the same requests, with a blank after the method of one. -/
def blankedMethod : Configuration where
  routes := [routeFor ["GET"], routeFor ["GET "]]

/-- The blank hides from the check that the routes are alike. -/
theorem ofConfiguration_alike_of_blankedMethod :
    blankedMethod.validate {} = .ok () ∧
      ∃ t, (ofConfiguration blankedMethod).result = .ok t ∧
        ¬t.routes.Pairwise fun r s => ¬r.upstream.Alike s.upstream := by
  have evaluated : (ofConfiguration blankedMethod).result.map (fun t =>
      decide (t.routes.Pairwise fun r s => ¬r.upstream.Alike s.upstream)) = .ok false := by
    decide +kernel
  obtain ⟨t, made, alike⟩ := map_eq_ok.mp evaluated
  exact ⟨by decide +kernel, t, made, of_decide_eq_false alike⟩

end RouteTable

end GatewayRouting
