import GatewayRouting.Proofs.Table.Composition

/-!
Global authentication and global address rules reach every route that requests can be led to, unless the
section that the route is made of says otherwise. An aggregate has neither; its constituents have both.
-/

set_option autoImplicit false

namespace GatewayRouting

namespace Origin

open AuthenticationOptions

/-- What a route is protected by, given the section it is made of and the global one. -/
structure Protects (global : GlobalSection) (o : Origin) (d : Downstream) : Prop where
  /-- The only ways to be open to everyone. -/
  open_iff : d.authentication = none ↔
    allowsAnonymous o.authentication global.authentication = true ∨
      (namedKeys o.authentication = [] ∧ namedKeys global.authentication = [])
  keys : ∀ options, d.authentication = some options →
    options.providerKeys =
      if namedKeys o.authentication = [] then namedKeys global.authentication
      else namedKeys o.authentication
  own : ∀ s, o.security = some s → s.ListsSome → d.security = s.options
  inherited : (∀ s, o.security = some s → ¬s.ListsSome) →
    ∀ g, global.security = some g → g.ListsSome → d.security = g.options
  unrestricted : (∀ s, o.security = some s → ¬s.ListsSome) →
    (∀ g, global.security = some g → ¬g.ListsSome) → d.security = {}

theorem protects_of_settles {global : GlobalSection} {o : Origin} {r : Route}
    (settled : o.Settles global r) : o.Protects global r.downstream where
  open_iff := by
    rw [settled.authentication, merge_eq_none_iff, effectiveKeys_eq_nil_iff]
  keys := by
    intro options configured
    rw [settled.authentication] at configured
    exact keys_of_merge configured
  own := by
    intro s ours lists
    rw [settled.security, SecurityOptions.merge_of_own ours lists]
  inherited := by
    intro idle g theirs lists
    rw [settled.security, SecurityOptions.merge_of_global idle theirs lists]
  unrestricted := by
    intro idle globalIdle
    rw [settled.security, SecurityOptions.merge_of_neither idle globalIdle]

end Origin

namespace RouteTable

/-- Every single route that requests can be led to is made of some section, and protected as that section
and the global one say. -/
theorem ofConfiguration_protects_leaves {config : Configuration} {t : RouteTable}
    (made : (ofConfiguration config).result = .ok t) :
    ∀ leaf ∈ t.leaves,
      (∃ o ∈ config.origins, (o.assemble config.global).result = .ok leaf) ∧
        ∀ o ∈ config.origins, (o.assemble config.global).result = .ok leaf →
          o.Protects config.global leaf.downstream := by
  obtain ⟨aggregates, dynamics, catchAll, parts⟩ := result_ofConfiguration_eq_ok.mp made
  intro leaf inside
  refine ⟨parts.origin_of_leaf inside, ?_⟩
  intro o _ assembled
  exact Origin.protects_of_settles (Origin.settles_of_assemble assembled)

/-- A route that only an aggregate leads to and a service, both below global authentication and rules. -/
def protectedConfiguration : Configuration where
  routes :=
    [{ downstreamPathTemplate := "/", downstreamHosts := [.inline ⟨"b", 80⟩]
       upstreamPathTemplate := "/a", key := some "a"
       security := some { allowedList := ["10.0.0.1"] } }]
  aggregates := [{ routeKeys := ["a"], upstreamPathTemplate := "/all" }]
  dynamicRoutes := [{ serviceName := "orders", authentication := some { providerKeys := ["Basic"] } }]
  global :=
    { authentication := some { providerKey := some "Bearer" }
      security := some { blockedList := ["10.0.0.2"] } }

theorem ofConfiguration_protects_absorbed_and_service :
    ∃ t, (ofConfiguration protectedConfiguration).result = .ok t ∧
      ∀ leaf ∈ t.leaves, ∃ o ∈ protectedConfiguration.origins,
        o.Protects protectedConfiguration.global leaf.downstream := by
  have compiles : (ofConfiguration protectedConfiguration).result.isOk = true := by rfl
  obtain ⟨t, made⟩ := exists_of_isOk compiles
  refine ⟨t, made, ?_⟩
  intro leaf inside
  obtain ⟨⟨o, listed, assembled⟩, all⟩ := ofConfiguration_protects_leaves made leaf inside
  exact ⟨o, listed, all o listed assembled⟩

end RouteTable

end GatewayRouting
