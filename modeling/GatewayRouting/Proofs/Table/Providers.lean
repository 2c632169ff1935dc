import GatewayRouting.Proofs.Table.Composition

/-!
The checks look at sections one by one, and routes are made from two of them at once. No mix of two
sections that pass asks for a provider that is not registered.
-/

set_option autoImplicit false

namespace GatewayRouting

namespace Capabilities.Cover

variable {capabilities : Capabilities} {authentication : Option AuthenticationSection}
  {qos : Option QosSection}

theorem named (covered : capabilities.Cover authentication qos) {key : String}
    (inside : key ∈ AuthenticationOptions.namedKeys authentication) :
    key ∈ capabilities.authenticationSchemes := by
  cases authentication with
  | none => cases inside
  | some s => exact covered.schemes s rfl key inside

theorem unwanted (covered : capabilities.Cover authentication qos)
    (missing : capabilities.qosProvider = false) : ∀ s ∈ qos, Configuration.wantsQos s = false := by
  intro s inside
  rw [← Bool.not_eq_true]
  intro wants
  have registered := covered.qos s inside wants
  rw [missing] at registered
  cases registered

end Capabilities.Cover

section Merged

variable {capabilities : Capabilities} {authentication globalAuthentication : Option AuthenticationSection}
  {qos globalQos : Option QosSection}

theorem AuthenticationOptions.merge_registered (own : capabilities.Cover authentication qos)
    (global : capabilities.Cover globalAuthentication globalQos) {options : AuthenticationOptions}
    (merged : merge authentication globalAuthentication = some options) :
    ∀ key ∈ options.providerKeys, key ∈ capabilities.authenticationSchemes := by
  intro key inside
  rw [keys_of_merge merged, effectiveKeys] at inside
  split at inside
  · exact global.named inside
  · exact own.named inside

theorem QosOptions.merge_eq_none_of_cover (own : capabilities.Cover authentication qos)
    (global : capabilities.Cover globalAuthentication globalQos)
    (missing : capabilities.qosProvider = false) (key : String) : merge key qos globalQos = none :=
  merge_eq_none key (own.unwanted missing) (global.unwanted missing)

end Merged

/-- What the route relies on is registered. -/
structure RouteTo.Supported (capabilities : Capabilities) (c : Candidate) : Prop where
  qos : capabilities.qosProvider = false → c.downstream.qos = none
  schemes : ∀ options, c.downstream.authentication = some options →
    ∀ key ∈ options.providerKeys, key ∈ capabilities.authenticationSchemes
  discovery : capabilities.discoveryProvider = false →
    ∀ scheme name ns, c.target ≠ .single (.service scheme name ns)

/-- An aggregate relies on nothing by itself. -/
theorem RouteTo.supported_of_aggregate {c : Candidate} (capabilities : Capabilities)
    (plain : c.downstream = {}) {constituents : List Route} {aggregator : Option String}
    (target : c.target = .aggregate constituents aggregator) : c.Supported capabilities := by
  constructor
  · intro _
    rw [plain]
  · intro options configured
    rw [plain] at configured
    cases configured
  · intro _ scheme name ns single
    rw [target] at single
    cases single

/-- One argument for all kinds of sections: each settles its options in the same way. -/
theorem Origin.supported_of_settles {config : Configuration} {capabilities : Capabilities}
    (valid : config.Valid capabilities) {o : Origin} (listed : o ∈ config.origins) {r : Route}
    (settled : o.Settles config.global r) : r.toCandidate.Supported capabilities := by
  have own := valid.cover listed
  constructor
  · intro missing
    exact settled.qos.trans (QosOptions.merge_eq_none_of_cover own valid.global missing r.identityKey)
  · intro options configured
    exact AuthenticationOptions.merge_registered own valid.global (settled.authentication.symm.trans configured)
  · intro missing scheme name ns single
    have service := settled.service scheme name ns (Target.single.inj single)
    rw [valid.discoveryProvider listed service] at missing
    cases missing

namespace RouteTable

/-- A configuration that passes the checks leads to no route, be it declared, absorbed, aggregated or looked
up, that relies on a provider that is not registered. -/
theorem ofConfiguration_supported {config : Configuration} {capabilities : Capabilities}
    {t : RouteTable} (valid : config.validate capabilities = .ok ())
    (made : (ofConfiguration config).result = .ok t) :
    ∀ c ∈ t.everyRoute, c.Supported capabilities := by
  obtain ⟨aggregates, dynamics, catchAll, parts⟩ := result_ofConfiguration_eq_ok.mp made
  intro c inside
  rcases parts.everyRoute_cases inside with ⟨plain, _, _, target⟩ | ⟨r, rfl, o, listed, assembled⟩
  · exact RouteTo.supported_of_aggregate capabilities plain target
  · exact Origin.supported_of_settles (Configuration.validate_eq_ok.mp valid) listed
      (Origin.settles_of_assemble assembled)

/-- One scheme is registered, and nothing else. The route has options for a breaker, but asks for none. -/
def schemeConfiguration : Configuration where
  routes :=
    [{ downstreamPathTemplate := "/", downstreamHosts := [.inline ⟨"b", 80⟩]
       upstreamPathTemplate := "/a", key := some "a"
       qos := some { durationOfBreakMillis := some 10 } }]
  aggregates := [{ routeKeys := ["a"], upstreamPathTemplate := "/all" }]
  global := { authentication := some { providerKey := some "Bearer" } }

theorem ofConfiguration_supported_by_scheme :
    ∃ t, schemeConfiguration.validate { authenticationSchemes := ["Bearer"] } = .ok () ∧
      (ofConfiguration schemeConfiguration).result = .ok t ∧
      ∀ c ∈ t.everyRoute, c.Supported { authenticationSchemes := ["Bearer"] } := by
  have valid : schemeConfiguration.validate { authenticationSchemes := ["Bearer"] } = .ok () := by rfl
  have compiles : (ofConfiguration schemeConfiguration).result.isOk = true := by rfl
  obtain ⟨t, made⟩ := exists_of_isOk compiles
  exact ⟨t, valid, made, ofConfiguration_supported valid made⟩

end RouteTable

end GatewayRouting
