import GatewayRouting.Proofs.Table.Composition

/-!
The scheme that a service is called with: the route's own, else the global one, else the provider's. Declared
routes that name a service leave the provider out.
-/

set_option autoImplicit false

namespace GatewayRouting

namespace GlobalSection

/-- The scheme of the provider of services. -/
def providerScheme (g : GlobalSection) : Option String := g.provider.bind (·.scheme)

/-- The scheme of a service: the first one given by the route, the global section and the provider. -/
def chainScheme (g : GlobalSection) (own : Option String) : String :=
  match own, g.downstreamScheme, g.providerScheme with
  | some scheme, _, _ => scheme
  | none, some scheme, _ => scheme
  | none, none, some scheme => scheme
  | none, none, none => "http"

/-- Nobody but the provider gives a scheme, and it is not the usual one. -/
structure LeavesSchemeToProvider (g : GlobalSection) (own : Option String) : Prop where
  unset : own = none
  globalUnset : g.downstreamScheme = none
  given : ∃ scheme ≠ "http", g.providerScheme = some scheme

variable {g : GlobalSection} {own : Option String}

/-- The chain for services ends with the one for hosts, which changes nothing. -/
theorem serviceScheme_eq_chainScheme : serviceScheme own g = g.chainScheme own := by
  unfold serviceScheme settledScheme chainScheme providerScheme
  cases own <;> cases g.downstreamScheme <;> cases g.provider.bind (·.scheme) <;> rfl

theorem settledScheme_eq_chainScheme_iff :
    settledScheme own g = g.chainScheme own ↔ ¬g.LeavesSchemeToProvider own := by
  constructor
  · rintro same ⟨rfl, globalUnset, scheme, other, given⟩
    have passed : "http" = scheme := by simpa [settledScheme, chainScheme, globalUnset, given] using same
    exact other passed.symm
  · intro kept
    cases own with
    | some scheme => simp [settledScheme, chainScheme]
    | none =>
      cases globally : g.downstreamScheme with
      | some scheme => simp [settledScheme, chainScheme, globally]
      | none =>
        cases given : g.providerScheme with
        | none => simp [settledScheme, chainScheme, globally, given]
        | some scheme =>
          have usual : scheme = "http" := by
            by_contra other
            exact kept ⟨rfl, globally, scheme, other, given⟩
          simp [settledScheme, chainScheme, globally, given, usual]

end GlobalSection

namespace Origin

/-- The scheme that the section gives. -/
def ownScheme : Origin → Option String
  | declared s => s.downstreamScheme
  | dynamic s => s.downstreamScheme
  | catchAll => none

/-- A declared route does without the scheme that only the provider gives. -/
def PassesOverProvider (global : GlobalSection) : Origin → Prop
  | declared s => global.LeavesSchemeToProvider s.downstreamScheme
  | dynamic _ | catchAll => False

/-- A service is called with the scheme of the chain unless the provider is passed over. -/
theorem scheme_eq_chainScheme_iff {global : GlobalSection} {o : Origin} {r : Route}
    (made : (o.assemble global).result = .ok r) {scheme name : String} {ns : Option String}
    (target : r.target = .service scheme name ns) :
    scheme = global.chainScheme o.ownScheme ↔ ¬o.PassesOverProvider global := by
  cases o with
  | declared s =>
    obtain ⟨upstream, method, _, rfl⟩ := RouteSection.result_assemble_eq_ok.mp made
    change s.destination global (s.resolveHosts global).value = _ at target
    unfold RouteSection.destination at target
    cases service : s.serviceName with
    | none => simp [service] at target
    | some _ =>
      rw [service] at target
      cases target
      exact GlobalSection.settledScheme_eq_chainScheme_iff
  | dynamic s =>
    obtain ⟨template, _, rfl⟩ := DynamicSection.result_assemble_eq_ok.mp made
    cases target
    exact ⟨fun _ => not_false, fun _ => GlobalSection.serviceScheme_eq_chainScheme⟩
  | catchAll =>
    obtain ⟨template, _, rfl⟩ := CatchAll.result_assemble_eq_ok.mp made
    cases target
    exact ⟨fun _ => not_false, fun _ => GlobalSection.serviceScheme_eq_chainScheme⟩

end Origin

namespace RouteTable

/-- Every route to a service is made of some section. It calls the service with the first scheme that is given
by this section, the global one and the provider, unless it is declared and only the provider gives one. -/
theorem ofConfiguration_schemes {config : Configuration} {t : RouteTable}
    (made : (ofConfiguration config).result = .ok t) :
    ∀ c ∈ t.everyRoute, ∀ scheme name ns, c.target = .single (.service scheme name ns) →
      (∃ o ∈ config.origins, ∃ r, (o.assemble config.global).result = .ok r ∧ c = r.toCandidate) ∧
        ∀ o ∈ config.origins, ∀ r, (o.assemble config.global).result = .ok r → c = r.toCandidate →
          (scheme = config.global.chainScheme o.ownScheme ↔ ¬o.PassesOverProvider config.global) := by
  obtain ⟨aggregates, dynamics, catchAll, parts⟩ := result_ofConfiguration_eq_ok.mp made
  intro c inside scheme name ns target
  constructor
  · rcases parts.everyRoute_cases inside with ⟨_, _, _, several⟩ | ⟨r, same, o, listed, assembled⟩
    · rw [several] at target
      cases target
    · exact ⟨o, listed, r, assembled, same⟩
  · rintro o _ r assembled rfl
    exact Origin.scheme_eq_chainScheme_iff assembled (Target.single.inj target)

/-- A declared route with a scheme of its own, and a service without. -/
def tlsProvider : Configuration where
  routes :=
    [{ downstreamPathTemplate := "/", upstreamPathTemplate := "/a", serviceName := some "stock"
       downstreamScheme := some "ws" }]
  dynamicRoutes := [{ serviceName := "orders" }]
  global := { provider := some { type := "consul", scheme := some "https" } }

theorem ofConfiguration_tlsProvider_schemes :
    ∃ t, (ofConfiguration tlsProvider).result = .ok t ∧
      ∀ c ∈ t.everyRoute, ∀ scheme name ns, c.target = .single (.service scheme name ns) →
        ∃ o ∈ tlsProvider.origins, scheme = tlsProvider.global.chainScheme o.ownScheme := by
  have compiles : (ofConfiguration tlsProvider).result.isOk = true := by rfl
  obtain ⟨t, made⟩ := exists_of_isOk compiles
  refine ⟨t, made, ?_⟩
  intro c inside scheme name ns target
  obtain ⟨⟨o, listed, r, assembled, same⟩, chain⟩ :=
    ofConfiguration_schemes made c inside scheme name ns target
  refine ⟨o, listed, (chain o listed r assembled same).mpr ?_⟩
  intro passed
  rcases Configuration.mem_origins.mp listed with ⟨s, own, rfl⟩ | ⟨s, _, rfl⟩ | ⟨rfl, _⟩
  · rw [List.mem_singleton.mp own] at passed
    cases passed.unset
  · exact passed
  · exact passed

/-- A declared route to a service, whose provider asks for `https`. -/
def declaredService : Configuration where
  routes :=
    [{ downstreamPathTemplate := "/a", upstreamPathTemplate := "/a", serviceName := some "orders" }]
  global := { provider := some { type := "consul", scheme := some "https" } }

/-- The service is called without TLS. -/
theorem ofConfiguration_declaredService_scheme :
    declaredService.validate { discoveryProvider := true } = .ok () ∧
      ∃ t, (ofConfiguration declaredService).result = .ok t ∧
        ∃ c ∈ t.everyRoute, c.target = .single (.service "http" "orders" none) ∧
          ∀ o ∈ declaredService.origins, declaredService.global.chainScheme o.ownScheme = "https" := by
  have evaluated : (ofConfiguration declaredService).result.map (fun t =>
      t.everyRoute.map (·.target)) =
        .ok [.single (.service "http" "orders" none), .single (.service "http" "orders" none)] := by
    rfl
  obtain ⟨t, made, targets⟩ := map_eq_ok.mp evaluated
  refine ⟨by decide +kernel, t, made, ?_⟩
  have listed : Target.single (.service "http" "orders" none) ∈ t.everyRoute.map (·.target) := by
    rw [targets]
    exact List.mem_cons_self
  obtain ⟨c, inside, target⟩ := List.mem_map.mp listed
  refine ⟨c, inside, target, ?_⟩
  intro o origin
  rcases Configuration.mem_origins.mp origin with ⟨s, own, rfl⟩ | ⟨s, own, rfl⟩ | ⟨rfl, has⟩
  · rw [List.mem_singleton.mp own]
    rfl
  · exact absurd own List.not_mem_nil
  · cases has.1

end RouteTable

end GatewayRouting
