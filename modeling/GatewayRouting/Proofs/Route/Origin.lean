import GatewayRouting.Proofs.Config.Valid
import GatewayRouting.Proofs.Options.Merging
import GatewayRouting.Proofs.Route.Made

/-!
The sections that single routes are made of. Whatever its kind, a section settles authentication, circuit
breaking and address rules over the global section in one and the same way.
-/

set_option autoImplicit false

namespace GatewayRouting

/-- A part of a configuration that a single route is made of. -/
inductive Origin where
  | declared (s : RouteSection)
  | dynamic (s : DynamicSection)
  /-- The route to all services; it has no section of its own. -/
  | catchAll

namespace Origin

def assemble (global : GlobalSection) : Origin → Assembly Route
  | declared s => s.assemble global
  | dynamic s => s.assemble global
  | catchAll => CatchAll.assemble global

def authentication : Origin → Option AuthenticationSection
  | declared s => s.authentication
  | dynamic s => s.authentication
  | catchAll => none

def qos : Origin → Option QosSection
  | declared s => s.qos
  | dynamic s => s.qos
  | catchAll => none

def security : Origin → Option SecuritySection
  | declared s => s.security
  | dynamic _ => none
  | catchAll => none

/-- Whether the route is to a service that is looked up. -/
def usesService : Origin → Bool
  | declared s => s.serviceName.isSome
  | dynamic _ => true
  | catchAll => true

/-- What a route of that origin has to be. -/
structure Settles (global : GlobalSection) (o : Origin) (r : Route) : Prop where
  authentication : r.downstream.authentication =
    AuthenticationOptions.merge o.authentication global.authentication
  qos : r.downstream.qos = QosOptions.merge r.identityKey o.qos global.qos
  security : r.downstream.security = (SecurityOptions.merge o.security global.security).value
  service : ∀ scheme name ns, r.target = .service scheme name ns → o.usesService = true

theorem settles_of_assemble {global : GlobalSection} {o : Origin} {r : Route}
    (made : (o.assemble global).result = .ok r) : o.Settles global r := by
  cases o with
  | declared s =>
    obtain ⟨upstream, method, _, rfl⟩ := RouteSection.result_assemble_eq_ok.mp made
    refine ⟨rfl, rfl, rfl, ?_⟩
    intro scheme name ns target
    change s.destination global (s.resolveHosts global).value = _ at target
    unfold RouteSection.destination at target
    cases service : s.serviceName with
    | some _ => simp [usesService, service]
    | none => simp [service] at target
  | dynamic s =>
    obtain ⟨template, _, rfl⟩ := DynamicSection.result_assemble_eq_ok.mp made
    exact ⟨rfl, rfl, rfl, fun _ _ _ _ => rfl⟩
  | catchAll =>
    obtain ⟨template, _, rfl⟩ := CatchAll.result_assemble_eq_ok.mp made
    exact ⟨rfl, rfl, rfl, fun _ _ _ _ => rfl⟩

end Origin

namespace Configuration

/-- Whether there is a route to all services. -/
def HasCatchAll (c : Configuration) : Prop := c.routes = [] ∧ c.global.provider ≠ none

instance (c : Configuration) : Decidable c.HasCatchAll := inferInstanceAs (Decidable (_ ∧ _))

/-- The sections that single routes are made of, in the order in which they are written. -/
def origins (c : Configuration) : List Origin :=
  c.routes.map .declared ++ c.dynamicRoutes.map .dynamic ++ if c.HasCatchAll then [.catchAll] else []

theorem mem_origins {c : Configuration} {o : Origin} :
    o ∈ c.origins ↔ (∃ s ∈ c.routes, o = .declared s) ∨ (∃ s ∈ c.dynamicRoutes, o = .dynamic s) ∨
      (o = .catchAll ∧ c.HasCatchAll) := by
  unfold origins
  rw [List.append_assoc, List.mem_append, List.mem_append, List.mem_map, List.mem_map]
  by_cases last : c.HasCatchAll <;> simp [last, eq_comm]

namespace Valid

variable {c : Configuration} {capabilities : Capabilities} {o : Origin}

/-- The options of every section were checked, and so were the global ones. -/
theorem cover (valid : c.Valid capabilities) (inside : o ∈ c.origins) :
    capabilities.Cover o.authentication o.qos := by
  rcases mem_origins.mp inside with ⟨s, listed, rfl⟩ | ⟨s, listed, rfl⟩ | ⟨rfl, _⟩
  · exact (valid.routes s listed).providers
  · exact (valid.dynamics s listed).providers
  · constructor <;> intro s inside <;> cases inside

theorem discoveryProvider (valid : c.Valid capabilities) (inside : o ∈ c.origins)
    (service : o.usesService = true) : capabilities.discoveryProvider = true := by
  apply valid.provider
  rcases mem_origins.mp inside with ⟨s, listed, rfl⟩ | ⟨s, listed, rfl⟩ | ⟨rfl, _, provided⟩
  · apply (valid.routes s listed).service
    exact Option.isSome_iff_ne_none.mp service
  · exact (valid.dynamics s listed).discovery
  · exact Option.isSome_iff_ne_none.mpr provided

end Valid

end Configuration

end GatewayRouting
