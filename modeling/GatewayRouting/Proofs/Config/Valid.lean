import GatewayRouting.Config.Validate
import GatewayRouting.Proofs.Except
import Mathlib.Data.List.Nodup

/-!
What it means for a configuration to be valid, section by section, and that the checks accept exactly the
valid ones.
-/

set_option autoImplicit false

namespace GatewayRouting

open GatewayRouting.Configuration

/-- The providers that the options of a section rely on are there. -/
structure Capabilities.Cover (capabilities : Capabilities)
    (authentication : Option AuthenticationSection) (qos : Option QosSection) : Prop where
  schemes : ∀ s ∈ authentication, ∀ scheme ∈ s.schemes, scheme ∈ capabilities.authenticationSchemes
  qos : ∀ s ∈ qos, wantsQos s = true → capabilities.qosProvider = true

structure RouteSection.Valid (discovery : Bool) (capabilities : Capabilities) (r : RouteSection) :
    Prop where
  upstream : startsWithSlash r.upstreamPathTemplate = true
  downstream : startsWithSlash r.downstreamPathTemplate = true
  service : r.serviceName ≠ none → discovery = true
  hosts : r.serviceName = none → r.downstreamHosts ≠ []
  providers : capabilities.Cover r.authentication r.qos

structure DynamicSection.Valid (discovery : Bool) (capabilities : Capabilities) (d : DynamicSection) :
    Prop where
  service : d.serviceName ≠ ""
  discovery : discovery = true
  providers : capabilities.Cover d.authentication d.qos

structure AggregateSection.Valid (keys : List String) (a : AggregateSection) : Prop where
  upstream : startsWithSlash a.upstreamPathTemplate = true
  some : a.routeKeys ≠ []
  known : ∀ key ∈ a.routeKeys, key ∈ keys

namespace Configuration

def keys (c : Configuration) : List String := c.routes.filterMap (·.key)

structure Valid (c : Configuration) (capabilities : Capabilities) : Prop where
  baseUrl : checkBaseUrl c.global.baseUrl = .ok ()
  provider : c.global.provider.isSome = true → capabilities.discoveryProvider = true
  global : capabilities.Cover c.global.authentication c.global.qos
  routes : ∀ r ∈ c.routes, r.Valid c.global.provider.isSome capabilities
  keys : c.keys.Nodup
  distinct : c.routes.Pairwise fun a b => isDuplicate a b = false
  dynamics : ∀ d ∈ c.dynamicRoutes, d.Valid c.global.provider.isSome capabilities
  aggregates : ∀ a ∈ c.aggregates, a.Valid c.keys

theorem require_eq_ok {condition : Bool} {error : ValidationError} :
    require condition error = .ok () ↔ condition = true := by
  cases condition <;> simp [require]

theorem each_eq_ok {α : Type} {check : α → Check} {items : List α} :
    each check items = .ok () ↔ ∀ a ∈ items, check a = .ok () := by
  induction items with
  | nil => simp [each]
  | cons a rest ih => rw [each, andThen_eq_ok, ih, List.forall_mem_cons]

theorem checkProviders_eq_ok {owner : String} {capabilities : Capabilities}
    {authentication : Option AuthenticationSection} {qos : Option QosSection} :
    checkProviders owner capabilities authentication qos = .ok () ↔
      capabilities.Cover authentication qos := by
  simp only [checkProviders, checkAuthentication, checkQos, andThen_eq_ok, each_eq_ok, require_eq_ok,
    Option.mem_toList, List.contains_eq_mem, decide_eq_true_eq, Bool.or_eq_true, Bool.not_eq_true']
  constructor
  · rintro ⟨schemes, covered⟩
    exact ⟨schemes, fun s chosen wants => (covered s chosen).resolve_left (by simp [wants])⟩
  · rintro ⟨schemes, covered⟩
    refine ⟨schemes, fun s chosen => ?_⟩
    cases wants : wantsQos s with
    | false => exact Or.inl rfl
    | true => exact Or.inr (covered s chosen wants)

theorem checkRoute_eq_ok {discovery : Bool} {capabilities : Capabilities} {seen : List String}
    {index : Nat} {r : RouteSection} :
    checkRoute discovery capabilities seen index r = .ok () ↔
      r.Valid discovery capabilities ∧ ∀ key ∈ r.key, key ∉ seen := by
  unfold checkRoute
  cases service : r.serviceName with
  | some name =>
    simp only [andThen_eq_ok, require_eq_ok, each_eq_ok, checkProviders_eq_ok, Option.mem_toList,
      Bool.not_eq_true', List.contains_eq_mem, decide_eq_false_iff_not]
    constructor
    · rintro ⟨upstream, downstream, fresh, registered, providers⟩
      exact ⟨⟨upstream, downstream, fun _ => registered, by simp [service], providers⟩, fresh⟩
    · rintro ⟨valid, fresh⟩
      exact ⟨valid.upstream, valid.downstream, fresh, valid.service (by simp [service]), valid.providers⟩
  | none =>
    simp only [andThen_eq_ok, require_eq_ok, each_eq_ok, checkProviders_eq_ok, Option.mem_toList,
      Bool.not_eq_true', List.contains_eq_mem, decide_eq_false_iff_not, List.isEmpty_eq_false_iff]
    constructor
    · rintro ⟨upstream, downstream, fresh, hosts, providers⟩
      exact ⟨⟨upstream, downstream, fun named => absurd service named, fun _ => hosts, providers⟩, fresh⟩
    · rintro ⟨valid, fresh⟩
      exact ⟨valid.upstream, valid.downstream, fresh, valid.hosts service, valid.providers⟩

/-- One more key, if there is one, before keys that are new and all different. -/
theorem fresh_append_iff {key : Option String} {seen later : List String} :
    ((∀ k ∈ key, k ∉ seen) ∧ (∀ k ∈ later, k ∉ seen ++ key.toList) ∧ later.Nodup) ↔
      (∀ k ∈ key.toList ++ later, k ∉ seen) ∧ (key.toList ++ later).Nodup := by
  cases key with
  | none => simp
  | some first =>
    simp only [Option.mem_some_iff, forall_eq', Option.toList_some, List.singleton_append,
      List.forall_mem_cons, List.nodup_cons, List.mem_append, List.mem_singleton, not_or]
    constructor
    · rintro ⟨fresh, others, distinct⟩
      exact ⟨⟨fresh, fun k inside => (others k inside).1⟩,
        fun repeated => (others first repeated).2 rfl, distinct⟩
    · rintro ⟨⟨fresh, others⟩, once, distinct⟩
      exact ⟨fresh, fun k inside => ⟨others k inside, fun same => once (same ▸ inside)⟩, distinct⟩

/-- The keys after those seen are new, and no two of them are the same. -/
theorem checkRoutes_eq_ok {discovery : Bool} {capabilities : Capabilities} {seen : List String}
    {index : Nat} {routes : List RouteSection} :
    checkRoutes discovery capabilities seen index routes = .ok () ↔
      (∀ r ∈ routes, r.Valid discovery capabilities) ∧
        (∀ key ∈ routes.filterMap (·.key), key ∉ seen) ∧ (routes.filterMap (·.key)).Nodup := by
  -- The keys seen grow on the way, so the induction is over all of them.
  induction routes generalizing seen index with
  | nil => simp [checkRoutes]
  | cons r rest ih =>
    have keys : (r :: rest).filterMap (·.key) = r.key.toList ++ rest.filterMap (·.key) := by
      cases key : r.key <;> simp [key]
    rw [checkRoutes, andThen_eq_ok, checkRoute_eq_ok, ih, List.forall_mem_cons, keys,
      ← fresh_append_iff]
    constructor
    · rintro ⟨⟨first, fresh⟩, others, distinct⟩
      exact ⟨⟨first, others⟩, fresh, distinct⟩
    · rintro ⟨⟨first, others⟩, fresh, distinct⟩
      exact ⟨⟨first, fresh⟩, others, distinct⟩

theorem checkDuplicates_eq_ok {routes : List RouteSection} :
    checkDuplicates routes = .ok () ↔ routes.Pairwise fun a b => isDuplicate a b = false := by
  induction routes with
  | nil => simp [checkDuplicates]
  | cons a rest ih =>
    rw [checkDuplicates, andThen_eq_ok, require_eq_ok, ih, List.pairwise_cons, Bool.not_eq_true',
      List.any_eq_false]
    simp only [Bool.not_eq_true]

theorem checkDynamic_eq_ok {discovery : Bool} {capabilities : Capabilities} {d : DynamicSection} :
    checkDynamic discovery capabilities d = .ok () ↔ d.Valid discovery capabilities := by
  simp only [checkDynamic, andThen_eq_ok, require_eq_ok, checkProviders_eq_ok, bne_iff_ne]
  constructor
  · rintro ⟨service, registered, providers⟩
    exact ⟨service, registered, providers⟩
  · rintro ⟨service, registered, providers⟩
    exact ⟨service, registered, providers⟩

theorem checkAggregate_eq_ok {keys : List String} {a : AggregateSection} :
    checkAggregate keys a = .ok () ↔ a.Valid keys := by
  simp only [checkAggregate, andThen_eq_ok, require_eq_ok, each_eq_ok, List.contains_eq_mem,
    decide_eq_true_eq, Bool.not_eq_true', List.isEmpty_eq_false_iff]
  constructor
  · rintro ⟨upstream, some, known⟩
    exact ⟨upstream, some, known⟩
  · rintro ⟨upstream, some, known⟩
    exact ⟨upstream, some, known⟩

/-- The checks accept exactly the valid configurations. -/
theorem validate_eq_ok {c : Configuration} {capabilities : Capabilities} :
    c.validate capabilities = .ok () ↔ c.Valid capabilities := by
  have provider : (!c.global.provider.isSome || capabilities.discoveryProvider) = true ↔
      (c.global.provider.isSome = true → capabilities.discoveryProvider = true) := by
    cases c.global.provider.isSome <;> simp
  unfold validate
  simp only [andThen_eq_ok, require_eq_ok, each_eq_ok, checkProviders_eq_ok, checkRoutes_eq_ok,
    checkDuplicates_eq_ok, checkDynamic_eq_ok, checkAggregate_eq_ok, provider]
  constructor
  · rintro ⟨baseUrl, provider, global, ⟨routes, _, keys⟩, distinct, dynamics, aggregates⟩
    exact ⟨baseUrl, provider, global, routes, keys, distinct, dynamics, aggregates⟩
  · rintro ⟨baseUrl, provider, global, routes, keys, distinct, dynamics, aggregates⟩
    exact ⟨baseUrl, provider, global, ⟨routes, by simp, keys⟩, distinct, dynamics, aggregates⟩

end Configuration

end GatewayRouting
