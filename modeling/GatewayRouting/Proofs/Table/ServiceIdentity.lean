import GatewayRouting.Proofs.Route.Identity
import GatewayRouting.Proofs.Table.Composition

/-!
Which services of a table have one identity key, and with it one circuit: those of one qualified name, or all of
them where the global section gives a key.
-/

set_option autoImplicit false

namespace GatewayRouting

namespace IdentityKey

/-- The front of the service's name, up to a dot, stands at the end of the other's namespace instead. -/
def MovesDot (ns : Option String) (name : String) (otherNs : Option String) (otherName : String) : Prop :=
  ∃ front, name = front ++ "." ++ otherName ∧ given? otherNs = some (qualified ns front)

variable {ns otherNs : Option String} {name otherName : String}

theorem qualified_of_given {space : String} (some : given? ns = some space) (name : String) :
    qualified ns name = space ++ "." ++ name := by
  unfold qualified
  rw [given?] at some
  rw [some]

theorem qualified_of_missing (none : given? ns = none) (name : String) : qualified ns name = name := by
  unfold qualified
  rw [given?] at none
  rw [none]

theorem toList_dotted (a b : String) : (a ++ "." ++ b).toList = a.toList ++ '.' :: b.toList := by
  rw [String.toList_append, String.toList_append, List.append_assoc]
  rfl

theorem eq_dotted_ofList {a b : String} {between : List Char}
    (cut : a.toList = b.toList ++ '.' :: between) : a = b ++ "." ++ String.ofList between := by
  rw [← String.toList_inj, toList_dotted, String.toList_ofList, cut]

theorem dotted_eq_iff {a b c d : String} :
    a ++ "." ++ b = c ++ "." ++ d ↔
      (a = c ∧ b = d) ∨ (∃ between, b = between ++ "." ++ d ∧ c = a ++ "." ++ between) ∨
        ∃ between, d = between ++ "." ++ b ∧ a = c ++ "." ++ between := by
  constructor
  · intro same
    rw [← String.toList_inj, toList_dotted, toList_dotted, Text.append_cons_eq_append_cons_iff] at same
    rcases same with ⟨fronts, rests⟩ | ⟨between, longer, rest⟩ | ⟨between, longer, rest⟩
    · exact Or.inl ⟨String.toList_inj.mp fronts, String.toList_inj.mp rests⟩
    · refine Or.inr (Or.inl ⟨String.ofList between, ?_, eq_dotted_ofList longer⟩)
      rw [← String.toList_inj, toList_dotted, String.toList_ofList, rest]
    · refine Or.inr (Or.inr ⟨String.ofList between, ?_, eq_dotted_ofList longer⟩)
      rw [← String.toList_inj, toList_dotted, String.toList_ofList, rest]
  · rintro (⟨rfl, rfl⟩ | ⟨between, rfl, rfl⟩ | ⟨between, rfl, rfl⟩)
    · rfl
    · simp only [String.append_assoc]
    · simp only [String.append_assoc]

/-- A qualified name stands for several pairs only where a dot moves between namespace and name. -/
theorem qualified_eq_iff :
    qualified ns name = qualified otherNs otherName ↔
      (given? ns = given? otherNs ∧ name = otherName) ∨ MovesDot ns name otherNs otherName ∨
        MovesDot otherNs otherName ns name := by
  unfold MovesDot
  cases first : given? ns with
  | none =>
    rw [qualified_of_missing first]
    simp only [qualified_of_missing first]
    cases second : given? otherNs with
    | none =>
      rw [qualified_of_missing second]
      simp
    | some space =>
      rw [qualified_of_given second]
      simp
  | some space =>
    rw [qualified_of_given first]
    simp only [qualified_of_given first]
    cases second : given? otherNs with
    | none =>
      rw [qualified_of_missing second]
      simp only [qualified_of_missing second]
      simp [eq_comm]
    | some otherSpace =>
      rw [qualified_of_given second, dotted_eq_iff]
      simp only [qualified_of_given second, Option.some.injEq]

theorem MovesDot.dot_mem (moves : MovesDot ns name otherNs otherName) : '.' ∈ name.toList := by
  obtain ⟨front, rfl, _⟩ := moves
  rw [toList_dotted]
  exact List.mem_append_right _ List.mem_cons_self

end IdentityKey

open IdentityKey (given?)

/-- The load balancing key for all routes without one of their own. -/
def GlobalSection.sharedKey? (g : GlobalSection) : Option String := given? (g.loadBalancer.bind (·.key))

namespace DynamicSection

/-- The load balancing key that the section gives. -/
def ownKey? (s : DynamicSection) : Option String := s.loadBalancer.bind (·.key)

/-- Two sections name the same service; a missing namespace and an empty one are alike. -/
def SameService (a b : DynamicSection) : Prop :=
  given? a.serviceNamespace = given? b.serviceNamespace ∧ a.serviceName = b.serviceName

instance (a b : DynamicSection) : Decidable (a.SameService b) := inferInstanceAs (Decidable (_ ∧ _))

/-- Two sections name services of one qualified name, the other with a longer namespace. -/
def MovesDot (a b : DynamicSection) : Prop :=
  IdentityKey.MovesDot a.serviceNamespace a.serviceName b.serviceNamespace b.serviceName

variable {a b : DynamicSection} {global : GlobalSection} {q r : Route}

theorem namedKey?_of_unkeyed (unkeyed : a.ownKey? = none) :
    (a.mergedLoadBalancer global).namedKey? = global.sharedKey? := by
  change given? (a.ownKey? <|> global.loadBalancer.bind (·.key)) = _
  rw [unkeyed]
  rfl

/-- Without a key of its own and without a cookie, a service goes by the global key, else by its name. -/
theorem identityKey_of_unkeyed (unkeyed : a.ownKey? = none)
    (spread : (a.mergedLoadBalancer global).isSticky = false) :
    a.identityKey global =
      global.sharedKey?.getD (IdentityKey.qualified a.serviceNamespace a.serviceName) := by
  have cookieless : IdentityKey.sticky? (a.mergedLoadBalancer global) = none := by
    rw [IdentityKey.sticky?, spread]
    rfl
  rw [identityKey, IdentityKey.ofService, cookieless, namedKey?_of_unkeyed unkeyed]
  cases global.sharedKey? <;> rfl

theorem identityKey_of_assemble (made : (a.assemble global).result = .ok r) :
    r.identityKey = a.identityKey global := by
  obtain ⟨template, _, rfl⟩ := result_assemble_eq_ok.mp made
  rfl

/-- A service's circuit goes by its identity key. -/
theorem circuit_of_assemble (made : (a.assemble global).result = .ok r) :
    ∀ o ∈ r.downstream.qos, o.key = r.identityKey := by
  obtain ⟨template, _, rfl⟩ := result_assemble_eq_ok.mp made
  change ∀ o ∈ QosOptions.merge (a.identityKey global) a.qos global.qos, o.key = a.identityKey global
  intro o on
  unfold QosOptions.merge at on
  dsimp only at on
  split at on
  · cases on
  · cases on
    rfl

end DynamicSection

namespace RouteTable

variable {config : Configuration} {t : RouteTable}

/-- Every dynamic section has its candidate. -/
theorem Composition.exists_candidate {aggregates : List Candidate} {dynamics catchAll : List Route}
    (parts : Composition config t aggregates dynamics catchAll) {s : DynamicSection}
    (listed : s ∈ config.dynamicRoutes) :
    ∃ r, (s.assemble config.global).result = .ok r ∧ r.toCandidate ∈ t.candidates := by
  obtain ⟨r, inside, made⟩ := exists_of_forall₂ parts.dynamic.flip listed
  refine ⟨r, made, ?_⟩
  rw [parts.candidates, List.map_append]
  exact List.mem_append_right _ (List.mem_append_left _ (List.mem_map.mpr ⟨r, inside, rfl⟩))

/-- Two services that give no key of their own and keep no sessions go by the global key, if there is one. If there
is none, only the same service and services between which a dot has moved can have one identity key. The key is
that of the circuit. -/
theorem ofConfiguration_tells_services_apart (made : (ofConfiguration config).result = .ok t) :
    ∀ a ∈ config.dynamicRoutes, ∀ b ∈ config.dynamicRoutes, a.ownKey? = none → b.ownKey? = none →
      (a.mergedLoadBalancer config.global).isSticky = false →
      (b.mergedLoadBalancer config.global).isSticky = false →
      ∃ q r, (a.assemble config.global).result = .ok q ∧ (b.assemble config.global).result = .ok r ∧
        q.toCandidate ∈ t.candidates ∧ r.toCandidate ∈ t.candidates ∧
        (∀ key, config.global.sharedKey? = some key → q.identityKey = key ∧ r.identityKey = key) ∧
        (config.global.sharedKey? = none → q.identityKey = r.identityKey →
          a.SameService b ∨ a.MovesDot b ∨ b.MovesDot a) ∧
        (∀ o ∈ q.downstream.qos, o.key = q.identityKey) ∧ ∀ o ∈ r.downstream.qos, o.key = r.identityKey := by
  obtain ⟨aggregates, dynamics, catchAll, parts⟩ := result_ofConfiguration_eq_ok.mp made
  intro a listed b listedToo unkeyed unkeyedToo spread spreadToo
  obtain ⟨q, first, candidate⟩ := parts.exists_candidate listed
  obtain ⟨r, second, candidateToo⟩ := parts.exists_candidate listedToo
  have key := DynamicSection.identityKey_of_unkeyed unkeyed spread
  have keyToo := DynamicSection.identityKey_of_unkeyed unkeyedToo spreadToo
  rw [← DynamicSection.identityKey_of_assemble first] at key
  rw [← DynamicSection.identityKey_of_assemble second] at keyToo
  refine ⟨q, r, first, second, candidate, candidateToo, ?_, ?_, DynamicSection.circuit_of_assemble first,
    DynamicSection.circuit_of_assemble second⟩
  · intro shared given
    rw [key, keyToo, given]
    exact ⟨rfl, rfl⟩
  · intro none same
    rw [key, keyToo, none] at same
    exact IdentityKey.qualified_eq_iff.mp same

/-- A service with nothing but its names. -/
def service (ns : Option String) (name : String) : DynamicSection where
  serviceName := name
  serviceNamespace := ns

/-- Services of one name in a shop and outside of it, with circuits. -/
def shopServices : Configuration where
  dynamicRoutes := [service (some "shop") "orders", service none "orders"]
  global :=
    { provider := some { type := "consul" }
      qos := some { exceptionsAllowedBeforeBreaking := some 3, timeoutMillis := some 500 } }

theorem ofConfiguration_tells_shopServices_apart :
    ∃ t, (ofConfiguration shopServices).result = .ok t ∧
      ∃ q r : Route, q.toCandidate ∈ t.candidates ∧ r.toCandidate ∈ t.candidates ∧
        q.identityKey ≠ r.identityKey ∧ ∀ o ∈ q.downstream.qos, ∀ p ∈ r.downstream.qos, o.key ≠ p.key := by
  have compiles : (ofConfiguration shopServices).result.isOk = true := by rfl
  obtain ⟨t, made⟩ := exists_of_isOk compiles
  obtain ⟨q, r, _, _, candidate, candidateToo, _, apart, circuit, circuitToo⟩ :=
    ofConfiguration_tells_services_apart made (service (some "shop") "orders") List.mem_cons_self
      (service none "orders") (List.mem_cons_of_mem _ List.mem_cons_self) rfl rfl rfl rfl
  have other : q.identityKey ≠ r.identityKey := by
    intro one
    rcases apart rfl one with same | moves | moves
    · exact absurd same (by decide)
    · exact absurd moves.dot_mem (by decide)
    · exact absurd moves.dot_mem (by decide)
  refine ⟨t, made, q, r, candidate, candidateToo, other, ?_⟩
  intro o on p onToo
  rwa [circuit o on, circuitToo p onToo]

/-- The configuration is accepted and compiled, and two different services of it that give no key of their own and
keep no sessions have one identity key. -/
def SharesKey (config : Configuration) : Prop :=
  config.validate { discoveryProvider := true } = .ok () ∧
    ∃ a ∈ config.dynamicRoutes, ∃ b ∈ config.dynamicRoutes, a.ownKey? = none ∧ b.ownKey? = none ∧
      (a.mergedLoadBalancer config.global).isSticky = false ∧
      (b.mergedLoadBalancer config.global).isSticky = false ∧ ¬a.SameService b ∧
      ∃ t, (ofConfiguration config).result = .ok t ∧
        ∃ q r, (a.assemble config.global).result = .ok q ∧ (b.assemble config.global).result = .ok r ∧
          q.toCandidate ∈ t.candidates ∧ r.toCandidate ∈ t.candidates ∧ q.identityKey = r.identityKey

theorem exists_candidates_of_one_key {a b : DynamicSection}
    (compiles : (ofConfiguration config).result.isOk = true) (listed : a ∈ config.dynamicRoutes)
    (listedToo : b ∈ config.dynamicRoutes) (same : a.identityKey config.global = b.identityKey config.global) :
    ∃ t, (ofConfiguration config).result = .ok t ∧
      ∃ q r, (a.assemble config.global).result = .ok q ∧ (b.assemble config.global).result = .ok r ∧
        q.toCandidate ∈ t.candidates ∧ r.toCandidate ∈ t.candidates ∧ q.identityKey = r.identityKey := by
  obtain ⟨t, made⟩ := exists_of_isOk compiles
  obtain ⟨aggregates, dynamics, catchAll, parts⟩ := result_ofConfiguration_eq_ok.mp made
  obtain ⟨q, first, candidate⟩ := parts.exists_candidate listed
  obtain ⟨r, second, candidateToo⟩ := parts.exists_candidate listedToo
  rw [← DynamicSection.identityKey_of_assemble first,
    ← DynamicSection.identityKey_of_assemble second] at same
  exact ⟨t, made, q, r, first, second, candidate, candidateToo, same⟩

/-- Two services under one global key. -/
def sharedPool : Configuration where
  dynamicRoutes := [service none "orders", service none "users"]
  global := { provider := some { type := "consul" }, loadBalancer := some { key := some "pool" } }

/-- Two services of one qualified name. -/
def movedDot : Configuration where
  dynamicRoutes := [service (some "shop") "orders.eu", service (some "shop.orders") "eu"]
  global := { provider := some { type := "consul" } }

theorem ofConfiguration_services_of_one_key : SharesKey sharedPool ∧ SharesKey movedDot := by
  constructor
  · have first : service none "orders" ∈ sharedPool.dynamicRoutes := List.mem_cons_self
    have second : service none "users" ∈ sharedPool.dynamicRoutes :=
      List.mem_cons_of_mem _ List.mem_cons_self
    exact ⟨by decide +kernel, _, first, _, second, rfl, rfl, rfl, rfl, by decide,
      exists_candidates_of_one_key (by rfl) first second (by decide)⟩
  · have first : service (some "shop") "orders.eu" ∈ movedDot.dynamicRoutes := List.mem_cons_self
    have second : service (some "shop.orders") "eu" ∈ movedDot.dynamicRoutes :=
      List.mem_cons_of_mem _ List.mem_cons_self
    exact ⟨by decide +kernel, _, first, _, second, rfl, rfl, rfl, rfl, by decide,
      exists_candidates_of_one_key (by rfl) first second (by decide)⟩

end RouteTable

end GatewayRouting
