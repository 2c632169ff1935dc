import GatewayRouting.Config.Load
import GatewayRouting.Proofs.Config.ReadBack
import GatewayRouting.Proofs.Document.Json.Values

/-!
Configurations written as JSON documents and read again. A document holds every section as it is, five levels deep
at most.
-/

set_option autoImplicit false

namespace GatewayRouting

namespace Json

variable {d : Nat}

/-! What the fields of a section are written as. -/

@[simp]
theorem fits_option {α : Type} {write : α → Value} {o : Option α} (each : ∀ a ∈ o, Fits d (write a)) :
    Fits d (Encode.option write o) := by
  cases o with
  | none => exact .null
  | some a => exact each a rfl

@[simp]
theorem fits_list {α : Type} {write : α → Value} {items : List α} (each : ∀ a ∈ items, Fits d (write a)) :
    Fits (d + 1) (Encode.list write items) :=
  .list (List.forall_mem_map.mpr each)

@[simp]
theorem fits_dictionary {α : Type} {write : α → Value} {t : Dictionary α}
    (each : ∀ e ∈ t.entries, Fits d (write e.2)) : Fits (d + 1) (Encode.dictionary write t) :=
  .named (List.forall_mem_map.mpr each)

@[simp] theorem fits_text (s : String) : Fits d (Encode.text s) := .text s
@[simp] theorem fits_bool (b : Bool) : Fits d (Encode.bool b) := .bool b
@[simp] theorem fits_word16 (n : UInt16) : Fits d (Encode.word16 n) := .int (n.toNat_lt.trans (by decide))
@[simp] theorem fits_word32 (n : UInt32) : Fits d (Encode.word32 n) := .int (n.toNat_lt.trans (by decide))
@[simp] theorem fits_word64 (n : UInt64) : Fits d (Encode.word64 n) := .int n.toNat_lt
@[simp] theorem fits_period (p : Period) : Fits d (Encode.period p) := .text p.toText
@[simp] theorem fits_headerTrigger (t : HeaderTrigger) : Fits d (Encode.headerTrigger t) := .text t.name
@[simp] theorem fits_versionPolicy (p : VersionPolicy) : Fits d (Encode.versionPolicy p) := .text p.name
@[simp] theorem fits_loadBalancerType (t : LoadBalancerType) : Fits d (Encode.loadBalancerType t) := .text t.name

attribute [simp] Fits.bool

/-! Sections, with the levels that each of them takes. -/

@[simp]
theorem fits_hostAndPort (s : HostAndPort) : Fits (d + 1) (Encode.hostAndPort s) := .named (by simp)

@[simp]
theorem fits_hostReference (r : HostReference) : Fits (d + 1) (Encode.hostReference r) := by
  cases r with
  | inline address => exact fits_hostAndPort address
  | named name => exact .text name

@[simp]
theorem fits_authentication (s : AuthenticationSection) : Fits (d + 2) (Encode.authentication s) := .named (by simp)

@[simp]
theorem fits_cache (s : CacheSection) : Fits (d + 1) (Encode.cache s) := .named (by simp)

@[simp]
theorem fits_loadBalancer (s : LoadBalancerSection) : Fits (d + 1) (Encode.loadBalancer s) := .named (by simp)

@[simp]
theorem fits_httpHandler (s : HttpHandlerSection) : Fits (d + 1) (Encode.httpHandler s) := .named (by simp)

@[simp]
theorem fits_security (s : SecuritySection) : Fits (d + 2) (Encode.security s) := .named (by simp)

@[simp]
theorem fits_provider (s : ProviderSection) : Fits (d + 1) (Encode.provider s) := .named (by simp)

@[simp]
theorem fits_aggregate (s : AggregateSection) : Fits (d + 2) (Encode.aggregate s) := .named (by simp)

/-! Sections that hold doubles, as the options they are. -/

theorem fits_double {o : Option Binary64} (exact : ∀ x ∈ o, IsExact x) : Fits d (Encode.option Encode.double o) :=
  fits_option fun x given => .float (exact x given)

theorem fits_rateLimit {o : Option RateLimitSection} (exact : ∀ s ∈ o, ∀ x ∈ s.periodTimespan, IsExact x) :
    Fits (d + 2) (Encode.option Encode.rateLimit o) :=
  fits_option fun s given => .named (by simp [fits_double (exact s given)])

theorem fits_qos {o : Option QosSection} (exact : ∀ s ∈ o, ∀ x ∈ s.failureRatio, IsExact x) :
    Fits (d + 1) (Encode.option Encode.qos o) :=
  fits_option fun s given => .named (by simp [fits_double (exact s given)])

theorem fits_route {s : RouteSection} (timespans : ∀ r ∈ s.rateLimit, ∀ x ∈ r.periodTimespan, IsExact x)
    (ratios : ∀ q ∈ s.qos, ∀ x ∈ q.failureRatio, IsExact x) : Fits (d + 3) (Encode.route s) :=
  .named (by simp [fits_rateLimit timespans, fits_qos ratios])

theorem fits_dynamic {s : DynamicSection} (timespans : ∀ r ∈ s.rateLimit, ∀ x ∈ r.periodTimespan, IsExact x)
    (ratios : ∀ q ∈ s.qos, ∀ x ∈ q.failureRatio, IsExact x) : Fits (d + 3) (Encode.dynamic s) :=
  .named (by simp [fits_rateLimit timespans, fits_qos ratios])

theorem fits_global {s : GlobalSection} (timespans : ∀ r ∈ s.rateLimit, ∀ x ∈ r.periodTimespan, IsExact x)
    (ratios : ∀ q ∈ s.qos, ∀ x ∈ q.failureRatio, IsExact x) : Fits (d + 3) (Encode.global s) :=
  .named (by simp [fits_rateLimit timespans, fits_qos ratios])

theorem fits_configuration {c : Configuration} (exact : ∀ x ∈ c.doubles, IsExact x) :
    Fits (d + 5) (Encode.configuration c) := by
  obtain ⟨ofLimits, ofSections⟩ := List.forall_mem_append.mp exact
  have timespans : ∀ r ∈ c.rateLimits, ∀ x ∈ r.periodTimespan, IsExact x := fun r listed x given =>
    ofLimits x (List.mem_filterMap.mpr ⟨r, listed, given⟩)
  have ratios : ∀ q ∈ c.qosSections, ∀ x ∈ q.failureRatio, IsExact x := fun q listed x given =>
    ofSections x (List.mem_filterMap.mpr ⟨q, listed, given⟩)
  obtain ⟨routeTimespans, dynamicTimespans, globalTimespans⟩ := Configuration.forall_mem_everywhere.mp timespans
  obtain ⟨routeRatios, dynamicRatios, globalRatios⟩ := Configuration.forall_mem_everywhere.mp ratios
  have routes : Fits (d + 4) (Encode.list Encode.route c.routes) :=
    fits_list fun s listed => fits_route (routeTimespans s listed) (routeRatios s listed)
  have dynamicRoutes : Fits (d + 4) (Encode.list Encode.dynamic c.dynamicRoutes) :=
    fits_list fun s listed => fits_dynamic (dynamicTimespans s listed) (dynamicRatios s listed)
  have global : Fits (d + 4) (Encode.global c.global) := fits_global globalTimespans globalRatios
  exact .named (by simp [routes, dynamicRoutes, global])

end Json

namespace Configuration

/-- A configuration whose periods are at most `2 ^ 53` milliseconds is read back from the document values that it is
written as. If its doubles are exact in JSON, it is read back from the JSON text as well. -/
theorem parse_written (c : Configuration) (short : ∀ p ∈ c.periods, p.millis ≤ 2 ^ 53) :
    Decode.configuration (Encode.configuration c) = some c ∧
      ((∀ x ∈ c.doubles, Json.IsExact x) → parse .json (Json.write (Encode.configuration c)) = .ok c) := by
  have back := (ReadsBack.configuration short).read_write
  refine ⟨back, ?_⟩
  intro exact
  have document : Json.read (Json.write (Encode.configuration c)) = some (Encode.configuration c) :=
    Json.read_write (Json.fits_configuration (d := 0) exact) (by decide)
  rw [parse, DocumentFormat.read, document, Option.bind_some, back]

/-- A configuration with an option of every kind. -/
def varied : Configuration where
  routes := [{
    downstreamPathTemplate := "/orders/\x7bid\x7d"
    downstreamHosts := [.inline ⟨"10.0.0.1", 8080⟩, .named "orders"]
    downstreamVersionPolicy := some .orHigher
    upstreamPathTemplate := "/api/orders/\x7bid\x7d"
    upstreamMethods := ["GET", "POST"]
    headerTemplates := Dictionary.ofList [("X-Tenant", "\x7btenant\x7d"), ("Accept", "text/\"plain\"")]
    headerTrigger := .any
    loadBalancer := some { type := some .roundRobin }
    rateLimit := some { period := some (.ofSeconds 5400), periodTimespan := some (.ofRatio false 3 2) }
    qos := some { timeoutMillis := some 18446744073709551615, failureRatio := some (.ofNat 1) } }]
  aggregates := [{ routeKeys := ["orders", "users"], upstreamPathTemplate := "/overview" }]
  global := { hosts := Dictionary.ofList [("orders", ⟨"orders.internal", 443⟩)] }

theorem parse_written_varied :
    (∀ p ∈ varied.periods, p.millis ≤ 2 ^ 53) ∧ (∀ x ∈ varied.doubles, Json.IsExact x) ∧
      parse .json (Json.write (Encode.configuration varied)) = .ok varied := by
  have short : ∀ p ∈ varied.periods, p.millis ≤ 2 ^ 53 := by decide
  have timespan : Json.IsExact (.ofRatio false 3 2) := ⟨"1.5", ⟨false, ['1'], ['5'], none⟩, rfl, rfl, rfl⟩
  have ratio : Json.IsExact (.ofNat 1) := ⟨"1.0", ⟨false, ['1'], ['0'], none⟩, rfl, rfl, rfl⟩
  have exact : ∀ x ∈ varied.doubles, Json.IsExact x :=
    List.forall_mem_cons.mpr ⟨timespan, List.forall_mem_singleton.mpr ratio⟩
  exact ⟨short, exact, (parse_written varied short).2 exact⟩

end Configuration

end GatewayRouting
