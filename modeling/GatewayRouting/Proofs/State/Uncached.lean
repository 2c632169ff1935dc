import GatewayRouting.Proofs.Cache.Faithful
import GatewayRouting.Proofs.State.Run

/-!
The cache is invisible: over any calls a routing state answers as one would that keeps nothing but the
configuration accepted last.
-/

set_option autoImplicit false

namespace GatewayRouting

namespace Configuration

/-- The configuration in force after a call. -/
def afterCall (config : Configuration) : Call → Configuration
  | .resolve _ => config
  | .reload next capabilities => if next.isAccepted capabilities then next else config

/-- The configuration in force after some calls: of those accepted the last one, if there is any. -/
def lastAccepted (config : Configuration) (calls : List Call) : Configuration :=
  calls.foldl afterCall config

theorem afterCall_of_built {config next : Configuration} {capabilities : Capabilities}
    {table : RouteTable} (built : (RouteTable.build next capabilities).value = .ok table) :
    config.afterCall (.reload next capabilities) = next := by
  have accepted := RouteTable.isOk_build next capabilities
  rw [built] at accepted
  simp only [afterCall, ← accepted]
  rfl

theorem afterCall_of_error {config next : Configuration} {capabilities : Capabilities}
    {error : BuildError} (failed : (RouteTable.build next capabilities).value = .error error) :
    config.afterCall (.reload next capabilities) = config := by
  have refused := RouteTable.isOk_build next capabilities
  rw [failed] at refused
  simp only [afterCall, ← refused]
  rfl

end Configuration

/-- The table in force is that of the configuration, and its cache answers as it does. -/
structure Snapshot.Serves (s : Snapshot) (config : Configuration) : Prop where
  made : (RouteTable.ofConfiguration config).result = .ok s.table
  faithful : s.Faithful

theorem Snapshot.ofTable_serves {config : Configuration} {table : RouteTable} (capacity : Nat)
    (made : (RouteTable.ofConfiguration config).result = .ok table) :
    (Snapshot.ofTable table capacity).Serves config :=
  ⟨made, ofTable_faithful (RouteTable.ofConfiguration_knowsHeaders made) capacity⟩

namespace RoutingState

/-- What a call answers if nothing is cached. -/
def plainAnswer (s : RoutingState) : Call → Answer
  | .resolve request => .resolution (s.table.resolve request)
  | .reload config capabilities => .reload (s.reload config capabilities).value.1

theorem serves_step {s : RoutingState} {config : Configuration} (serves : s.snapshot.Serves config)
    (call : Call) :
    (s.step call).2.snapshot.Serves (config.afterCall call) ∧ (s.step call).1 = s.plainAnswer call := by
  rcases s.step_cases call with ⟨request, resolution, rfl, hit, stepped⟩ | ⟨request, rfl, miss, stepped⟩ |
    ⟨next, capabilities, error, rfl, failed, stepped⟩ | ⟨next, capabilities, table, rfl, built, stepped⟩
  · rw [stepped]
    exact ⟨serves, congrArg Answer.resolution (serves.faithful.cached?_eq hit)⟩
  · rw [stepped]
    exact ⟨⟨serves.made, serves.faithful.remember request⟩, rfl⟩
  · rw [stepped, Configuration.afterCall_of_error failed, plainAnswer, reload_of_error failed]
    exact ⟨serves, rfl⟩
  · rw [stepped, Configuration.afterCall_of_built built, plainAnswer, reload_of_built built]
    exact ⟨Snapshot.ofTable_serves s.cacheCapacity (RouteTable.build_eq_ok.mp built).2, rfl⟩

/-- Each resolution of a run is that of the table of the configuration in force at that call. -/
theorem run_resolution {s : RoutingState} {config : Configuration} (serves : s.snapshot.Serves config)
    (calls : List Call) (i : Nat) (request : Request) (asked : calls[i]? = some (.resolve request)) :
    ∃ table, (RouteTable.ofConfiguration (config.lastAccepted (calls.take i))).result = .ok table ∧
      (s.run calls).1[i]? = some (.resolution (GatewayRouting.resolve table.candidates request)) := by
  induction calls generalizing s config i with
  | nil => simp at asked
  | cons call rest ih =>
    obtain ⟨kept, answer⟩ := serves_step serves call
    cases i with
    | zero =>
      simp only [List.getElem?_cons_zero, Option.some.injEq] at asked
      subst asked
      refine ⟨s.table, serves.made, ?_⟩
      rw [run_cons, List.getElem?_cons_zero, answer]
      rfl
    | succ i =>
      rw [List.getElem?_cons_succ] at asked
      rw [run_cons, List.getElem?_cons_succ]
      exact ih kept i asked

/-- Whatever is resolved and reloaded in whatever order, and however large the cache is, each
resolution is the one without cache over the table of the configuration accepted last. A cache key
says all that a table looks at in a request. -/
theorem run_resolves_uncached {config : Configuration} {capabilities : Capabilities} {capacity : Nat}
    {s : RoutingState} (started : (ofConfiguration config capabilities capacity).value = .ok s) :
    (∀ (calls : List Call) (i : Nat) (request : Request), calls[i]? = some (.resolve request) →
      ∃ table, (RouteTable.ofConfiguration (config.lastAccepted (calls.take i))).result = .ok table ∧
        (s.run calls).1[i]? = some (.resolution (GatewayRouting.resolve table.candidates request))) ∧
    ∀ table : RouteTable,
      (table = .empty ∨ ∃ config, (RouteTable.ofConfiguration config).result = .ok table) →
      ∀ a b : Request,
        CacheKey.ofRequest a table.routingHeaders = CacheKey.ofRequest b table.routingHeaders →
          GatewayRouting.resolve table.candidates a = GatewayRouting.resolve table.candidates b := by
  obtain ⟨table, _, made, rfl⟩ := ofConfiguration_eq_ok.mp started
  refine ⟨run_resolution (Snapshot.ofTable_serves capacity made), ?_⟩
  intro table origin a b sameKey
  have knows : table.KnowsHeaders := by
    rcases origin with rfl | ⟨config, made⟩
    · exact RouteTable.empty_knowsHeaders
    · exact RouteTable.ofConfiguration_knowsHeaders made
  exact RouteTable.resolve_congr_of_key knows sameKey

/-- A configuration of one route, bound to a host. -/
def boundConfiguration : Configuration where
  routes :=
    [{ downstreamPathTemplate := "/\x7bx\x7d", downstreamHosts := [.inline ⟨"b", 80⟩]
       upstreamPathTemplate := "/a/\x7bx\x7d", upstreamHost := some "h" }]

/-- A resolution, a reload that leaves no route, and the same resolution for the host in capitals. -/
def callsAroundReload : List Call :=
  [.resolve ⟨⟨"GET"⟩, "/a/b", none, some "h", []⟩, .reload {} {},
    .resolve ⟨⟨"GET"⟩, "/a/b", none, some "H", []⟩]

theorem run_resolves_uncached_around_reload :
    ∃ s, (ofConfiguration boundConfiguration {} 1).value = .ok s ∧
      ∃ table,
        (RouteTable.ofConfiguration
          (boundConfiguration.lastAccepted (callsAroundReload.take 2))).result = .ok table ∧
        (s.run callsAroundReload).1[2]? =
          some (.resolution
            (GatewayRouting.resolve table.candidates ⟨⟨"GET"⟩, "/a/b", none, some "H", []⟩)) := by
  have accepted : (ofConfiguration boundConfiguration {} 1).value.isOk = true := by rfl
  obtain ⟨s, started⟩ := exists_of_isOk accepted
  exact ⟨s, started, (run_resolves_uncached started).1 callsAroundReload 2 _ rfl⟩

end RoutingState

end GatewayRouting
