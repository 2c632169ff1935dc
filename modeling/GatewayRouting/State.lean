import GatewayRouting.Cache
import GatewayRouting.Config.Validate

/-!
The state of a running gateway: the active route table with its cache, replaced as a whole when a
configuration is accepted, and the counters of what has happened.
-/

namespace GatewayRouting

/-- Why a configuration is not accepted. -/
inductive BuildError where
  | validation (error : ValidationError)
  | assembly (error : AssemblyError)
deriving DecidableEq, Inhabited

namespace BuildError

def message : BuildError → String
  | validation _ => "Configuration validation failed"
  | assembly _ => "Failed to build route table"

/-- What lies behind it, the nearest cause first. -/
def causes : BuildError → List String
  | validation e => e.message :: e.causes
  | assembly e => e.message :: e.causes

/-- The fault with its causes. -/
def chain (e : BuildError) : String := ": ".intercalate (e.message :: e.causes)

end BuildError

namespace RouteTable

/-- The table of a configuration that passes its checks. -/
def build (config : Configuration) (capabilities : Capabilities) : Logged (Except BuildError RouteTable) :=
  match config.validate capabilities with
  | .error e => pure (.error (.validation e))
  | .ok () => do
    let table ← (ofConfiguration config).run
    pure (table.mapError .assembly)

end RouteTable

/-- A table together with the cache made for it. -/
structure Snapshot where
  table : RouteTable
  cache : ResolutionCache
deriving DecidableEq

namespace Snapshot

def ofTable (table : RouteTable) (capacity : Nat) : Snapshot := ⟨table, .empty capacity⟩

/-- The key of a request in this cache. -/
def key (s : Snapshot) (request : Request) : CacheKey := .ofRequest request s.table.routingHeaders

/-- The resolution that the cache holds for a request. -/
def cached? (s : Snapshot) (request : Request) : Option Resolution := s.cache.get? (s.key request)

/-- The snapshot with the resolution of a request put into its cache. -/
def remember (s : Snapshot) (request : Request) (resolution : Resolution) : Snapshot :=
  { s with cache := s.cache.insert (s.key request) resolution }

end Snapshot

/-- Counts of what has happened. -/
structure Metrics where
  matched : Nat := 0
  notFound : Nat := 0
  cacheHits : Nat := 0
  reloadSuccesses : Nat := 0
  reloadFailures : Nat := 0
  /-- The number of candidates in the active table. -/
  tableRoutes : Nat := 0
deriving DecidableEq, Inhabited

namespace Metrics

def countResolution (m : Metrics) : Resolution → Metrics
  | .matched _ => { m with matched := m.matched + 1 }
  | .notFound => { m with notFound := m.notFound + 1 }

def countHit (m : Metrics) : Metrics := { m with cacheHits := m.cacheHits + 1 }

def countRefusal (m : Metrics) : Metrics := { m with reloadFailures := m.reloadFailures + 1 }

/-- Counts a reload that puts a table of that size in place. -/
def countReload (m : Metrics) (tableRoutes : Nat) : Metrics :=
  { m with reloadSuccesses := m.reloadSuccesses + 1, tableRoutes }

end Metrics

structure RoutingState where
  snapshot : Snapshot
  cacheCapacity : Nat
  metrics : Metrics
deriving DecidableEq

namespace RoutingState

def ofTable (table : RouteTable) (cacheCapacity : Nat) : RoutingState where
  snapshot := .ofTable table cacheCapacity
  cacheCapacity := cacheCapacity
  metrics := { tableRoutes := table.size }

def table (s : RoutingState) : RouteTable := s.snapshot.table

def ofConfiguration (config : Configuration) (capabilities : Capabilities) (cacheCapacity : Nat) :
    Logged (Except BuildError RoutingState) := do
  let table ← RouteTable.build config capabilities
  pure (table.map (ofTable · cacheCapacity))

/-- The state after a table is put in place of the active one. -/
def publish (s : RoutingState) (table : RouteTable) : RoutingState :=
  { s with snapshot := .ofTable table s.cacheCapacity, metrics := s.metrics.countReload table.size }

/-- The state after a configuration is refused: the table and its cache stay. -/
def refuse (s : RoutingState) : RoutingState := { s with metrics := s.metrics.countRefusal }

/-- Puts the table of another configuration in place of the active one, if it is accepted. -/
def reload (s : RoutingState) (config : Configuration) (capabilities : Capabilities) :
    Logged (Except BuildError Unit × RoutingState) := do
  match ← RouteTable.build config capabilities with
  | .error e => pure (.error e, s.refuse)
  | .ok table =>
    Logged.info ("Route table reloaded with " ++ toString table.size ++ " routes")
    pure (.ok (), s.publish table)

/-- The resolution of a request, from the cache if it is there, else from the table and then kept. -/
def resolve (s : RoutingState) (request : Request) : Resolution × RoutingState :=
  match s.snapshot.cached? request with
  | some resolution => (resolution, { s with metrics := s.metrics.countHit.countResolution resolution })
  | none =>
    let resolution := s.table.resolve request
    (resolution,
      { s with
        snapshot := s.snapshot.remember request resolution
        metrics := s.metrics.countResolution resolution })

end RoutingState

end GatewayRouting
