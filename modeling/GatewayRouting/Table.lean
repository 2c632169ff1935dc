import GatewayRouting.Route.Aggregate
import GatewayRouting.Route.Dynamic
import GatewayRouting.Route.Static

/-!
Route tables: the routes of a configuration, and those among them that a request can be resolved to.
-/

namespace GatewayRouting

structure RouteTable where
  /-- The routes that requests are resolved to, in the order in which they are declared. -/
  candidates : List Candidate
  /-- Every declared route, also those that only aggregates lead to. -/
  routes : List Route
  /-- The names of the headers that some candidate looks at. -/
  routingHeaders : List String
deriving DecidableEq

namespace RouteTable

def empty : RouteTable := ⟨[], [], []⟩

instance : Inhabited RouteTable := ⟨empty⟩

/-- Whether an aggregate lists the route. -/
def isAbsorbed (aggregates : List AggregateSection) (r : Route) : Bool :=
  match r.key with
  | some key => aggregates.any (·.routeKeys.contains key)
  | none => false

/-- The names in order, each one once. -/
def distinct : List String → List String → List String
  | _, [] => []
  | seen, name :: rest => if seen.contains name then distinct seen rest else name :: distinct (name :: seen) rest

/-- The headers that candidates look at. -/
def headerNames (candidates : List Candidate) : List String :=
  distinct [] (candidates.flatMap fun c => c.upstream.headerTemplates.map (·.name))

/-- The route to services that are not declared, if there is a provider and nothing else is declared. -/
def assembleCatchAll (config : Configuration) : Assembly (List Route) := do
  if config.routes.isEmpty && config.global.provider.isSome then
    Logged.debug "No static routes declared, adding service discovery catch-all"
    let route ← CatchAll.assemble config.global
    pure [route]
  else pure []

/-- The table of a configuration. -/
def ofConfiguration (config : Configuration) : Assembly RouteTable := do
  let routes ← Assembly.each (·.assemble config.global) config.routes
  let aggregates ← Assembly.each (·.assemble routes) config.aggregates
  let dynamics ← Assembly.each (·.assemble config.global) config.dynamicRoutes
  let catchAll ← assembleCatchAll config
  let free := routes.filter (!isAbsorbed config.aggregates ·)
  let candidates := free.map (·.toCandidate) ++ aggregates ++ (dynamics ++ catchAll).map (·.toCandidate)
  Logged.info ("Route table built: " ++ toString candidates.length ++ " candidates from " ++
    toString routes.length ++ " routes, " ++ toString config.aggregates.length ++ " aggregates, " ++
    toString config.dynamicRoutes.length ++ " dynamic routes")
  pure { candidates, routes, routingHeaders := headerNames candidates }

def size (t : RouteTable) : Nat := t.candidates.length

def isEmpty (t : RouteTable) : Bool := t.candidates.isEmpty

/-- The first declared route of that key. -/
def find? (t : RouteTable) (key : String) : Option Route := findRoute? t.routes key

/-- The place of a candidate in the table. -/
def position? (t : RouteTable) (c : Candidate) : Option Nat := t.candidates.findIdx? (· == c)

end RouteTable

end GatewayRouting
