import GatewayRouting.Route.Assembly

/-!
Routes that answer from several others.
-/

namespace GatewayRouting

/-- The first route of that key. -/
def findRoute? (routes : List Route) (key : String) : Option Route := routes.find? (·.key == some key)

namespace AggregateSection

/-- The routes that the section lists, in its order, or the keys that name none. -/
def constituents (s : AggregateSection) (routes : List Route) : Except AssemblyError (List Route) :=
  let missing := s.routeKeys.filter fun key => (findRoute? routes key).isNone
  if missing.isEmpty then .ok (s.routeKeys.filterMap (findRoute? routes))
  else .error (.unknownRouteKeys s.upstreamPathTemplate missing)

/-- The methods of the section; none means GET alone. -/
def methods (s : AggregateSection) : List String :=
  if s.upstreamMethods.isEmpty then ["GET"] else s.upstreamMethods

def identityKey (s : AggregateSection) : String :=
  IdentityKey.ofParts
    { upstreamTemplate := s.upstreamPathTemplate, methods := s.methods, upstreamHost := s.upstreamHost, hosts := []
      serviceNamespace := none, serviceName := none, loadBalancer := {} }

/-- The aggregate over routes that are assembled. -/
def assemble (s : AggregateSection) (routes : List Route) : Assembly Candidate := do
  let name := s.upstreamPathTemplate
  let constituents ← Assembly.ofExcept (s.constituents routes)
  let template ← Assembly.ofExcept (Upstream.compileTemplate name name s.caseSensitive)
  let headerTemplates ← Assembly.ofExcept (Upstream.compileHeaders name s.caseSensitive s.headerTemplates.entries)
  Logged.debug ("Assembled aggregate '" ++ name ++ "' over " ++ toString constituents.length ++ " routes")
  let methods ← Assembly.ofExcept (Upstream.parseMethods name s.methods)
  pure
    { identityKey := s.identityKey
      upstream := { template, headerTemplates, headerTrigger := s.headerTrigger, host := s.upstreamHost, methods }
      downstream := {}
      target := .aggregate constituents s.aggregator }

end AggregateSection

end GatewayRouting
