import GatewayRouting.Route.Assembly

/-!
Routes to services that are looked up by name: one for each that is declared, and one that takes the
name from the request.
-/

namespace GatewayRouting

/-- The downstream path of a service is what stands after its name. -/
def servicePathTemplate : String := "/\x7beverything\x7d"

/-- The scheme of a service: its own, else the global one, else the provider's, else `http`. -/
def serviceScheme (own : Option String) (global : GlobalSection) : String :=
  settledScheme (own <|> global.downstreamScheme <|> global.provider.bind (·.scheme)) global

namespace DynamicSection

/-- The path below which the service is reached. -/
def upstreamTemplate (s : DynamicSection) : String :=
  "/" ++ IdentityKey.qualified s.serviceNamespace s.serviceName ++ "/\x7beverything\x7d"

def mergedLoadBalancer (s : DynamicSection) (global : GlobalSection) : LoadBalancerOptions :=
  .merge s.loadBalancer global.loadBalancer

def identityKey (s : DynamicSection) (global : GlobalSection) : String :=
  IdentityKey.ofService s.serviceNamespace s.serviceName (s.mergedLoadBalancer global)

/-- The options of the service over the global ones. -/
def downstream (s : DynamicSection) (global : GlobalSection) : Logged Downstream := do
  let version ← HttpVersion.merge s.downstreamHttpVersion global.downstreamHttpVersion
  let security ← SecurityOptions.merge none global.security
  pure
    { pathTemplate := servicePathTemplate
      version
      versionPolicy := VersionPolicy.merge s.downstreamVersionPolicy global.downstreamVersionPolicy
      authentication := AuthenticationOptions.merge s.authentication global.authentication
      cache := CacheOptions.merge s.cache global.cache (CacheOptions.defaultRegion [] s.upstreamTemplate)
      rateLimit := RateLimitOptions.merge (some s.serviceName) s.rateLimit global.rateLimit
      qos := QosOptions.merge (s.identityKey global) s.qos global.qos
      loadBalancer := s.mergedLoadBalancer global
      httpHandler := HttpHandlerOptions.merge s.httpHandler global.httpHandler
      security
      metadata := mergedMetadata s.metadata global.metadata
      requestIdKey := global.requestIdKey
      timeoutSeconds := mergedTimeout s.timeout global.timeout }

/-- The route of a declared service. -/
def assemble (s : DynamicSection) (global : GlobalSection) : Assembly Route := do
  let template ← Assembly.ofExcept (Upstream.compileTemplate s.serviceName s.upstreamTemplate false)
  Logged.debug ("Assembled dynamic route for service '" ++ s.serviceName ++ "' at '" ++ s.upstreamTemplate ++ "'")
  let downstream ← s.downstream global
  pure
    { identityKey := s.identityKey global
      upstream := { template }
      downstream
      target := .service (serviceScheme s.downstreamScheme global) s.serviceName s.serviceNamespace }

end DynamicSection

namespace CatchAll

/-- The first segment of a path names the service. -/
def upstreamTemplate : String := "/\x7bserviceName\x7d/\x7beverything\x7d"

def serviceName : String := "\x7bserviceName\x7d"

def serviceNamespace (global : GlobalSection) : Option String := global.provider.bind (·.serviceNamespace)

def loadBalancer (global : GlobalSection) : LoadBalancerOptions := .merge none global.loadBalancer

def identityKey (global : GlobalSection) : String :=
  IdentityKey.ofService (serviceNamespace global) serviceName (loadBalancer global)

/-- The global options, but for those of the cache, which are left out. -/
def downstream (global : GlobalSection) : Logged Downstream := do
  let version ← HttpVersion.merge none global.downstreamHttpVersion
  let security ← SecurityOptions.merge none global.security
  pure
    { pathTemplate := servicePathTemplate
      version
      versionPolicy := VersionPolicy.merge none global.downstreamVersionPolicy
      authentication := AuthenticationOptions.merge none global.authentication
      rateLimit := RateLimitOptions.merge none none global.rateLimit
      qos := QosOptions.merge (identityKey global) none global.qos
      loadBalancer := loadBalancer global
      httpHandler := HttpHandlerOptions.merge none global.httpHandler
      security
      metadata := global.metadata
      requestIdKey := global.requestIdKey
      timeoutSeconds := mergedTimeout none global.timeout }

/-- The route to every service that the provider knows. -/
def assemble (global : GlobalSection) : Assembly Route := do
  let template ← Assembly.ofExcept (Upstream.compileTemplate upstreamTemplate upstreamTemplate false)
  let downstream ← CatchAll.downstream global
  pure
    { identityKey := identityKey global
      upstream := { template }
      downstream
      target := .service (serviceScheme none global) serviceName (serviceNamespace global) }

end CatchAll

end GatewayRouting
