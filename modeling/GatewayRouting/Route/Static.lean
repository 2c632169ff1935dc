import GatewayRouting.Route.Assembly

/-!
Routes that are declared one by one.
-/

namespace GatewayRouting

namespace RouteSection

/-- The name for logs and errors: the key, else the template. -/
def name (s : RouteSection) : String := s.key.getD s.upstreamPathTemplate

/-- The host that a reference stands for. A name that the global section does not know is dropped with a
warning. -/
def resolveHost (route : String) (global : GlobalSection) : HostReference → Logged (Option HostAndPort)
  | .inline address => pure (some address)
  | .named name =>
    match global.hosts.get? name with
    | some address => pure (some address)
    | none => do
      Logged.warn ("Route '" ++ route ++ "' references unknown downstream host '" ++ name ++ "', dropping it")
      pure none

def resolveHosts (s : RouteSection) (global : GlobalSection) : Logged (List HostAndPort) := do
  let hosts ← Logged.filterMap (resolveHost s.name global) s.downstreamHosts
  if hosts.isEmpty && s.serviceName.isNone then
    Logged.warn ("Route '" ++ s.name ++ "' has no usable downstream host")
  pure hosts

/-- Which requests the route answers to, and the method that it uses downstream. -/
def compileUpstream (s : RouteSection) : Except AssemblyError (Upstream × Option Method) := do
  let template ← Upstream.compileTemplate s.name s.upstreamPathTemplate s.caseSensitive
  let headerTemplates ← Upstream.compileHeaders s.name s.caseSensitive s.headerTemplates.entries
  let methods ← Upstream.parseMethods s.name s.upstreamMethods
  let method ← match s.downstreamHttpMethod with
    | some m => (Upstream.parseMethod s.name m).map some
    | none => .ok none
  .ok ({ template, headerTemplates, headerTrigger := s.headerTrigger, host := s.upstreamHost, methods }, method)

def claimMappings (s : RouteSection) : Logged ClaimMappings := do
  let toHeaders ← ClaimMapping.ofTable s.addHeaders
  let toClaims ← ClaimMapping.ofTable s.addClaims
  let toQueries ← ClaimMapping.ofTable s.addQueries
  let toDownstreamPath ← ClaimMapping.ofTable s.changeDownstreamPath
  pure { toHeaders, toClaims, toQueries, toDownstreamPath }

def mergedLoadBalancer (s : RouteSection) (global : GlobalSection) : LoadBalancerOptions :=
  .merge s.loadBalancer global.loadBalancer

/-- The identity of the route, given the hosts that it resolves to. -/
def identityKey (s : RouteSection) (global : GlobalSection) (hosts : List HostAndPort) : String :=
  IdentityKey.ofParts
    { upstreamTemplate := s.upstreamPathTemplate, methods := s.upstreamMethods, upstreamHost := s.upstreamHost
      hosts, serviceNamespace := s.serviceNamespace, serviceName := s.serviceName
      loadBalancer := s.mergedLoadBalancer global }

/-- The options of the route over the global ones. -/
def downstream (s : RouteSection) (global : GlobalSection) (identityKey : String) (method : Option Method) :
    Logged Downstream := do
  let version ← HttpVersion.merge s.downstreamHttpVersion global.downstreamHttpVersion
  let claims ← s.claimMappings
  let requestHeaders ← HeaderRules.ofTables s.upstreamHeaderTransform global.upstreamHeaderTransform global.baseUrl
  let responseHeaders ←
    HeaderRules.ofTables s.downstreamHeaderTransform global.downstreamHeaderTransform global.baseUrl
  let security ← SecurityOptions.merge s.security global.security
  pure
    { pathTemplate := s.downstreamPathTemplate
      method
      version
      versionPolicy := VersionPolicy.merge s.downstreamVersionPolicy global.downstreamVersionPolicy
      authentication := AuthenticationOptions.merge s.authentication global.authentication
      claimsRequirement := s.claimsRequirement
      claims
      cache := CacheOptions.merge s.cache global.cache
        (CacheOptions.defaultRegion s.upstreamMethods s.upstreamPathTemplate)
      rateLimit := RateLimitOptions.merge s.key s.rateLimit global.rateLimit
      qos := QosOptions.merge identityKey s.qos global.qos
      loadBalancer := s.mergedLoadBalancer global
      httpHandler := HttpHandlerOptions.merge s.httpHandler global.httpHandler
      requestHeaders
      responseHeaders
      security
      metadata := mergedMetadata s.metadata global.metadata
      delegatingHandlers := s.delegatingHandlers
      requestIdKey := s.requestIdKey <|> global.requestIdKey
      timeoutSeconds := mergedTimeout s.timeout global.timeout
      acceptAnyServerCertificate := s.acceptAnyServerCertificate }

/-- A service if the route names one, else its hosts. -/
def destination (s : RouteSection) (global : GlobalSection) (hosts : List HostAndPort) : Destination :=
  let scheme := settledScheme s.downstreamScheme global
  match s.serviceName with
  | some name => .service scheme name s.serviceNamespace
  | none => .hosts scheme hosts

/-- The route of a section whose templates are compiled. -/
def settle (s : RouteSection) (global : GlobalSection) (upstream : Upstream) (method : Option Method) :
    Logged Route := do
  let hosts ← s.resolveHosts global
  let identityKey := s.identityKey global hosts
  let downstream ← s.downstream global identityKey method
  let route : Route := { key := s.key, identityKey, upstream, downstream, target := s.destination global hosts }
  Logged.debug ("Assembled route '" ++ s.name ++ "' (priority " ++ toString route.priority ++ ", key " ++
    identityKey ++ ")")
  pure route

/-- The route of a section. -/
def assemble (s : RouteSection) (global : GlobalSection) : Assembly Route := do
  let (upstream, method) ← Assembly.ofExcept s.compileUpstream
  s.settle global upstream method

end RouteSection

end GatewayRouting
