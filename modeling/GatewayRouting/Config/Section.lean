import GatewayRouting.Dictionary
import GatewayRouting.Period

/-!
The sections of a gateway configuration, as they are written. An option that a section leaves open is
absent here; what it amounts to is decided when routes are assembled.
-/

namespace GatewayRouting

structure HostAndPort where
  host : String
  port : UInt16
deriving DecidableEq, Inhabited

/-- A downstream host, written out or by its name in the global section. -/
inductive HostReference where
  | inline (address : HostAndPort)
  | named (name : String)
deriving DecidableEq, Inhabited

/-- How many of a route's header templates a request has to meet. -/
inductive HeaderTrigger where
  | any
  | all
deriving DecidableEq, Inhabited

inductive VersionPolicy where
  | orLower
  | orHigher
  | exact
deriving DecidableEq, Inhabited

inductive LoadBalancerType where
  | none
  | roundRobin
  | leastConnection
  | cookieStickySessions
deriving DecidableEq, Inhabited

structure AuthenticationSection where
  /-- A single scheme, counted before those of the list. -/
  providerKey : Option String := none
  providerKeys : List String := []
  allowedScopes : List String := []
  allowAnonymous : Option Bool := none
deriving DecidableEq, Inhabited

structure CacheSection where
  ttlSeconds : Option UInt64 := none
  region : Option String := none
  header : Option String := none
  enableContentHashing : Option Bool := none
deriving DecidableEq, Inhabited

structure LoadBalancerSection where
  type : Option LoadBalancerType := none
  key : Option String := none
  expiryMillis : Option UInt64 := none
deriving DecidableEq, Inhabited

structure RateLimitSection where
  enabled : Option Bool := none
  clientWhitelist : Option (List String) := none
  /-- The window that the limit applies to. -/
  period : Option Period := none
  /-- The seconds that a client waits after the limit is hit. -/
  periodTimespan : Option Binary64 := none
  limit : Option UInt64 := none
  clientIdHeader : Option String := none
  quotaExceededMessage : Option String := none
  httpStatusCode : Option UInt16 := none
  disableHeaders : Option Bool := none
  counterPrefix : Option String := none
  /-- The routes that the global section is for; none means all of them. -/
  routeKeys : List String := []
deriving DecidableEq, Inhabited

structure QosSection where
  exceptionsAllowedBeforeBreaking : Option UInt32 := none
  durationOfBreakMillis : Option UInt64 := none
  timeoutMillis : Option UInt64 := none
  samplingDurationMillis : Option UInt64 := none
  failureRatio : Option Binary64 := none
deriving DecidableEq, Inhabited

structure HttpHandlerSection where
  allowAutoRedirect : Option Bool := none
  useCookieContainer : Option Bool := none
  useTracing : Option Bool := none
  useProxy : Option Bool := none
  maxConnectionsPerServer : Option UInt64 := none
  pooledConnectionLifetimeSeconds : Option UInt64 := none
deriving DecidableEq, Inhabited

structure SecuritySection where
  allowedList : List String := []
  blockedList : List String := []
  excludeAllowedFromBlocked : Bool := false
deriving DecidableEq, Inhabited

/-- Where services are looked up by name. -/
structure ProviderSection where
  type : String
  host : Option String := none
  port : Option UInt16 := none
  serviceNamespace : Option String := none
  scheme : Option String := none
deriving DecidableEq, Inhabited

structure RouteSection where
  downstreamPathTemplate : String
  downstreamScheme : Option String := none
  downstreamHosts : List HostReference := []
  /-- The method used towards the downstream service, if it is not the request's. -/
  downstreamHttpMethod : Option String := none
  downstreamHttpVersion : Option String := none
  downstreamVersionPolicy : Option VersionPolicy := none
  upstreamPathTemplate : String
  /-- The methods of the route; none means all of them. -/
  upstreamMethods : List String := []
  upstreamHost : Option String := none
  headerTemplates : Dictionary String := .empty
  headerTrigger : HeaderTrigger := .all
  caseSensitive : Bool := false
  key : Option String := none
  serviceName : Option String := none
  serviceNamespace : Option String := none
  authentication : Option AuthenticationSection := none
  addHeaders : Dictionary String := .empty
  addClaims : Dictionary String := .empty
  addQueries : Dictionary String := .empty
  changeDownstreamPath : Dictionary String := .empty
  claimsRequirement : Dictionary String := .empty
  cache : Option CacheSection := none
  loadBalancer : Option LoadBalancerSection := none
  rateLimit : Option RateLimitSection := none
  qos : Option QosSection := none
  httpHandler : Option HttpHandlerSection := none
  upstreamHeaderTransform : Dictionary String := .empty
  downstreamHeaderTransform : Dictionary String := .empty
  delegatingHandlers : List String := []
  security : Option SecuritySection := none
  metadata : Dictionary String := .empty
  requestIdKey : Option String := none
  /-- The time allowed for a request, in seconds. -/
  timeout : Option UInt64 := none
  acceptAnyServerCertificate : Bool := false
deriving DecidableEq, Inhabited

/-- A route to every path of a service that is looked up by name. -/
structure DynamicSection where
  serviceName : String
  serviceNamespace : Option String := none
  downstreamScheme : Option String := none
  downstreamHttpVersion : Option String := none
  downstreamVersionPolicy : Option VersionPolicy := none
  rateLimit : Option RateLimitSection := none
  loadBalancer : Option LoadBalancerSection := none
  cache : Option CacheSection := none
  qos : Option QosSection := none
  authentication : Option AuthenticationSection := none
  httpHandler : Option HttpHandlerSection := none
  metadata : Dictionary String := .empty
  timeout : Option UInt64 := none
deriving DecidableEq, Inhabited

/-- A route that answers from several others at once. -/
structure AggregateSection where
  routeKeys : List String
  upstreamPathTemplate : String
  upstreamHost : Option String := none
  upstreamMethods : List String := ["GET"]
  headerTemplates : Dictionary String := .empty
  headerTrigger : HeaderTrigger := .all
  caseSensitive : Bool := false
  aggregator : Option String := none
deriving DecidableEq, Inhabited

structure GlobalSection where
  /-- The gateway's own address as clients see it. -/
  baseUrl : Option String := none
  downstreamScheme : Option String := none
  downstreamHttpVersion : Option String := none
  downstreamVersionPolicy : Option VersionPolicy := none
  hosts : Dictionary HostAndPort := .empty
  requestIdKey : Option String := none
  provider : Option ProviderSection := none
  timeout : Option UInt64 := none
  authentication : Option AuthenticationSection := none
  cache : Option CacheSection := none
  loadBalancer : Option LoadBalancerSection := none
  rateLimit : Option RateLimitSection := none
  qos : Option QosSection := none
  httpHandler : Option HttpHandlerSection := none
  security : Option SecuritySection := none
  upstreamHeaderTransform : Dictionary String := .empty
  downstreamHeaderTransform : Dictionary String := .empty
  metadata : Dictionary String := .empty
deriving DecidableEq, Inhabited

structure Configuration where
  routes : List RouteSection := []
  dynamicRoutes : List DynamicSection := []
  aggregates : List AggregateSection := []
  global : GlobalSection := {}
deriving DecidableEq, Inhabited

/-- What the program around the gateway provides. Options that need more than this are refused. -/
structure Capabilities where
  qosProvider : Bool := false
  discoveryProvider : Bool := false
  authenticationSchemes : List String := []
deriving DecidableEq, Inhabited

end GatewayRouting
