import GatewayRouting.ClaimMapping
import GatewayRouting.HeaderRules
import GatewayRouting.IdentityKey
import GatewayRouting.Options.Authentication
import GatewayRouting.Options.Cache
import GatewayRouting.Options.HttpHandler
import GatewayRouting.Options.Qos
import GatewayRouting.Options.RateLimit
import GatewayRouting.Options.Security
import GatewayRouting.Options.Transport
import GatewayRouting.Request
import GatewayRouting.Template.Header
import GatewayRouting.Template.Upstream

/-!
Routes with all their options settled.
-/

namespace GatewayRouting

/-- Which requests a route answers to. -/
structure Upstream where
  template : UpstreamTemplate
  headerTemplates : List HeaderTemplate := []
  headerTrigger : HeaderTrigger := .all
  host : Option String := none
  /-- The methods of the route; none means all of them. -/
  methods : List Method := []
deriving DecidableEq

namespace Upstream

/-- Whether the route takes requests of that method, case aside. -/
def allowsMethod (u : Upstream) (method : Method) : Bool :=
  u.methods.isEmpty || u.methods.any fun m => Text.sameIgnoringCase m.name method.name

end Upstream

/-- How requests of a route are sent on. The defaults are what counts where nothing is configured. -/
structure Downstream where
  pathTemplate : String := ""
  method : Option Method := none
  version : HttpVersion := .http11
  versionPolicy : VersionPolicy := .orHigher
  authentication : Option AuthenticationOptions := none
  claimsRequirement : Dictionary String := .empty
  claims : ClaimMappings := {}
  cache : Option CacheOptions := none
  rateLimit : Option RateLimitOptions := none
  qos : Option QosOptions := none
  loadBalancer : LoadBalancerOptions := {}
  httpHandler : HttpHandlerOptions := .merge none none
  requestHeaders : HeaderRules := {}
  responseHeaders : HeaderRules := {}
  security : SecurityOptions := {}
  metadata : Dictionary String := .empty
  delegatingHandlers : List String := []
  requestIdKey : Option String := none
  timeoutSeconds : UInt64 := mergedTimeout none none
  acceptAnyServerCertificate : Bool := false
deriving DecidableEq

/-- Where a single request is sent. -/
inductive Destination where
  | hosts (scheme : String) (list : List HostAndPort)
  /-- A service that is looked up. Its name may hold placeholders. -/
  | service (scheme name : String) (serviceNamespace : Option String)
deriving DecidableEq

/-- A route to targets of some type. -/
structure RouteTo (τ : Type) where
  /-- The key by which other parts of the configuration refer to the route. -/
  key : Option String := none
  /-- The identity that load balancing and circuits go by. -/
  identityKey : String
  upstream : Upstream
  downstream : Downstream
  target : τ
deriving DecidableEq

abbrev Route := RouteTo Destination

inductive Target where
  | single (destination : Destination)
  /-- Several routes that are asked at once, in this order. -/
  | aggregate (routes : List Route) (aggregator : Option String)
deriving DecidableEq

/-- A route that a request can be resolved to. -/
abbrev Candidate := RouteTo Target

/-- A route as a candidate of its own. -/
def RouteTo.toCandidate (r : Route) : Candidate := { r with target := .single r.target }

namespace RouteTo

variable {τ : Type}

def priority (r : RouteTo τ) : Nat := r.upstream.template.priority

/-- The name for logs: the key, else the template. -/
def displayName (r : RouteTo τ) : String := r.key.getD r.upstream.template.raw

def isAuthenticated (r : RouteTo τ) : Bool := r.downstream.authentication.isSome
def isAuthorized (r : RouteTo τ) : Bool := !r.downstream.claimsRequirement.isEmpty
def isCached (r : RouteTo τ) : Bool := r.downstream.cache.isSome
def isRateLimited (r : RouteTo τ) : Bool := r.downstream.rateLimit.isSome
def usesQos (r : RouteTo τ) : Bool := r.downstream.qos.isSome

def isAggregate (c : Candidate) : Bool :=
  match c.target with
  | .aggregate .. => true
  | .single _ => false

def usesDiscovery (c : Candidate) : Bool :=
  match c.target with
  | .single (.service ..) => true
  | _ => false

end RouteTo

end GatewayRouting
