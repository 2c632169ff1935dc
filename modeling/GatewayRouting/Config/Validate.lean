import GatewayRouting.Address.Url
import GatewayRouting.Config.Section
import GatewayRouting.Options.Authentication

/-!
Checks of a configuration before a route table is made of it: that its parts fit together, and that the
providers it needs are there. The first fault found is the one reported.
-/

namespace GatewayRouting

inductive ValidationError where
  | invalidBaseUrl (url : String) (cause : UrlError)
  | providerNotRegistered
  | schemeNotRegistered (owner scheme : String)
  | qosNotRegistered (owner : String)
  | upstreamWithoutSlash (route : String)
  | downstreamWithoutSlash (route : String)
  | repeatedKey (key : String)
  | serviceWithoutProvider (route : String)
  | noDownstreamHost (route : String)
  | duplicateUpstream (template : String)
  | dynamicWithoutService
  | dynamicWithoutProvider (service : String)
  | aggregateWithoutSlash (template : String)
  | aggregateWithoutKeys (template : String)
  | aggregateUnknownKey (template key : String)
deriving DecidableEq, Inhabited

namespace ValidationError

def message : ValidationError → String
  | invalidBaseUrl url _ => "Invalid global base_url: " ++ url
  | providerNotRegistered => "A service discovery provider is configured but none is registered"
  | schemeNotRegistered owner scheme =>
    "'" ++ owner ++ "' uses authentication scheme '" ++ scheme ++ "' which is not registered"
  | qosNotRegistered owner => "'" ++ owner ++ "' has qos_options but no QoS provider is registered"
  | upstreamWithoutSlash route => "Route '" ++ route ++ "' upstream_path_template must start with '/'"
  | downstreamWithoutSlash route => "Route '" ++ route ++ "' downstream_path_template must start with '/'"
  | repeatedKey key => "Route key '" ++ key ++ "' is declared more than once"
  | serviceWithoutProvider route =>
    "Route '" ++ route ++ "' uses service_name but no service_discovery_provider is configured"
  | noDownstreamHost route => "Route '" ++ route ++ "' must have at least one downstream host"
  | duplicateUpstream template => "Duplicate route for upstream '" ++ template ++ "'"
  | dynamicWithoutService => "Dynamic route must have a service_name"
  | dynamicWithoutProvider service => "Dynamic route '" ++ service ++ "' requires a service_discovery_provider"
  | aggregateWithoutSlash template => "Aggregate '" ++ template ++ "' upstream_path_template must start with '/'"
  | aggregateWithoutKeys template => "Aggregate '" ++ template ++ "' must reference at least one route key"
  | aggregateUnknownKey template key =>
    "Aggregate '" ++ template ++ "' references non-existent route key '" ++ key ++ "'"

/-- What lies behind the fault. -/
def causes : ValidationError → List String
  | invalidBaseUrl _ cause => [cause.message]
  | _ => []

end ValidationError

namespace Configuration

abbrev Check := Except ValidationError Unit

/-- Fails if the condition does not hold. -/
def require (condition : Bool) (error : ValidationError) : Check :=
  if condition then .ok () else .error error

/-- Runs a check on every item, in order. -/
def each {α : Type} (check : α → Check) : List α → Check
  | [] => .ok ()
  | a :: rest => do
    check a
    each check rest

def checkBaseUrl (url : Option String) : Check :=
  match url with
  | none => .ok ()
  | some url =>
    match Url.check url with
    | .ok () => .ok ()
    | .error cause => .error (.invalidBaseUrl url cause)

def checkAuthentication (owner : String) (capabilities : Capabilities) (s : AuthenticationSection) : Check :=
  each (fun scheme => require (capabilities.authenticationSchemes.contains scheme) (.schemeNotRegistered owner scheme))
    s.schemes

/-- Whether a section asks for a circuit breaker or a timeout. -/
def wantsQos (s : QosSection) : Bool :=
  0 < s.exceptionsAllowedBeforeBreaking.getD 0 || 0 < s.timeoutMillis.getD 0

def checkQos (owner : String) (capabilities : Capabilities) (s : QosSection) : Check :=
  require (!wantsQos s || capabilities.qosProvider) (.qosNotRegistered owner)

/-- The checks of the options that depend on providers. -/
def checkProviders (owner : String) (capabilities : Capabilities) (authentication : Option AuthenticationSection)
    (qos : Option QosSection) : Check := do
  each (checkAuthentication owner capabilities) authentication.toList
  each (checkQos owner capabilities) qos.toList

def startsWithSlash (s : String) : Bool := s.toList.head? == some '/'

/-- A route's key, else its position and template. -/
def routeName (index : Nat) (r : RouteSection) : String :=
  r.key.getD ("#" ++ toString index ++ " (" ++ r.upstreamPathTemplate ++ ")")

def checkRoute (discovery : Bool) (capabilities : Capabilities) (seen : List String) (index : Nat)
    (r : RouteSection) : Check := do
  let name := routeName index r
  require (startsWithSlash r.upstreamPathTemplate) (.upstreamWithoutSlash name)
  require (startsWithSlash r.downstreamPathTemplate) (.downstreamWithoutSlash name)
  each (fun key => require (!seen.contains key) (.repeatedKey key)) r.key.toList
  match r.serviceName with
  | some _ => require discovery (.serviceWithoutProvider name)
  | none => require (!r.downstreamHosts.isEmpty) (.noDownstreamHost name)
  checkProviders name capabilities r.authentication r.qos

/-- The checks of routes from a position on, given the keys before it. -/
def checkRoutes (discovery : Bool) (capabilities : Capabilities) :
    List String → Nat → List RouteSection → Check
  | _, _, [] => .ok ()
  | seen, index, r :: rest => do
    checkRoute discovery capabilities seen index r
    checkRoutes discovery capabilities (seen ++ r.key.toList) (index + 1) rest

/-- Whether two routes can take requests from each other: same template, host and header templates, and
a method in common. -/
def isDuplicate (a b : RouteSection) : Bool :=
  let sameTemplate :=
    if a.caseSensitive || b.caseSensitive then a.upstreamPathTemplate == b.upstreamPathTemplate
    else Text.sameIgnoringCase a.upstreamPathTemplate b.upstreamPathTemplate
  let sameHost := match a.upstreamHost, b.upstreamHost with
    | some x, some y => Text.sameIgnoringCase x y
    | none, none => true
    | _, _ => false
  let methodsOverlap := a.upstreamMethods.isEmpty || b.upstreamMethods.isEmpty ||
    a.upstreamMethods.any fun m => b.upstreamMethods.any fun n => Text.sameIgnoringCase n m
  sameTemplate && sameHost && methodsOverlap && a.headerTemplates == b.headerTemplates

/-- No route has a duplicate after it. -/
def checkDuplicates : List RouteSection → Check
  | [] => .ok ()
  | a :: rest => do
    require (!rest.any (isDuplicate a)) (.duplicateUpstream a.upstreamPathTemplate)
    checkDuplicates rest

def checkDynamic (discovery : Bool) (capabilities : Capabilities) (d : DynamicSection) : Check := do
  require (d.serviceName != "") .dynamicWithoutService
  require discovery (.dynamicWithoutProvider d.serviceName)
  checkProviders d.serviceName capabilities d.authentication d.qos

def checkAggregate (keys : List String) (a : AggregateSection) : Check := do
  let template := a.upstreamPathTemplate
  require (startsWithSlash template) (.aggregateWithoutSlash template)
  require (!a.routeKeys.isEmpty) (.aggregateWithoutKeys template)
  each (fun key => require (keys.contains key) (.aggregateUnknownKey template key)) a.routeKeys

def validate (c : Configuration) (capabilities : Capabilities) : Check := do
  let discovery := c.global.provider.isSome
  checkBaseUrl c.global.baseUrl
  require (!discovery || capabilities.discoveryProvider) .providerNotRegistered
  checkProviders "global" capabilities c.global.authentication c.global.qos
  checkRoutes discovery capabilities [] 0 c.routes
  checkDuplicates c.routes
  each (checkDynamic discovery capabilities) c.dynamicRoutes
  each (checkAggregate (c.routes.filterMap (·.key))) c.aggregates

end Configuration

end GatewayRouting
