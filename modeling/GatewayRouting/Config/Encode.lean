import GatewayRouting.Config.Section
import GatewayRouting.Document.Value

/-!
Configurations written as documents: every field under its name, absent options as null, periods as text.
-/

namespace GatewayRouting

namespace HeaderTrigger

def name : HeaderTrigger → String
  | any => "any"
  | all => "all"

end HeaderTrigger

namespace VersionPolicy

def name : VersionPolicy → String
  | orLower => "request_version_or_lower"
  | orHigher => "request_version_or_higher"
  | exact => "request_version_exact"

end VersionPolicy

namespace LoadBalancerType

def name : LoadBalancerType → String
  | none => "no_load_balancer"
  | roundRobin => "round_robin"
  | leastConnection => "least_connection"
  | cookieStickySessions => "cookie_sticky_sessions"

end LoadBalancerType

namespace Encode

def text (s : String) : Value := .text s
def bool (b : Bool) : Value := .bool b
def word16 (n : UInt16) : Value := .int n.toNat
def word32 (n : UInt32) : Value := .int n.toNat
def word64 (n : UInt64) : Value := .int n.toNat
def double (x : Binary64) : Value := .float x
def period (p : Period) : Value := .text p.toText
def headerTrigger (t : HeaderTrigger) : Value := .text t.name
def versionPolicy (p : VersionPolicy) : Value := .text p.name
def loadBalancerType (t : LoadBalancerType) : Value := .text t.name

def option {α : Type} (write : α → Value) : Option α → Value
  | some a => write a
  | none => .null

def list {α : Type} (write : α → Value) (items : List α) : Value := .list (items.map write)

def dictionary {α : Type} (write : α → Value) (d : Dictionary α) : Value :=
  .named (d.entries.map fun e => (e.1, write e.2))

def hostAndPort (s : HostAndPort) : Value :=
  .named [
    ("host", text s.host),
    ("port", word16 s.port)]

def hostReference : HostReference → Value
  | .inline address => hostAndPort address
  | .named name => .text name

def authentication (s : AuthenticationSection) : Value :=
  .named [
    ("authentication_provider_key", option text s.providerKey),
    ("authentication_provider_keys", list text s.providerKeys),
    ("allowed_scopes", list text s.allowedScopes),
    ("allow_anonymous", option bool s.allowAnonymous)]

def cache (s : CacheSection) : Value :=
  .named [
    ("ttl_seconds", option word64 s.ttlSeconds),
    ("region", option text s.region),
    ("header", option text s.header),
    ("enable_content_hashing", option bool s.enableContentHashing)]

def loadBalancer (s : LoadBalancerSection) : Value :=
  .named [
    ("type", option loadBalancerType s.type),
    ("key", option text s.key),
    ("expiry_ms", option word64 s.expiryMillis)]

def rateLimit (s : RateLimitSection) : Value :=
  .named [
    ("enable_rate_limiting", option bool s.enabled),
    ("client_whitelist", option (list text) s.clientWhitelist),
    ("period", option period s.period),
    ("period_timespan", option double s.periodTimespan),
    ("limit", option word64 s.limit),
    ("client_id_header", option text s.clientIdHeader),
    ("quota_exceeded_message", option text s.quotaExceededMessage),
    ("http_status_code", option word16 s.httpStatusCode),
    ("disable_rate_limit_headers", option bool s.disableHeaders),
    ("rate_limit_counter_prefix", option text s.counterPrefix),
    ("route_keys", list text s.routeKeys)]

def qos (s : QosSection) : Value :=
  .named [
    ("exceptions_allowed_before_breaking", option word32 s.exceptionsAllowedBeforeBreaking),
    ("duration_of_break_ms", option word64 s.durationOfBreakMillis),
    ("timeout_ms", option word64 s.timeoutMillis),
    ("sampling_duration_ms", option word64 s.samplingDurationMillis),
    ("failure_ratio", option double s.failureRatio)]

def httpHandler (s : HttpHandlerSection) : Value :=
  .named [
    ("allow_auto_redirect", option bool s.allowAutoRedirect),
    ("use_cookie_container", option bool s.useCookieContainer),
    ("use_tracing", option bool s.useTracing),
    ("use_proxy", option bool s.useProxy),
    ("max_connections_per_server", option word64 s.maxConnectionsPerServer),
    ("pooled_connection_lifetime_seconds", option word64 s.pooledConnectionLifetimeSeconds)]

def security (s : SecuritySection) : Value :=
  .named [
    ("ip_allowed_list", list text s.allowedList),
    ("ip_blocked_list", list text s.blockedList),
    ("exclude_allowed_from_blocked", .bool s.excludeAllowedFromBlocked)]

def provider (s : ProviderSection) : Value :=
  .named [
    ("type", text s.type),
    ("host", option text s.host),
    ("port", option word16 s.port),
    ("namespace", option text s.serviceNamespace),
    ("scheme", option text s.scheme)]

def route (s : RouteSection) : Value :=
  .named [
    ("downstream_path_template", text s.downstreamPathTemplate),
    ("downstream_scheme", option text s.downstreamScheme),
    ("downstream_hosts", list hostReference s.downstreamHosts),
    ("downstream_http_method", option text s.downstreamHttpMethod),
    ("downstream_http_version", option text s.downstreamHttpVersion),
    ("downstream_http_version_policy", option versionPolicy s.downstreamVersionPolicy),
    ("upstream_path_template", text s.upstreamPathTemplate),
    ("upstream_http_method", list text s.upstreamMethods),
    ("upstream_host", option text s.upstreamHost),
    ("upstream_header_templates", dictionary text s.headerTemplates),
    ("upstream_header_trigger", headerTrigger s.headerTrigger),
    ("route_is_case_sensitive", .bool s.caseSensitive),
    ("key", option text s.key),
    ("service_name", option text s.serviceName),
    ("service_namespace", option text s.serviceNamespace),
    ("authentication_options", option authentication s.authentication),
    ("add_headers_to_request", dictionary text s.addHeaders),
    ("add_claims_to_request", dictionary text s.addClaims),
    ("add_queries_to_request", dictionary text s.addQueries),
    ("change_downstream_path_template", dictionary text s.changeDownstreamPath),
    ("route_claims_requirement", dictionary text s.claimsRequirement),
    ("cache_options", option cache s.cache),
    ("load_balancer_options", option loadBalancer s.loadBalancer),
    ("rate_limit_options", option rateLimit s.rateLimit),
    ("qos_options", option qos s.qos),
    ("http_handler_options", option httpHandler s.httpHandler),
    ("upstream_header_transform", dictionary text s.upstreamHeaderTransform),
    ("downstream_header_transform", dictionary text s.downstreamHeaderTransform),
    ("delegating_handlers", list text s.delegatingHandlers),
    ("security_options", option security s.security),
    ("metadata", dictionary text s.metadata),
    ("request_id_key", option text s.requestIdKey),
    ("timeout", option word64 s.timeout),
    ("dangerous_accept_any_server_certificate", .bool s.acceptAnyServerCertificate)]

def dynamic (s : DynamicSection) : Value :=
  .named [
    ("service_name", text s.serviceName),
    ("service_namespace", option text s.serviceNamespace),
    ("downstream_scheme", option text s.downstreamScheme),
    ("downstream_http_version", option text s.downstreamHttpVersion),
    ("downstream_http_version_policy", option versionPolicy s.downstreamVersionPolicy),
    ("rate_limit_options", option rateLimit s.rateLimit),
    ("load_balancer_options", option loadBalancer s.loadBalancer),
    ("cache_options", option cache s.cache),
    ("qos_options", option qos s.qos),
    ("authentication_options", option authentication s.authentication),
    ("http_handler_options", option httpHandler s.httpHandler),
    ("metadata", dictionary text s.metadata),
    ("timeout", option word64 s.timeout)]

def aggregate (s : AggregateSection) : Value :=
  .named [
    ("route_keys", list text s.routeKeys),
    ("upstream_path_template", text s.upstreamPathTemplate),
    ("upstream_host", option text s.upstreamHost),
    ("upstream_http_method", list text s.upstreamMethods),
    ("upstream_header_templates", dictionary text s.headerTemplates),
    ("upstream_header_trigger", headerTrigger s.headerTrigger),
    ("route_is_case_sensitive", .bool s.caseSensitive),
    ("aggregator", option text s.aggregator)]

def global (s : GlobalSection) : Value :=
  .named [
    ("base_url", option text s.baseUrl),
    ("downstream_scheme", option text s.downstreamScheme),
    ("downstream_http_version", option text s.downstreamHttpVersion),
    ("downstream_http_version_policy", option versionPolicy s.downstreamVersionPolicy),
    ("hosts", dictionary hostAndPort s.hosts),
    ("request_id_key", option text s.requestIdKey),
    ("service_discovery_provider", option provider s.provider),
    ("timeout", option word64 s.timeout),
    ("authentication_options", option authentication s.authentication),
    ("cache_options", option cache s.cache),
    ("load_balancer_options", option loadBalancer s.loadBalancer),
    ("rate_limit_options", option rateLimit s.rateLimit),
    ("qos_options", option qos s.qos),
    ("http_handler_options", option httpHandler s.httpHandler),
    ("security_options", option security s.security),
    ("upstream_header_transform", dictionary text s.upstreamHeaderTransform),
    ("downstream_header_transform", dictionary text s.downstreamHeaderTransform),
    ("metadata", dictionary text s.metadata)]

def configuration (s : Configuration) : Value :=
  .named [
    ("routes", list route s.routes),
    ("dynamic_routes", list dynamic s.dynamicRoutes),
    ("aggregates", list aggregate s.aggregates),
    ("global", global s.global)]

end Encode

end GatewayRouting
