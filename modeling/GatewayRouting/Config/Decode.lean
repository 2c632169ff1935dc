import GatewayRouting.Config.Section
import GatewayRouting.Document.Decode

/-!
Reading configurations from documents. The names of a section stand in the order in which a list in its
place gives them.
-/

namespace GatewayRouting.Decode

def period : Reader Period := fun v => (Period.ofValue v).toOption

def headerTriggerNames : List (String × HeaderTrigger) := [("any", .any), ("all", .all)]

def headerTrigger : Reader HeaderTrigger := choice headerTriggerNames

def versionPolicyNames : List (String × VersionPolicy) :=
  [("request_version_or_lower", .orLower), ("request_version_or_higher", .orHigher),
   ("request_version_exact", .exact)]

def versionPolicy : Reader VersionPolicy := choice versionPolicyNames

def loadBalancerTypeNames : List (String × LoadBalancerType) :=
  [("no_load_balancer", .none), ("round_robin", .roundRobin), ("least_connection", .leastConnection),
   ("cookie_sticky_sessions", .cookieStickySessions)]

def loadBalancerType : Reader LoadBalancerType := choice loadBalancerTypeNames

def hostAndPortNames : List String :=
  ["host", "port"]

def hostAndPort : Reader HostAndPort := fun v => do
  let fs ← fields hostAndPortNames v
  return {
    host := ← required text fs "host"
    port := ← required word16 fs "port" }

/-- A host section or a name. -/
def hostReference : Reader HostReference := fun v => do
  match ← settled v with
  | .text name => some (.named name)
  | v => (hostAndPort v).map .inline

def authenticationNames : List String :=
  ["authentication_provider_key", "authentication_provider_keys", "allowed_scopes", "allow_anonymous"]

def authentication : Reader AuthenticationSection := fun v => do
  let fs ← fields authenticationNames v
  return {
    providerKey := ← optional text fs "authentication_provider_key"
    providerKeys := ← withDefault [] (list text) fs "authentication_provider_keys"
    allowedScopes := ← withDefault [] (list text) fs "allowed_scopes"
    allowAnonymous := ← optional bool fs "allow_anonymous" }

def cacheNames : List String :=
  ["ttl_seconds", "region", "header", "enable_content_hashing"]

def cache : Reader CacheSection := fun v => do
  let fs ← fields cacheNames v
  return {
    ttlSeconds := ← optional word64 fs "ttl_seconds"
    region := ← optional text fs "region"
    header := ← optional text fs "header"
    enableContentHashing := ← optional bool fs "enable_content_hashing" }

def loadBalancerNames : List String :=
  ["type", "key", "expiry_ms"]

def loadBalancer : Reader LoadBalancerSection := fun v => do
  let fs ← fields loadBalancerNames v
  return {
    type := ← optional loadBalancerType fs "type"
    key := ← optional text fs "key"
    expiryMillis := ← optional word64 fs "expiry_ms" }

def rateLimitNames : List String :=
  ["enable_rate_limiting", "client_whitelist", "period", "period_timespan", "limit", "client_id_header",
   "quota_exceeded_message", "http_status_code", "disable_rate_limit_headers",
   "rate_limit_counter_prefix", "route_keys"]

def rateLimit : Reader RateLimitSection := fun v => do
  let fs ← fields rateLimitNames v
  return {
    enabled := ← optional bool fs "enable_rate_limiting"
    clientWhitelist := ← optional (list text) fs "client_whitelist"
    period := ← optional period fs "period"
    periodTimespan := ← optional double fs "period_timespan"
    limit := ← optional word64 fs "limit"
    clientIdHeader := ← optional text fs "client_id_header"
    quotaExceededMessage := ← optional text fs "quota_exceeded_message"
    httpStatusCode := ← optional word16 fs "http_status_code"
    disableHeaders := ← optional bool fs "disable_rate_limit_headers"
    counterPrefix := ← optional text fs "rate_limit_counter_prefix"
    routeKeys := ← withDefault [] (list text) fs "route_keys" }

def qosNames : List String :=
  ["exceptions_allowed_before_breaking", "duration_of_break_ms", "timeout_ms", "sampling_duration_ms",
   "failure_ratio"]

def qos : Reader QosSection := fun v => do
  let fs ← fields qosNames v
  return {
    exceptionsAllowedBeforeBreaking := ← optional word32 fs "exceptions_allowed_before_breaking"
    durationOfBreakMillis := ← optional word64 fs "duration_of_break_ms"
    timeoutMillis := ← optional word64 fs "timeout_ms"
    samplingDurationMillis := ← optional word64 fs "sampling_duration_ms"
    failureRatio := ← optional double fs "failure_ratio" }

def httpHandlerNames : List String :=
  ["allow_auto_redirect", "use_cookie_container", "use_tracing", "use_proxy",
   "max_connections_per_server", "pooled_connection_lifetime_seconds"]

def httpHandler : Reader HttpHandlerSection := fun v => do
  let fs ← fields httpHandlerNames v
  return {
    allowAutoRedirect := ← optional bool fs "allow_auto_redirect"
    useCookieContainer := ← optional bool fs "use_cookie_container"
    useTracing := ← optional bool fs "use_tracing"
    useProxy := ← optional bool fs "use_proxy"
    maxConnectionsPerServer := ← optional word64 fs "max_connections_per_server"
    pooledConnectionLifetimeSeconds := ← optional word64 fs "pooled_connection_lifetime_seconds" }

def securityNames : List String :=
  ["ip_allowed_list", "ip_blocked_list", "exclude_allowed_from_blocked"]

def security : Reader SecuritySection := fun v => do
  let fs ← fields securityNames v
  return {
    allowedList := ← withDefault [] (list text) fs "ip_allowed_list"
    blockedList := ← withDefault [] (list text) fs "ip_blocked_list"
    excludeAllowedFromBlocked := ← withDefault false bool fs "exclude_allowed_from_blocked" }

def providerNames : List String :=
  ["type", "host", "port", "namespace", "scheme"]

def provider : Reader ProviderSection := fun v => do
  let fs ← fields providerNames v
  return {
    type := ← required text fs "type"
    host := ← optional text fs "host"
    port := ← optional word16 fs "port"
    serviceNamespace := ← optional text fs "namespace"
    scheme := ← optional text fs "scheme" }

def routeNames : List String :=
  ["downstream_path_template", "downstream_scheme", "downstream_hosts", "downstream_http_method",
   "downstream_http_version", "downstream_http_version_policy", "upstream_path_template",
   "upstream_http_method", "upstream_host", "upstream_header_templates", "upstream_header_trigger",
   "route_is_case_sensitive", "key", "service_name", "service_namespace", "authentication_options",
   "add_headers_to_request", "add_claims_to_request", "add_queries_to_request",
   "change_downstream_path_template", "route_claims_requirement", "cache_options",
   "load_balancer_options", "rate_limit_options", "qos_options", "http_handler_options",
   "upstream_header_transform", "downstream_header_transform", "delegating_handlers",
   "security_options", "metadata", "request_id_key", "timeout", "dangerous_accept_any_server_certificate"]

def route : Reader RouteSection := fun v => do
  let fs ← fields routeNames v
  return {
    downstreamPathTemplate := ← required text fs "downstream_path_template"
    downstreamScheme := ← optional text fs "downstream_scheme"
    downstreamHosts := ← withDefault [] (list hostReference) fs "downstream_hosts"
    downstreamHttpMethod := ← optional text fs "downstream_http_method"
    downstreamHttpVersion := ← optional text fs "downstream_http_version"
    downstreamVersionPolicy := ← optional versionPolicy fs "downstream_http_version_policy"
    upstreamPathTemplate := ← required text fs "upstream_path_template"
    upstreamMethods := ← withDefault [] (list text) fs "upstream_http_method"
    upstreamHost := ← optional text fs "upstream_host"
    headerTemplates := ← withDefault .empty (dictionary text) fs "upstream_header_templates"
    headerTrigger := ← withDefault .all headerTrigger fs "upstream_header_trigger"
    caseSensitive := ← withDefault false bool fs "route_is_case_sensitive"
    key := ← optional text fs "key"
    serviceName := ← optional text fs "service_name"
    serviceNamespace := ← optional text fs "service_namespace"
    authentication := ← optional authentication fs "authentication_options"
    addHeaders := ← withDefault .empty (dictionary text) fs "add_headers_to_request"
    addClaims := ← withDefault .empty (dictionary text) fs "add_claims_to_request"
    addQueries := ← withDefault .empty (dictionary text) fs "add_queries_to_request"
    changeDownstreamPath := ← withDefault .empty (dictionary text) fs "change_downstream_path_template"
    claimsRequirement := ← withDefault .empty (dictionary text) fs "route_claims_requirement"
    cache := ← optional cache fs "cache_options"
    loadBalancer := ← optional loadBalancer fs "load_balancer_options"
    rateLimit := ← optional rateLimit fs "rate_limit_options"
    qos := ← optional qos fs "qos_options"
    httpHandler := ← optional httpHandler fs "http_handler_options"
    upstreamHeaderTransform := ← withDefault .empty (dictionary text) fs "upstream_header_transform"
    downstreamHeaderTransform := ← withDefault .empty (dictionary text) fs "downstream_header_transform"
    delegatingHandlers := ← withDefault [] (list text) fs "delegating_handlers"
    security := ← optional security fs "security_options"
    metadata := ← withDefault .empty (dictionary text) fs "metadata"
    requestIdKey := ← optional text fs "request_id_key"
    timeout := ← optional word64 fs "timeout"
    acceptAnyServerCertificate := ← withDefault false bool fs "dangerous_accept_any_server_certificate" }

def dynamicNames : List String :=
  ["service_name", "service_namespace", "downstream_scheme", "downstream_http_version",
   "downstream_http_version_policy", "rate_limit_options", "load_balancer_options", "cache_options",
   "qos_options", "authentication_options", "http_handler_options", "metadata", "timeout"]

def dynamic : Reader DynamicSection := fun v => do
  let fs ← fields dynamicNames v
  return {
    serviceName := ← required text fs "service_name"
    serviceNamespace := ← optional text fs "service_namespace"
    downstreamScheme := ← optional text fs "downstream_scheme"
    downstreamHttpVersion := ← optional text fs "downstream_http_version"
    downstreamVersionPolicy := ← optional versionPolicy fs "downstream_http_version_policy"
    rateLimit := ← optional rateLimit fs "rate_limit_options"
    loadBalancer := ← optional loadBalancer fs "load_balancer_options"
    cache := ← optional cache fs "cache_options"
    qos := ← optional qos fs "qos_options"
    authentication := ← optional authentication fs "authentication_options"
    httpHandler := ← optional httpHandler fs "http_handler_options"
    metadata := ← withDefault .empty (dictionary text) fs "metadata"
    timeout := ← optional word64 fs "timeout" }

def aggregateNames : List String :=
  ["route_keys", "upstream_path_template", "upstream_host", "upstream_http_method",
   "upstream_header_templates", "upstream_header_trigger", "route_is_case_sensitive", "aggregator"]

def aggregate : Reader AggregateSection := fun v => do
  let fs ← fields aggregateNames v
  return {
    routeKeys := ← required (list text) fs "route_keys"
    upstreamPathTemplate := ← required text fs "upstream_path_template"
    upstreamHost := ← optional text fs "upstream_host"
    upstreamMethods := ← withDefault ["GET"] (list text) fs "upstream_http_method"
    headerTemplates := ← withDefault .empty (dictionary text) fs "upstream_header_templates"
    headerTrigger := ← withDefault .all headerTrigger fs "upstream_header_trigger"
    caseSensitive := ← withDefault false bool fs "route_is_case_sensitive"
    aggregator := ← optional text fs "aggregator" }

def globalNames : List String :=
  ["base_url", "downstream_scheme", "downstream_http_version", "downstream_http_version_policy",
   "hosts", "request_id_key", "service_discovery_provider", "timeout", "authentication_options",
   "cache_options", "load_balancer_options", "rate_limit_options", "qos_options",
   "http_handler_options", "security_options", "upstream_header_transform",
   "downstream_header_transform", "metadata"]

def global : Reader GlobalSection := fun v => do
  let fs ← fields globalNames v
  return {
    baseUrl := ← optional text fs "base_url"
    downstreamScheme := ← optional text fs "downstream_scheme"
    downstreamHttpVersion := ← optional text fs "downstream_http_version"
    downstreamVersionPolicy := ← optional versionPolicy fs "downstream_http_version_policy"
    hosts := ← withDefault .empty (dictionary hostAndPort) fs "hosts"
    requestIdKey := ← optional text fs "request_id_key"
    provider := ← optional provider fs "service_discovery_provider"
    timeout := ← optional word64 fs "timeout"
    authentication := ← optional authentication fs "authentication_options"
    cache := ← optional cache fs "cache_options"
    loadBalancer := ← optional loadBalancer fs "load_balancer_options"
    rateLimit := ← optional rateLimit fs "rate_limit_options"
    qos := ← optional qos fs "qos_options"
    httpHandler := ← optional httpHandler fs "http_handler_options"
    security := ← optional security fs "security_options"
    upstreamHeaderTransform := ← withDefault .empty (dictionary text) fs "upstream_header_transform"
    downstreamHeaderTransform := ← withDefault .empty (dictionary text) fs "downstream_header_transform"
    metadata := ← withDefault .empty (dictionary text) fs "metadata" }

def configurationNames : List String :=
  ["routes", "dynamic_routes", "aggregates", "global"]

def configuration : Reader Configuration := fun v => do
  let fs ← fields configurationNames v
  return {
    routes := ← withDefault [] (list route) fs "routes"
    dynamicRoutes := ← withDefault [] (list dynamic) fs "dynamic_routes"
    aggregates := ← withDefault [] (list aggregate) fs "aggregates"
    global := ← withDefault {} global fs "global" }

end GatewayRouting.Decode
