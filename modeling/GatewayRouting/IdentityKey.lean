import GatewayRouting.Config.Encode
import GatewayRouting.Options.LoadBalancer
import GatewayRouting.Text.Ascii

/-!
Identity keys: routes of one key share load balancing state and circuits.
-/

namespace GatewayRouting

namespace HostAndPort

def toText (h : HostAndPort) : String := h.host ++ ":" ++ toString h.port.toNat

end HostAndPort

namespace IdentityKey

/-- What tells one static route from another. -/
structure Parts where
  upstreamTemplate : String
  methods : List String
  upstreamHost : Option String
  hosts : List HostAndPort
  serviceNamespace : Option String
  serviceName : Option String
  loadBalancer : LoadBalancerOptions
deriving DecidableEq

/-- A text, or a marker for one that is missing or empty. -/
def orMarker (text : Option String) (marker : String) : String := (text.filter (· ≠ "")).getD marker

/-- Sticky routes are told apart by their cookie alone. -/
def sticky? (o : LoadBalancerOptions) : Option String :=
  if o.isSticky then o.key.map ("CookieStickySessions:" ++ ·) else none

/-- The text put into its place in a sorted list, unless it is there. -/
def putText (text : String) : List String → List String
  | [] => [text]
  | t :: rest =>
    if text < t then text :: t :: rest else if text = t then t :: rest else t :: putText text rest

/-- The methods in upper case, sorted and without repetitions. -/
def methodSet (methods : List String) : List String :=
  methods.foldr (fun m sorted => putText (Text.upperAscii m) sorted) []

def hostsText (hosts : List HostAndPort) : String :=
  if hosts.isEmpty then "no-host-and-port" else ",".intercalate (hosts.map (·.toText))

/-- The key of a static route. -/
def ofParts (p : Parts) : String :=
  (sticky? p.loadBalancer).getD
    ("|".intercalate
      [p.upstreamTemplate, ",".intercalate (methodSet p.methods), orMarker p.upstreamHost "no-host",
       hostsText p.hosts, orMarker p.serviceNamespace "no-svc-ns", orMarker p.serviceName "no-svc-name",
       p.loadBalancer.type.name, orMarker p.loadBalancer.key "no-lb-key"])

/-- The service's name after its namespace. -/
def qualified (serviceNamespace : Option String) (serviceName : String) : String :=
  match serviceNamespace.filter (· ≠ "") with
  | some ns => ns ++ "." ++ serviceName
  | none => serviceName

/-- The key of a route to a service that is looked up: of its cookie, else its own, else of the service. -/
def ofService (serviceNamespace : Option String) (serviceName : String) (o : LoadBalancerOptions) : String :=
  match sticky? o, o.namedKey? with
  | some key, _ => key
  | none, some key => key
  | none, none => qualified serviceNamespace serviceName

end IdentityKey

end GatewayRouting
