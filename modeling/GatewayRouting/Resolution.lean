import GatewayRouting.Downstream.Url
import GatewayRouting.Table

/-!
Choosing the route of a request: of the candidates that take it, the one of the highest rank, and of
several the one declared first.
-/

namespace GatewayRouting

namespace Host

/-- A host without its port. Brackets keep the colons of an address together. -/
def withoutPort (host : List Char) : List Char :=
  if host.head? == some '[' then
    match Text.splitOnce ']' host with
    | some (inside, _) => inside ++ [']']
    | none => host
  else
    match Text.splitLast ':' host with
    | some (name, port) =>
      if !name.contains ':' && (Text.naturalBelow (Nat.pow 2 16) port).isSome then name else host
    | none => host

/-- Whether a route's host takes a request's. A route's host without port takes any port. -/
def accepts (route request : String) : Bool :=
  Text.sameIgnoringCase route request ||
    (withoutPort route.toList == route.toList && Text.sameAscii (withoutPort request.toList) route.toList)

end Host

namespace HeaderTemplate

/-- The captures from the first value of the header that can be read and matches. -/
def captureFrom (t : HeaderTemplate) (request : Request) : Option (List Capture) :=
  (request.headerValues t.name).findSome? fun value =>
    if Header.isReadable value then t.captures value else none

end HeaderTemplate

namespace Upstream

/-- Whether the route takes requests to that host. -/
def allowsHost (u : Upstream) (host : Option String) : Bool :=
  match u.host, host with
  | none, _ => true
  | some route, some request => Host.accepts route request
  | some _, none => false

/-- The captures of the header templates that a request meets. It has to meet all of them or, if the
trigger says so, one. -/
def captureHeaders (u : Upstream) (request : Request) : Option (List Capture) :=
  let met := u.headerTemplates.filterMap (·.captureFrom request)
  let enough := match u.headerTrigger with
    | .all => met.length == u.headerTemplates.length
    | .any => u.headerTemplates.isEmpty || !met.isEmpty
  if enough then some met.flatten else none

/-- The captures from a request that the route takes: of the path, the query, then the headers. -/
def captures (u : Upstream) (request : Request) : Option (List Capture) :=
  if u.allowsMethod request.method && u.allowsHost request.host then do
    let fromTemplate ← u.template.captures request.path request.query
    let fromHeaders ← u.captureHeaders request
    some (fromTemplate ++ fromHeaders)
  else none

end Upstream

/-- What decides between routes that take the same request. -/
structure Rank where
  priority : Nat
  hostBound : Bool
deriving DecidableEq

namespace Rank

/-- The priority counts first, then whether the route is bound to a host. -/
def lower (a b : Rank) : Bool :=
  a.priority < b.priority || (a.priority == b.priority && !a.hostBound && b.hostBound)

end Rank

def RouteTo.rank (c : Candidate) : Rank := ⟨c.priority, c.upstream.host.isSome⟩

/-- The service to look up for a request. -/
structure ServiceLookup where
  serviceNamespace : Option String
  name : String
  scheme : String
deriving DecidableEq, Inhabited

/-- A candidate together with what it captured from the request. -/
structure Resolved where
  route : Candidate
  captures : List Capture
deriving DecidableEq

namespace Resolved

/-- The path and query to send the request on with. -/
def url (r : Resolved) (path : String) (query : Option String) : DownstreamUrl :=
  .build r.route.downstream.pathTemplate r.route.upstream.template r.captures path query

/-- A name with its namespace before the first point, unless the route gives one. -/
def splitService (scheme : String) (serviceNamespace : Option String) (name : List Char) : ServiceLookup :=
  match serviceNamespace, Text.splitOnce '.' name with
  | some ns, _ => ⟨some ns, String.ofList name, scheme⟩
  | none, some (ns, service) =>
    if ns.isEmpty || service.isEmpty then ⟨none, String.ofList name, scheme⟩
    else ⟨some (String.ofList ns), String.ofList service, scheme⟩
  | none, none => ⟨none, String.ofList name, scheme⟩

/-- The service that the request is sent to, if that is looked up. -/
def service? (r : Resolved) : Option ServiceLookup :=
  match r.route.target with
  | .single (.service scheme name ns) => some (splitService scheme ns (substitute name.toList r.captures))
  | _ => none

end Resolved

inductive Resolution where
  | matched (resolved : Resolved)
  | notFound
deriving DecidableEq

namespace Resolution

def outcome : Resolution → String
  | matched _ => "matched"
  | notFound => "not_found"

/-- Whether a route was found already that this one cannot outrank. -/
def holdsAgainst (c : Candidate) : Resolution → Bool
  | matched best => !best.route.rank.lower c.rank
  | notFound => false

/-- The better of what was found so far and a candidate. One that cannot be better is not matched at all. -/
def improve (request : Request) (best : Resolution) (c : Candidate) : Resolution :=
  if best.holdsAgainst c then best
  else match c.upstream.captures request with
    | some captures => matched ⟨c, captures⟩
    | none => best

end Resolution

/-- The resolution of a request. -/
def resolve (candidates : List Candidate) (request : Request) : Resolution :=
  candidates.foldl (Resolution.improve request) .notFound

def RouteTable.resolve (t : RouteTable) (request : Request) : Resolution :=
  GatewayRouting.resolve t.candidates request

end GatewayRouting
