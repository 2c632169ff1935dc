import GatewayRouting.Downstream.Substitution
import GatewayRouting.Template.Upstream

/-!
The path and query that a matched request is sent on with.
-/

namespace GatewayRouting

structure DownstreamUrl where
  path : String
  query : Option String
deriving DecidableEq, Inhabited

namespace DownstreamUrl

def pathAndQuery (url : DownstreamUrl) : String :=
  match url.query with
  | some query => url.path ++ "?" ++ query
  | none => url.path

/-- The path made from a template: never empty, and without a slash at its end unless the request has one. -/
def pathFrom (template : List Char) (captures : List Capture) (requestPath : String) : List Char :=
  let filled := substitute template captures
  let path := if filled.isEmpty then ['/'] else filled
  if 1 < path.length && path.getLast? == some '/' && requestPath.toList.getLast? != some '/' then path.dropLast
  else path

/-- Whether a downstream template names this placeholder. -/
def uses (names : List (List Char)) (name : String) : Bool :=
  names.any fun used => Text.sameAscii used name.toList

/-- Whether a demand captured the parameters of this one's key for use downstream. -/
def consumes (names : List (List Char)) (p : Parameter) (d : Demand) : Bool :=
  match d.value with
  | .placeholder name => uses names name && p.hasKey d.key
  | .literal _ => false

/-- The request parameters that are passed on as they are. -/
def forwarded (names : List (List Char)) (query : Option QueryTemplate) (parameters : List Parameter) :
    List Parameter :=
  match query with
  | some (.catchAll name) => if uses names name then [] else parameters
  | some (.demands list) => parameters.filter fun p => !list.any (consumes names p)
  | none => parameters

/-- The texts between the `&` of the query that the template makes. -/
def produced (template : Option (List Char)) (captures : List Capture) : List (List Char) :=
  match template with
  | some query => Query.segments (substitute query captures)
  | none => []

/-- Parameters joined by `&`; a query without any is absent. -/
def joined (segments : List (List Char)) : Option String :=
  if segments.isEmpty then none else some (String.ofList (['&'].intercalate segments))

/-- The address for a request that the upstream template matched. Parameters that it captured and the
downstream template uses are consumed; the others follow those that the template makes. -/
def build (downstream : String) (upstream : UpstreamTemplate) (captures : List Capture)
    (requestPath : String) (requestQuery : Option String) : DownstreamUrl :=
  let (path, query) := match Text.splitOnce '?' downstream.toList with
    | some (path, query) => (path, some query)
    | none => (downstream.toList, none)
  let names := templateNames downstream.toList
  let kept := forwarded names upstream.query (Query.parameters (requestQuery.getD ""))
  { path := String.ofList (pathFrom path captures requestPath)
    query := joined (produced query captures ++ kept.map Parameter.toText) }

end DownstreamUrl

end GatewayRouting
