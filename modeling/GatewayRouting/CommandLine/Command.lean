import GatewayRouting.Address.Socket
import GatewayRouting.Gateway

/-!
The command: it loads a configuration, and then checks it, resolves one request, or lists the routes.
What it does depends on its options and the text of the configuration file alone.
-/

namespace GatewayRouting

/-- The options of the command. -/
structure CommandOptions where
  /-- The configuration file. -/
  config : String := "config.yaml"
  /-- Whether the lines for debugging are shown. -/
  debug : Bool := false
  /-- Whether log lines are written as JSON. -/
  logJson : Bool := false
  /-- Whether the configuration is checked only. -/
  validate : Bool := false
  /-- A request to resolve: its method and its path. -/
  resolve : Option String := none
  /-- The host of that request. -/
  host : Option String := none
  /-- The headers of that request, as name and value with a colon between. -/
  headers : List String := []
  /-- The address at which counters are served. -/
  metricsAddress : Option String := none
  capabilities : Capabilities := {}
  cacheCapacity : Nat := 10000
deriving DecidableEq, Inhabited

/-- Why the command fails. -/
inductive CommandError where
  | start (error : StartError)
  | headerWithoutColon (entry : String)
  | headerName (entry : String)
  | headerValue (entry : String)
  | requestForm (text : String)
  | requestMethod (method : String)
deriving DecidableEq, Inhabited

namespace CommandError

def message : CommandError → String
  | start (.load e) => e.message
  | start (.build e) => e.message
  | headerWithoutColon entry => "Header '" ++ entry ++ "' is not in name:value form"
  | headerName entry => "Invalid header name in '" ++ entry ++ "'"
  | headerValue entry => "Invalid header value in '" ++ entry ++ "'"
  | requestForm text => "Expected \x22<METHOD> <path>\x22, got '" ++ text ++ "'"
  | requestMethod method => "Invalid method '" ++ method ++ "'"

/-- What lies behind the fault, the nearest cause first. -/
def causes : CommandError → List String
  | start (.build e) => e.causes
  | headerName _ => [RequestError.message .invalidHeaderName]
  | headerValue _ => [RequestError.message .invalidHeaderValue]
  | requestMethod _ => [RequestError.message .invalidMethod]
  | _ => []

end CommandError

namespace CommandLine

/-- A header written with a colon between name and value. -/
def parseHeader (entry : String) : Except CommandError Header :=
  match Text.splitOnce ':' entry.toList with
  | none => .error (.headerWithoutColon entry)
  | some (name, value) =>
    match Header.parse (String.ofList (Text.trim name)) (String.ofList (Text.trim value)) with
    | .ok header => .ok header
    | .error .invalidHeaderName => .error (.headerName entry)
    | .error _ => .error (.headerValue entry)

def parseHeaders : List String → Except CommandError (List Header)
  | [] => .ok []
  | entry :: rest => do
    let header ← parseHeader entry
    let others ← parseHeaders rest
    .ok (header :: others)

/-- A request written as a method, a space and a path with perhaps a query. The method may be in any case. -/
def parseRequest (text : String) (host : Option String) (headers : List Header) : Except CommandError Request :=
  match Text.splitOnce ' ' (Text.trim text.toList) with
  | none => .error (.requestForm text)
  | some (name, target) =>
    match Method.parse? (Text.upperAscii (String.ofList name)) with
    | none => .error (.requestMethod (String.ofList name))
    | some method =>
      let target := Text.trim target
      match Text.splitOnce '?' target with
      | some (path, query) =>
        .ok { method, path := String.ofList path, query := some (String.ofList query), host, headers }
      | none => .ok { method, path := String.ofList target, query := none, host, headers }

/-- Where a route leads to. -/
def describeTarget (r : Resolved) : Value :=
  match r.route.target with
  | .single (.hosts scheme hosts) =>
    .named [("hosts", Encode.list (fun h => .text h.toText) hosts), ("scheme", .text scheme)]
  | .single (.service ..) =>
    let service := r.service?
    .named [
      ("scheme", Encode.option Encode.text (service.map (·.scheme))),
      ("service_name", Encode.option Encode.text (service.map (·.name))),
      ("service_namespace", Encode.option Encode.text (service.bind (·.serviceNamespace)))]
  | .aggregate routes aggregator =>
    .named [
      ("aggregator", Encode.option Encode.text aggregator),
      ("routes", Encode.list (fun r => .text r.displayName) routes)]

/-- What becomes of a request, as a document. Of two captures of one name the later counts. -/
def describe (request : Request) : Resolution → Value
  | .notFound => .named [("outcome", .text (Resolution.outcome .notFound))]
  | .matched r =>
    .named [
      ("downstream", .text (r.url request.path request.query).pathAndQuery),
      ("downstream_method", .text (r.route.downstream.method.getD request.method).name),
      ("load_balancer_key", .text r.route.identityKey),
      ("outcome", .text (Resolution.outcome (.matched r))),
      ("placeholders", Encode.dictionary .text (.ofList (r.captures.map fun c => (c.name, c.value)))),
      ("priority", .int r.route.priority),
      ("route", .text r.route.displayName),
      ("target", describeTarget r)]

/-- What becomes of the request that the options ask about. -/
def answer (o : CommandOptions) (state : RoutingState) (text : String) : Except CommandError Value := do
  let headers ← parseHeaders o.headers
  let request ← parseRequest text o.host headers
  .ok (describe request (state.resolve request).1)

/-- A candidate in a listing. -/
def listing (c : Candidate) : String :=
  c.upstream.template.raw ++ " [priority " ++ toString c.priority ++ "] -> " ++ c.downstream.pathTemplate

def listAll : List Candidate → Logged Unit
  | [] => pure ()
  | c :: rest => do
    Logged.info (listing c)
    listAll rest

/-- Announces that counters are served. A bad address is no reason to stop. -/
def announceMetrics (address : String) : Logged Unit := do
  Logged.info ("Starting Prometheus metrics server on " ++ address)
  if (SocketAddress.parse? address).isNone then
    Logged.warn "Failed to start metrics server: invalid socket address syntax. Continuing without metrics."

/-- What the command does once its gateway has started. -/
def proceed (o : CommandOptions) (g : Gateway) : Logged (Except CommandError (Option Value)) := do
  if o.validate then
    Logged.info ("Configuration is valid (" ++ toString g.state.table.size ++ " routes)")
    pure (.ok none)
  else
    if let some address := o.metricsAddress then announceMetrics address
    match o.resolve with
    | some text => pure ((answer o g.state text).map some)
    | none =>
      listAll g.state.table.candidates
      pure (.ok none)

/-- What the command does, given the text of the configuration file if it can be read. -/
def run (o : CommandOptions) (text : Option String) : Logged (Except CommandError (Option Value)) := do
  match ← Gateway.start o.config text o.capabilities o.cacheCapacity with
  | .error e => pure (.error (.start e))
  | .ok g => proceed o g

/-- Whether a log line is shown. -/
def isShown (o : CommandOptions) (entry : LogEntry) : Bool := o.debug || entry.level != .debug

end CommandLine

end GatewayRouting
