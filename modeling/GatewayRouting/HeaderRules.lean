import GatewayRouting.Dictionary
import GatewayRouting.Downstream.Substitution
import GatewayRouting.Log
import GatewayRouting.Text.Blank
import GatewayRouting.Text.Split

/-!
Rules for the headers of one direction of traffic, made from tables of transformations. The
gateway's base address is filled in at once, what is known of a request only when it comes.
-/

namespace GatewayRouting

/-- What is known of a request for placeholders in header values. -/
structure RuntimeValues where
  remoteIpAddress : Option String := none
  traceId : Option String := none
  upstreamHost : Option String := none
  downstreamBaseUrl : Option String := none
deriving DecidableEq, Inhabited

namespace RuntimeValues

/-- The placeholder names with their values, in the order in which they are filled in. -/
def named (r : RuntimeValues) : List (String × Option String) :=
  [("RemoteIpAddress", r.remoteIpAddress), ("TraceId", r.traceId), ("UpstreamHost", r.upstreamHost),
   ("DownstreamBaseUrl", r.downstreamBaseUrl)]

/-- The names that are filled in when a request comes. -/
def names : List String := (named {}).map Prod.fst

/-- A name between braces. -/
def braced (name : String) : String := "\x7b" ++ name ++ "\x7d"

/-- The value with one placeholder filled in, if its value is known. -/
def renderOne (text : String) (entry : String × Option String) : String :=
  match entry.2 with
  | some value => Text.replaced text (braced entry.1) value
  | none => text

/-- The value with every known placeholder filled in, one after the other. -/
def render (r : RuntimeValues) (text : String) : String := r.named.foldl renderOne text

end RuntimeValues

/-- Replaces a text in a header's value. -/
structure HeaderReplacement where
  header : String
  find : String
  replace : String
deriving DecidableEq, Inhabited

def HeaderReplacement.apply (rule : HeaderReplacement) (runtime : RuntimeValues) (value : String) : String :=
  Text.replaced value rule.find (runtime.render rule.replace)

/-- Adds a header. -/
structure HeaderAddition where
  header : String
  value : String
deriving DecidableEq, Inhabited

def HeaderAddition.render (rule : HeaderAddition) (runtime : RuntimeValues) : String := runtime.render rule.value

structure HeaderRules where
  replacements : List HeaderReplacement := []
  additions : List HeaderAddition := []
deriving DecidableEq, Inhabited

namespace HeaderRules

def isEmpty (rules : HeaderRules) : Bool := rules.replacements.isEmpty && rules.additions.isEmpty

/-- A base address without slashes at its end. -/
def withoutSlashes (url : String) : List Char := (url.toList.reverse.dropWhile (· == '/')).reverse

/-- The spans with the base address filled in, or the first name that nothing will fill in. -/
def resolveSpans (baseUrl : Option String) : List Span → Except String (List Char)
  | [] => .ok []
  | .text cs :: rest => (resolveSpans baseUrl rest).map (cs ++ ·)
  | .name cs :: rest =>
    if cs = "BaseUrl".toList then
      match baseUrl with
      | some url => (resolveSpans baseUrl rest).map (withoutSlashes url ++ ·)
      | none => .error "BaseUrl"
    else if RuntimeValues.names.contains (String.ofList cs) then
      (resolveSpans baseUrl rest).map ('\x7b' :: cs ++ '\x7d' :: ·)
    else .error (String.ofList cs)

def resolve (baseUrl : Option String) (value : List Char) : Except String String :=
  (resolveSpans baseUrl (Span.ofText value)).map String.ofList

/-- The rules of several entries, one after the other. -/
def append (a b : HeaderRules) : HeaderRules := ⟨a.replacements ++ b.replacements, a.additions ++ b.additions⟩

/-- The rule of one entry. A value with a comma says what to find and what to put in its place, any
other value is added. An entry with a name that nothing will fill in is left out with a warning. -/
def ofEntry (baseUrl : Option String) (header value : String) : Logged HeaderRules :=
  match Text.splitOnce ',' value.toList with
  | some (find, replace) =>
    match resolve baseUrl (Text.trim replace) with
    | .ok replace => pure { replacements := [⟨header, String.ofList (Text.trim find), replace⟩] }
    | .error name => do
      Logged.warn ("Unable to resolve placeholder '" ++ RuntimeValues.braced name ++
        "' in header transform for '" ++ header ++ "', skipping")
      pure {}
  | none =>
    match resolve baseUrl value.toList with
    | .ok value => pure { additions := [⟨header, value⟩] }
    | .error name => do
      Logged.warn ("Unable to resolve placeholder '" ++ RuntimeValues.braced name ++
        "' in added header '" ++ header ++ "', skipping")
      pure {}

def ofEntries (baseUrl : Option String) : List (String × String) → Logged HeaderRules
  | [] => pure {}
  | (header, value) :: rest => do
    let first ← ofEntry baseUrl header value
    let others ← ofEntries baseUrl rest
    pure (first.append others)

/-- The entries that apply: the route's, then the global ones for other headers. -/
def effective (route global : Dictionary String) : List (String × String) :=
  route.entries ++ global.entries.filter fun e => !route.keys.any fun name => Text.sameIgnoringCase name e.1

def ofTables (route global : Dictionary String) (baseUrl : Option String) : Logged HeaderRules :=
  ofEntries baseUrl (effective route global)

end HeaderRules

end GatewayRouting
