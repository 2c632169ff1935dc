import GatewayRouting.Route.Basic

/-!
Making routes of sections: what can go wrong, and the parts that every kind of route shares.
-/

namespace GatewayRouting

inductive AssemblyError where
  | template (route : String) (cause : TemplateError)
  | invalidMethod (route method : String)
  | unknownRouteKeys (aggregate : String) (missing : List String)
deriving DecidableEq, Inhabited

namespace AssemblyError

def message : AssemblyError → String
  | template route cause => "Invalid template for route '" ++ route ++ "': " ++ cause.message
  | invalidMethod route method => "Invalid HTTP method '" ++ method ++ "' for route '" ++ route ++ "'"
  | unknownRouteKeys aggregate missing =>
    "Aggregate '" ++ aggregate ++ "' references unknown route keys: " ++ ", ".intercalate missing

/-- What lies behind the fault. -/
def causes : AssemblyError → List String
  | template _ cause => [cause.message]
  | _ => []

end AssemblyError

/-- Making something of a configuration, with log lines and perhaps a fault. -/
abbrev Assembly (α : Type) := ExceptT AssemblyError Logged α

namespace Assembly

/-- A step that writes no log lines. -/
def ofExcept {α : Type} (x : Except AssemblyError α) : Assembly α := ExceptT.mk (pure x)

/-- Something made of every item, in order; the first fault ends it. -/
def each {α β : Type} (make : α → Assembly β) : List α → Assembly (List β)
  | [] => pure []
  | a :: rest => do
    let b ← make a
    let others ← each make rest
    pure (b :: others)

end Assembly

namespace Upstream

def compileTemplate (route template : String) (caseSensitive : Bool) : Except AssemblyError UpstreamTemplate :=
  (UpstreamTemplate.compile template caseSensitive).mapError (.template route)

def compileHeaders (route : String) (caseSensitive : Bool) :
    List (String × String) → Except AssemblyError (List HeaderTemplate)
  | [] => .ok []
  | (name, template) :: rest => do
    let first ← (HeaderTemplate.compile name template caseSensitive).mapError (.template route)
    let others ← compileHeaders route caseSensitive rest
    .ok (first :: others)

/-- A method in upper case, without blanks around it. -/
def parseMethod (route method : String) : Except AssemblyError Method :=
  match Method.parse? (Text.upperAscii (Text.trimmed method)) with
  | some m => .ok m
  | none => .error (.invalidMethod route method)

/-- The methods of a list after those seen, without repetitions. -/
def parseMethodsAfter (route : String) (seen : List Method) : List String → Except AssemblyError (List Method)
  | [] => .ok []
  | method :: rest => do
    let m ← parseMethod route method
    if seen.contains m then parseMethodsAfter route seen rest
    else
      let others ← parseMethodsAfter route (m :: seen) rest
      .ok (m :: others)

def parseMethods (route : String) (methods : List String) : Except AssemblyError (List Method) :=
  parseMethodsAfter route [] methods

end Upstream

/-- The scheme of a route: its own, else the global one, else `http`. -/
def settledScheme (own : Option String) (global : GlobalSection) : String :=
  (own <|> global.downstreamScheme).getD "http"

end GatewayRouting
