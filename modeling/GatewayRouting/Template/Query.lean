import GatewayRouting.Capture
import GatewayRouting.Query
import GatewayRouting.Template.Token

/-!
What an upstream template demands of the query.
-/

namespace GatewayRouting

inductive DemandedValue where
  | literal (text : String)
  | placeholder (name : String)
deriving DecidableEq, Inhabited

/-- A parameter that has to be there. -/
structure Demand where
  key : String
  value : DemandedValue
deriving DecidableEq, Inhabited

inductive QueryTemplate where
  /-- Captures the whole query, also a missing one. -/
  | catchAll (name : String)
  /-- Every listed parameter has to be there, others may be. -/
  | demands (list : List Demand)
deriving DecidableEq, Inhabited

namespace QueryTemplate

def isBrace (c : Char) : Bool := c == '\x7b' || c == '\x7d'

def parseDemand (invalid : TemplateError) (item : List Char) : Except TemplateError Demand :=
  match Text.splitOnce '=' item with
  | none => .error invalid
  | some (key, value) =>
    if key.isEmpty || key.any isBrace then .error invalid
    else do
      match ← Token.tokenize .bare (String.ofList value) with
      | [] => .ok ⟨String.ofList key, .literal ""⟩
      | [.literal text] => .ok ⟨String.ofList key, .literal (String.ofList text)⟩
      | [.placeholder name] => .ok ⟨String.ofList key, .placeholder name⟩
      | _ => .error invalid

/-- The query part of a template. -/
def parse (template query : String) : Except TemplateError QueryTemplate := do
  match ← Token.tokenize .bare query with
  | [.placeholder name] => .ok (.catchAll name)
  | _ =>
    let list ← (Text.splitAll '&' query.toList).mapM (parseDemand (.invalidQuery template query))
    .ok (.demands list)

def names : QueryTemplate → List String
  | catchAll name => [name]
  | demands list => list.filterMap fun d => match d.value with
    | .placeholder name => some name
    | .literal _ => none

/-- What one demand captures. A literal is met by any parameter of the key that has that value; a
placeholder takes the first one, undecoded. -/
def captureDemand (parameters : List Parameter) (d : Demand) : Option (List Capture) :=
  let candidates := parameters.filter (·.hasKey d.key)
  match d.value with
  | .literal text => if candidates.any (·.decodedValue == text) then some [] else none
  | .placeholder name => candidates.head?.map fun p => [⟨name, p.value⟩]

def captureDemands (parameters : List Parameter) : List Demand → Option (List Capture)
  | [] => some []
  | d :: rest => do
    let first ← captureDemand parameters d
    let others ← captureDemands parameters rest
    some (first ++ others)

/-- The values captured from a query that meets the template. -/
def capture (query : Option String) : QueryTemplate → Option (List Capture)
  | catchAll name => some [⟨name, query.getD ""⟩]
  | demands list => captureDemands (Query.parameters (query.getD "")) list

end QueryTemplate

end GatewayRouting
