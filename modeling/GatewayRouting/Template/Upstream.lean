import GatewayRouting.Template.Pattern
import GatewayRouting.Template.Query

/-!
Upstream templates: which paths and queries a route answers to, and how specific that is.
-/

namespace GatewayRouting

/-- The shape of a path template, from the least to the most specific. -/
inductive TemplateKind where
  | wholePath
  | root
  | catchAll
  | segmented
  | literal
deriving DecidableEq, Inhabited

def TemplateKind.priority : TemplateKind → Nat
  | wholePath => 0
  | root => 1
  | catchAll => 2
  | segmented => 3
  | literal => 4

structure UpstreamTemplate where
  raw : String
  pieces : List Piece
  kind : TemplateKind
  caseSensitive : Bool
  /-- The placeholder names of the path. -/
  pathNames : List String
  query : Option QueryTemplate
deriving DecidableEq

namespace UpstreamTemplate

def endsInSlash (text : List Char) : Bool := text.getLast? == some '/'
def startsWithSlash (text : List Char) : Bool := text.head? == some '/'

/-- The piece of a placeholder, from what stands before and after it. -/
def placeholderPiece (before : Option Token) : List Token → Piece
  | .literal text :: _ => if startsWithSlash text then .segment else .shortSegment
  | .placeholder _ :: _ => .shortSegment
  | [] =>
    match before with
    | some (.literal text) => if endsInSlash text then .optionalTail else .anything
    | _ => .anything

/-- The pieces of a literal, from what stands after it. A slash before the last placeholder belongs to
the piece of that placeholder; a slash at the end of a path may be missing. -/
def literalPieces (text : List Char) : List Token → List Piece
  | [] => [.literal (if endsInSlash text then text.dropLast else text), .slash]
  | [.placeholder _] => [.literal (if endsInSlash text then text.dropLast else text)]
  | _ => [.literal text]

/-- The pieces of tokens that follow the given one. -/
def piecesAfter : Option Token → List Token → List Piece
  | _, [] => []
  | _, .literal text :: rest => literalPieces text rest ++ piecesAfter (some (.literal text)) rest
  | before, .placeholder name :: rest =>
    placeholderPiece before rest :: piecesAfter (some (.placeholder name)) rest

def tokensKind (tokens : List Token) : TemplateKind :=
  match tokens.getLast? with
  | some (.placeholder _) => .catchAll
  | _ => if (Token.names tokens).isEmpty then .literal else .segmented

/-- The pieces and the kind of a path. The path `/` and, without a query part, a lone placeholder after
the slash are read as they stand. -/
def shape (tokens : List Token) (hasQuery : Bool) : List Piece × TemplateKind :=
  match tokens with
  | [.literal ['/']] => ([.literal ['/']], .root)
  | [.literal ['/'], .placeholder _] =>
    if hasQuery then (piecesAfter none tokens, tokensKind tokens)
    else ([.literal ['/'], .anything], .wholePath)
  | _ => (piecesAfter none tokens, tokensKind tokens)

/-- The parts before and after the first question mark. -/
def splitQuery (template : String) : String × Option String :=
  match Text.splitOnce '?' template.toList with
  | some (path, query) => (String.ofList path, some (String.ofList query))
  | none => (template, none)

def queryNames (query : Option QueryTemplate) : List String := (query.map (·.names)).getD []

def compile (template : String) (caseSensitive : Bool) : Except TemplateError UpstreamTemplate := do
  if template = "" then throw .empty
  if !startsWithSlash template.toList then throw (.missingLeadingSlash template)
  let (path, queryText) := splitQuery template
  let tokens ← Token.tokenize .bare path
  let query ← queryText.mapM (QueryTemplate.parse template)
  let pathNames := Token.names tokens
  requireDistinct template (pathNames ++ queryNames query)
  let (pieces, kind) := shape tokens query.isSome
  return { raw := template, pieces, kind, caseSensitive, pathNames, query }

def priority (t : UpstreamTemplate) : Nat := t.kind.priority

/-- The path as a regular expression. -/
def pattern (t : UpstreamTemplate) : String := Pattern.expression t.pieces

def containsQueryPlaceholder (t : UpstreamTemplate) : Bool := !(queryNames t.query).isEmpty

/-- The values captured from a path. -/
def capturePath (t : UpstreamTemplate) (path : String) : Option (List Capture) :=
  (Pattern.capture t.caseSensitive t.pieces path.toList).map fun values =>
    t.pathNames.zipWith (fun name value => ⟨name, String.ofList value⟩) values

def captureQuery (t : UpstreamTemplate) (query : Option String) : Option (List Capture) :=
  match t.query with
  | some template => template.capture query
  | none => some []

/-- The values captured from a path and a raw query that the template matches, in its own order. -/
def captures (t : UpstreamTemplate) (path : String) (query : Option String) : Option (List Capture) := do
  return (← t.capturePath path) ++ (← t.captureQuery query)

def isMatch (t : UpstreamTemplate) (path : String) (query : Option String) : Bool :=
  (t.captures path query).isSome

end UpstreamTemplate

end GatewayRouting
