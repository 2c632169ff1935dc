import GatewayRouting.Capture
import GatewayRouting.Template.Pattern
import GatewayRouting.Template.Token

/-!
Header templates: which values of a request header a route answers to.
-/

namespace GatewayRouting

structure HeaderTemplate where
  /-- The header's name in lower case. -/
  name : String
  raw : String
  pieces : List Piece
  caseSensitive : Bool
  names : List String
deriving DecidableEq

namespace HeaderTemplate

/-- The pieces of tokens: the last placeholder takes any text, the others stop at a slash. -/
def piecesOf : List Token → List Piece
  | [] => []
  | .literal text :: rest => .literal text :: piecesOf rest
  | .placeholder _ :: rest =>
    (if (Token.names rest).isEmpty then Piece.something else .segment) :: piecesOf rest

def compile (name template : String) (caseSensitive : Bool) : Except TemplateError HeaderTemplate := do
  let tokens ← Token.tokenize .header template
  let names := Token.names tokens
  requireDistinct template names
  return { name := Text.lowerAscii name, raw := template, pieces := piecesOf tokens, caseSensitive, names }

/-- The values captured from a header value. -/
def captures (t : HeaderTemplate) (value : String) : Option (List Capture) :=
  (Pattern.capture t.caseSensitive t.pieces value.toList).map fun values =>
    t.names.zipWith (fun name value => ⟨name, String.ofList value⟩) values

end HeaderTemplate

end GatewayRouting
