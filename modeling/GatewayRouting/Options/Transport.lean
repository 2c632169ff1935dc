import GatewayRouting.Config.Section
import GatewayRouting.Log
import GatewayRouting.Text.Blank

/-!
The downstream protocol, the request timeout and the metadata of a route.
-/

namespace GatewayRouting

inductive HttpVersion where
  | http10
  | http11
  | http2
  | http3
deriving DecidableEq, Inhabited

namespace HttpVersion

def name : HttpVersion → String
  | http10 => "HTTP/1.0"
  | http11 => "HTTP/1.1"
  | http2 => "HTTP/2.0"
  | http3 => "HTTP/3.0"

def parse? (text : String) : Option HttpVersion :=
  [("1.0", http10), ("1.1", http11), ("2", http2), ("2.0", http2), ("3", http3), ("3.0", http3)].lookup
    (Text.trimmed text)

/-- The version to use downstream; a text that is none counts as 1.1, with a warning. -/
def merge (route global : Option String) : Logged HttpVersion :=
  match route <|> global with
  | none => pure http11
  | some text =>
    match parse? text with
    | some version => pure version
    | none => do
      Logged.warn ("Invalid downstream_http_version '" ++ text ++ "', using 1.1")
      pure http11

end HttpVersion

def VersionPolicy.merge (route global : Option VersionPolicy) : VersionPolicy :=
  (route <|> global).getD .orHigher

/-- The seconds allowed for a request. Zero counts as not set. -/
def mergedTimeout (route global : Option UInt64) : UInt64 :=
  (route.filter (0 < ·) <|> global.filter (0 < ·)).getD 90

/-- The global metadata with the route's over it. -/
def mergedMetadata (route global : Dictionary String) : Dictionary String := global.extend route

end GatewayRouting
