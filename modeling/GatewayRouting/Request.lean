import GatewayRouting.Text.Ascii

/-!
The parts of a request that take part in choosing its route.
-/

namespace GatewayRouting

/-- The characters of method and header names. -/
def isNameChar (c : Char) : Bool := c.isAlphanum || "!#$%&'*+-.^_\x60|~".toList.contains c

def isName (s : String) : Bool := s != "" && s.toList.all isNameChar

structure Method where
  name : String
deriving DecidableEq, Inhabited

namespace Method

/-- The method of that name, in the case given. -/
def parse? (name : String) : Option Method := if isName name then some ⟨name⟩ else none

end Method

/-- A header of a request; names are in lower case. -/
structure Header where
  name : String
  value : String
deriving DecidableEq, Inhabited

inductive RequestError where
  | invalidHeaderName
  | invalidHeaderValue
  | invalidMethod
deriving DecidableEq, Inhabited

namespace RequestError

def message : RequestError → String
  | invalidHeaderName => "invalid HTTP header name"
  | invalidHeaderValue => "failed to parse header value"
  | invalidMethod => "invalid HTTP method"

end RequestError

namespace Header

/-- The control characters, of which only a tab may stand in a header. -/
def isControl (c : Char) : Bool := (c.toNat < 0x20 && c != '\t') || c.toNat == 0x7F

def parse (name value : String) : Except RequestError Header :=
  if !isName name then .error .invalidHeaderName
  else if value.toList.any isControl then .error .invalidHeaderValue
  else .ok ⟨Text.lowerAscii name, value⟩

/-- Whether a value can be read as text: it is ASCII without control characters. -/
def isReadable (value : String) : Bool := value.toList.all fun c => c.toNat < 0x7F && !isControl c

end Header

structure Request where
  method : Method
  path : String
  /-- The query as sent, without its question mark. -/
  query : Option String
  /-- The host asked for, perhaps with a port. -/
  host : Option String
  headers : List Header
deriving DecidableEq, Inhabited

/-- The values of a header, in the order sent. -/
def Request.headerValues (r : Request) (name : String) : List String :=
  (r.headers.filter (·.name == Text.lowerAscii name)).map (·.value)

end GatewayRouting
