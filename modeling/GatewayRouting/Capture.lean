import GatewayRouting.Text.Ascii
import GatewayRouting.Text.Percent

/-!
Values captured from a request.
-/

namespace GatewayRouting

/-- A placeholder name and the text captured for it, as it stood in the request. -/
structure Capture where
  name : String
  value : String
deriving DecidableEq, Inhabited

def Capture.decoded (c : Capture) : String := Text.percentDecoded c.value

/-- The value of the first capture of that name, case aside. -/
def captured? (captures : List Capture) (name : List Char) : Option (List Char) :=
  (captures.find? fun c => Text.sameAscii c.name.toList name).map (·.value.toList)

end GatewayRouting
