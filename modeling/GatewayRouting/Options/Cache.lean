import GatewayRouting.Options.Basic
import GatewayRouting.Text.Ascii

/-!
Which responses of a route are cached.
-/

namespace GatewayRouting

structure CacheOptions where
  ttlSeconds : UInt64
  region : String
  header : Option String
  enableContentHashing : Bool
deriving DecidableEq, Inhabited

namespace CacheOptions

def isAsciiAlphanumeric (c : Char) : Bool := c.isAlpha || c.isDigit

/-- The letters and digits of the methods, in upper case, and of the template. -/
def defaultRegion (methods : List String) (upstreamTemplate : String) : String :=
  String.ofList
    ((methods.flatMap (fun m => (Text.upperAscii m).toList) ++ upstreamTemplate.toList).filter isAsciiAlphanumeric)

/-- Absent unless entries live for some time. -/
def merge (route global : Option CacheSection) (region : String) : Option CacheOptions :=
  let ttlSeconds := Options.settled route global (·.ttlSeconds) 0
  if ttlSeconds = 0 then none
  else some
    { ttlSeconds
      region := Options.settled route global (·.region) region
      header := Options.chosen route global (·.header)
      enableContentHashing := Options.settled route global (·.enableContentHashing) false }

end CacheOptions

end GatewayRouting
