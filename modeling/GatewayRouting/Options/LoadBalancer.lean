import GatewayRouting.Options.Basic

/-!
How the requests of a route are spread over its hosts.
-/

namespace GatewayRouting

structure LoadBalancerOptions where
  type : LoadBalancerType := .none
  /-- The session cookie's name for sticky sessions. -/
  key : Option String := none
  expiryMillis : UInt64 := 0
deriving DecidableEq, Inhabited

namespace LoadBalancerOptions

/-- The key, unless it is missing or empty. -/
def namedKey? (o : LoadBalancerOptions) : Option String := o.key.filter (· ≠ "")

def isSticky (o : LoadBalancerOptions) : Bool := o.type == .cookieStickySessions && o.namedKey?.isSome

def merge (route global : Option LoadBalancerSection) : LoadBalancerOptions where
  type := Options.settled route global (·.type) .none
  key := Options.chosen route global (·.key)
  expiryMillis := Options.settled route global (·.expiryMillis) 0

end LoadBalancerOptions

end GatewayRouting
