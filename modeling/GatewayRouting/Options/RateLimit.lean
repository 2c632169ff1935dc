import GatewayRouting.Options.Basic

/-!
How many requests a client may send.
-/

namespace GatewayRouting

structure RateLimitOptions where
  clientWhitelist : List String
  period : Period
  periodTimespan : Binary64
  limit : UInt64
  clientIdHeader : String
  quotaExceededMessage : Option String
  httpStatusCode : UInt16
  enableHeaders : Bool
  counterPrefix : String
deriving DecidableEq, Inhabited

namespace RateLimitOptions

/-- Whether a global section is for a route of that key. -/
def appliesTo (key : Option String) (s : RateLimitSection) : Bool :=
  s.routeKeys.isEmpty || (key.map s.routeKeys.contains).getD false

/-- Absent unless rate limiting is switched on. -/
def merge (key : Option String) (route global : Option RateLimitSection) : Option RateLimitOptions :=
  let global := global.filter (appliesTo key)
  if Options.settled route global (·.enabled) false then some
    { clientWhitelist := Options.settled route global (·.clientWhitelist) []
      period := Options.settled route global (·.period) (.ofSeconds 1)
      periodTimespan := Options.settled route global (·.periodTimespan) .zero
      limit := Options.settled route global (·.limit) 0
      clientIdHeader := Options.settled route global (·.clientIdHeader) "ClientId"
      quotaExceededMessage := Options.chosen route global (·.quotaExceededMessage)
      httpStatusCode := Options.settled route global (·.httpStatusCode) 429
      enableHeaders := !Options.settled route global (·.disableHeaders) false
      counterPrefix := Options.settled route global (·.counterPrefix) "switchyard" }
  else none

end RateLimitOptions

end GatewayRouting
