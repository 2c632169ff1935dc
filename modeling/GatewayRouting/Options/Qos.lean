import GatewayRouting.Options.Basic

/-!
When a route stops calling a service that fails.
-/

namespace GatewayRouting

structure QosOptions where
  /-- The routes of one key share a circuit. -/
  key : String
  exceptionsAllowedBeforeBreaking : UInt32
  durationOfBreakMillis : UInt64
  timeoutMillis : UInt64
  samplingDurationMillis : UInt64
  failureRatio : Binary64
deriving DecidableEq, Inhabited

namespace QosOptions

def defaultFailureRatio : Binary64 := .ofDecimal false 8 (-1)

/-- Absent unless both a number of failures and a timeout are set. -/
def merge (key : String) (route global : Option QosSection) : Option QosOptions :=
  let exceptions := Options.settled route global (·.exceptionsAllowedBeforeBreaking) 0
  let timeout := Options.settled route global (·.timeoutMillis) 0
  if exceptions = 0 || timeout = 0 then none
  else some
    { key
      exceptionsAllowedBeforeBreaking := exceptions
      timeoutMillis := timeout
      durationOfBreakMillis := Options.settled route global (·.durationOfBreakMillis) 5000
      samplingDurationMillis := Options.settled route global (·.samplingDurationMillis) 10000
      failureRatio := Options.settled route global (·.failureRatio) defaultFailureRatio }

end QosOptions

end GatewayRouting
