import GatewayRouting.Options.Basic

/-!
How connections to downstream hosts are made.
-/

namespace GatewayRouting

structure HttpHandlerOptions where
  allowAutoRedirect : Bool
  useCookieContainer : Bool
  useTracing : Bool
  useProxy : Bool
  maxConnectionsPerServer : UInt64
  pooledConnectionLifetimeSeconds : UInt64
deriving DecidableEq, Inhabited

namespace HttpHandlerOptions

/-- No connections at all count as no limit set. -/
def merge (route global : Option HttpHandlerSection) : HttpHandlerOptions where
  allowAutoRedirect := Options.settled route global (·.allowAutoRedirect) false
  useCookieContainer := Options.settled route global (·.useCookieContainer) false
  useTracing := Options.settled route global (·.useTracing) false
  useProxy := Options.settled route global (·.useProxy) true
  maxConnectionsPerServer :=
    Options.settled route global (fun s => s.maxConnectionsPerServer.filter (0 < ·)) 18446744073709551615
  pooledConnectionLifetimeSeconds := Options.settled route global (·.pooledConnectionLifetimeSeconds) 120

end HttpHandlerOptions

end GatewayRouting
