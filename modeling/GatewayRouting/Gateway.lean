import GatewayRouting.Config.Load
import GatewayRouting.State

/-!
A gateway: the routing state made of a configuration file, and the providers that its configurations
may rely on.
-/

namespace GatewayRouting

/-- Why a gateway does not start. -/
inductive StartError where
  | load (error : LoadError)
  | build (error : BuildError)
deriving DecidableEq, Inhabited

structure Gateway where
  capabilities : Capabilities
  state : RoutingState
deriving DecidableEq

namespace Gateway

/-- The gateway of the file of that path, whose text is absent if it cannot be read. -/
def start (path : String) (text : Option String) (capabilities : Capabilities) (cacheCapacity : Nat) :
    Logged (Except StartError Gateway) :=
  match Configuration.load path text with
  | .error e => pure (.error (.load e))
  | .ok config => do
    let state ← RoutingState.ofConfiguration config capabilities cacheCapacity
    pure ((state.map (⟨capabilities, ·⟩)).mapError .build)

/-- Reloads the state with another configuration. -/
def reload (g : Gateway) (config : Configuration) : Logged (Except BuildError Unit × Gateway) := do
  let (result, state) ← g.state.reload config g.capabilities
  if result.isOk then Logged.info "Configuration reloaded manually"
  pure (result, { g with state })

end Gateway

end GatewayRouting
