import GatewayRouting.Address.Rule
import GatewayRouting.Config.Section
import GatewayRouting.Log

/-!
Which client addresses a route is open to.
-/

namespace GatewayRouting

structure SecurityOptions where
  allowed : List AddressRule := []
  blocked : List AddressRule := []
  excludeAllowedFromBlocked : Bool := false
deriving DecidableEq, Inhabited

namespace SecuritySection

def hasEntries (s : SecuritySection) : Bool := !s.allowedList.isEmpty || !s.blockedList.isEmpty

end SecuritySection

namespace SecurityOptions

/-- The rules of a list; a text that is no rule is left out with a warning. -/
def rules (list : List String) : Logged (List AddressRule) :=
  Logged.filterMap (fun text =>
    match AddressRule.parse? text with
    | some rule => pure (some rule)
    | none => do
      Logged.warn ("Failed to parse IP security rule: " ++ text)
      pure none) list

/-- The section that counts: the route's if it lists anything, else the global one if that does. -/
def chosen (route global : Option SecuritySection) : Option SecuritySection :=
  route.filter (·.hasEntries) <|> global.filter (·.hasEntries)

def merge (route global : Option SecuritySection) : Logged SecurityOptions :=
  match chosen route global with
  | none => pure {}
  | some s => do
    let allowed ← rules s.allowedList
    let blocked ← rules s.blockedList
    pure { allowed, blocked, excludeAllowedFromBlocked := s.excludeAllowedFromBlocked }

def hasRules (o : SecurityOptions) : Bool := !o.allowed.isEmpty || !o.blocked.isEmpty

/-- A blocked address is refused, unless allowed addresses are excluded from that; with an allow list,
every address that it does not cover is refused too. -/
def isAllowed (o : SecurityOptions) (ip : IpAddress) : Bool :=
  let allowed := o.allowed.any (·.contains ip)
  let blocked := o.blocked.any (·.contains ip)
  if blocked && !(o.excludeAllowedFromBlocked && allowed) then false
  else o.allowed.isEmpty || allowed

end SecurityOptions

end GatewayRouting
