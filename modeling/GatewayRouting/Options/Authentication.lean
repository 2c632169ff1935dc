import GatewayRouting.Options.Basic

/-!
How the clients of a route are authenticated.
-/

namespace GatewayRouting

structure AuthenticationOptions where
  providerKeys : List String
  allowedScopes : List String
deriving DecidableEq, Inhabited

namespace AuthenticationSection

/-- The schemes that a section names. -/
def schemes (s : AuthenticationSection) : List String :=
  (s.providerKey.toList ++ s.providerKeys).filter (· ≠ "")

end AuthenticationSection

namespace AuthenticationOptions

/-- A list that says something. -/
def nonEmpty {α : Type} (list : List α) : Option (List α) := if list.isEmpty then none else some list

/-- Absent if anonymous access is allowed or no scheme is named. -/
def merge (route global : Option AuthenticationSection) : Option AuthenticationOptions :=
  let providerKeys := Options.settled route global (fun s => nonEmpty s.schemes) []
  if Options.settled route global (·.allowAnonymous) false then none
  else if providerKeys.isEmpty then none
  else some { providerKeys, allowedScopes := Options.settled route global (fun s => nonEmpty s.allowedScopes) [] }

end AuthenticationOptions

end GatewayRouting
