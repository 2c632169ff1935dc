import GatewayRouting.Address.Ip

/-!
Socket addresses: an internet address and a port.
-/

namespace GatewayRouting

/-- An address to listen on. A scope tells links of one machine apart. -/
inductive SocketAddress where
  | v4 (address : Ipv4) (port : Nat)
  | v6 (address : Ipv6) (scope port : Nat)
deriving DecidableEq

namespace SocketAddress

/-- The number below `bound` that a non-empty run of decimal digits denotes. -/
def digits? (bound : Nat) (cs : List Char) : Option Nat :=
  if cs.head? == some '+' then none else Text.naturalBelow bound cs

def port? (cs : List Char) : Option Nat := digits? (Nat.pow 2 16) cs

/-- An address and perhaps a scope, as between brackets. -/
def scoped? (cs : List Char) : Option (Ipv6 × Nat) :=
  match Text.splitOnce '%' cs with
  | some (address, scope) => do some (← Ipv6.parse? address, ← digits? (Nat.pow 2 32) scope)
  | none => (Ipv6.parse? cs).map (·, 0)

def parse? (s : String) : Option SocketAddress :=
  match s.toList with
  | '[' :: rest => do
    let (inside, after) ← Text.splitOnce ']' rest
    let (address, scope) ← scoped? inside
    match after with
    | ':' :: port => some (.v6 address scope (← port? port))
    | _ => none
  | cs => do
    let (address, port) ← Text.splitLast ':' cs
    some (.v4 (← Ipv4.parse? address) (← port? port))

end SocketAddress

end GatewayRouting
