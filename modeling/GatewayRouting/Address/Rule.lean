import GatewayRouting.Address.Ip
import GatewayRouting.Text.Blank

/-!
Rules about client addresses: networks and ranges.
-/

namespace GatewayRouting

inductive AddressRule where
  /-- The addresses that agree with this one in the first bits. -/
  | network4 (address : Ipv4) (bits : Nat)
  | network6 (address : Ipv6) (bits : Nat)
  /-- The IPv4 addresses from the first to the last. -/
  | range (first last : Ipv4)
deriving DecidableEq

namespace AddressRule

/-- The number of leading ones of a mask that has ones nowhere else. -/
def maskBits? (mask : Ipv4) : Option Nat :=
  (List.range 33).find? fun n => mask = BitVec.ofNat 32 (Nat.pow 2 32 - Nat.pow 2 (32 - n))

/-- The bits of an IPv4 network, as a number or as a mask. -/
def bits4? (cs : List Char) : Option Nat :=
  match Text.naturalBelow 256 cs with
  | some n => if n ≤ 32 then some n else none
  | none => (Ipv4.parse? cs).bind maskBits?

/-- The parts of a network's text: the address, and what stands after a single slash. -/
def networkParts (cs : List Char) : Option (List Char × Option (List Char)) :=
  match Text.splitOnce '/' cs with
  | none => some (cs, none)
  | some (address, bits) => if bits.contains '/' then none else some (address, some bits)

def network? (cs : List Char) : Option AddressRule := do
  let (address, bits) ← networkParts cs
  match Ipv4.parse? address, bits with
  | some x, none => some (network4 x 32)
  | some x, some bits => (bits4? bits).map (network4 x)
  | none, none => (Ipv6.parse? address).map (network6 · 128)
  | none, some bits => do
    let x ← Ipv6.parse? address
    let n ← Text.naturalBelow 129 bits
    some (network6 x n)

/-- The last address of a range: an address, or a number in place of the first one's last octet. -/
def rangeEnd? (first : Ipv4) (cs : List Char) : Option Ipv4 :=
  match Text.naturalBelow 256 cs with
  | some last => some (BitVec.ofNat 32 (first.toNat / 256 * 256 + last))
  | none => Ipv4.parse? cs

def range? (cs : List Char) : Option AddressRule := do
  let (first, last) ← Text.splitOnce '-' cs
  let first ← Ipv4.parse? (Text.trim first)
  let last ← rangeEnd? first (Text.trim last)
  if first ≤ last then some (range first last) else none

/-- The rule of a text: a network, a single address, or a range `a.b.c.d-a.b.c.e` or `a.b.c.d-e`. -/
def parse? (s : String) : Option AddressRule :=
  let cs := Text.trim s.toList
  match network? cs with
  | some rule => some rule
  | none => range? cs

def contains : AddressRule → IpAddress → Bool
  | network4 x n, .v4 y => x >>> (32 - n) == y >>> (32 - n)
  | network6 x n, .v6 y => x >>> (128 - n) == y >>> (128 - n)
  | range first last, .v4 y => first ≤ y && y ≤ last
  | _, _ => false

end AddressRule

end GatewayRouting
