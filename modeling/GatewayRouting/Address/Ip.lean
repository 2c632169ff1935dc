import GatewayRouting.Text.Ascii
import GatewayRouting.Text.Split

/-!
Internet addresses and their texts.
-/

namespace GatewayRouting

abbrev Ipv4 := BitVec 32
abbrev Ipv6 := BitVec 128

inductive IpAddress where
  | v4 (address : Ipv4)
  | v6 (address : Ipv6)
deriving DecidableEq

namespace Ipv4

def ofOctets (a b c d : Nat) : Ipv4 := BitVec.ofNat 32 (((a * 256 + b) * 256 + c) * 256 + d)

/-- The octets, the highest first. -/
def octets (x : Ipv4) : List Nat :=
  [x.toNat / Nat.pow 2 24, x.toNat / Nat.pow 2 16 % 256, x.toNat / Nat.pow 2 8 % 256, x.toNat % 256]

/-- An octet: up to three digits without a leading zero. -/
def octet? (cs : List Char) : Option Nat :=
  if cs.isEmpty || 3 < cs.length || !cs.all Char.isDigit || (cs.head? == some '0' && 1 < cs.length) then none
  else (some (Text.digitsValue cs)).filter (· < 256)

def parse? (cs : List Char) : Option Ipv4 :=
  match (Text.splitAll '.' cs).mapM octet? with
  | some [a, b, c, d] => some (ofOctets a b c d)
  | _ => none

def toText (x : Ipv4) : String := ".".intercalate (x.octets.map toString)

end Ipv4

namespace Ipv6

def ofGroups (groups : List Nat) : Ipv6 := BitVec.ofNat 128 (groups.foldl (fun n g => n * 65536 + g) 0)

/-- The eight groups of sixteen bits, the highest first. -/
def groups (x : Ipv6) : List Nat := (List.range 8).map fun i => x.toNat / Nat.pow 2 (16 * (7 - i)) % 65536

/-- A group: one to four hexadecimal digits. -/
def group? (cs : List Char) : Option Nat :=
  if cs.isEmpty || 4 < cs.length then none
  else cs.foldlM (fun n c => (Text.hexValue c).map (16 * n + ·)) 0

/-- The groups of pieces between colons; the last piece may be two groups written as an IPv4 address. -/
def groupsOf (mixed : Bool) : List (List Char) → Option (List Nat)
  | [] => some []
  | [last] =>
    match group? last, if mixed then Ipv4.parse? last else none with
    | some g, _ => some [g]
    | none, some x => some [x.toNat / 65536, x.toNat % 65536]
    | none, none => none
  | piece :: rest => do some ((← group? piece) :: (← groupsOf mixed rest))

/-- The groups of a text that may be empty. -/
def groupsIn (mixed : Bool) (cs : List Char) : Option (List Nat) :=
  if cs.isEmpty then some [] else groupsOf mixed (Text.splitAll ':' cs)

/-- The parts before and after the first `::`. -/
def splitGap : List Char → Option (List Char × List Char)
  | ':' :: ':' :: rest => some ([], rest)
  | c :: rest => (splitGap rest).map fun (head, tail) => (c :: head, tail)
  | [] => none

def parse? (cs : List Char) : Option Ipv6 :=
  match splitGap cs with
  | none => ((groupsIn true cs).filter (·.length == 8)).map ofGroups
  | some (head, tail) => do
    let high ← groupsIn false head
    let low ← groupsIn true tail
    if high.length + low.length ≤ 7 then
      some (ofGroups (high ++ List.replicate (8 - high.length - low.length) 0 ++ low))
    else none

/-- The position and length of the first longest run of zeros, in groups read from a position on, given
the run that ends before it and the longest so far. -/
def longestZeros : List Nat → (position run best bestLength : Nat) → Nat × Nat
  | [], _, _, best, bestLength => (best, bestLength)
  | g :: rest, position, run, best, bestLength =>
    let run := if g = 0 then run + 1 else 0
    if bestLength < run then longestZeros rest (position + 1) run (position + 1 - run) run
    else longestZeros rest (position + 1) run best bestLength

def hexText (n : Nat) : String := String.ofList (Nat.toDigits 16 n)

def joined (groups : List Nat) : String := ":".intercalate (groups.map hexText)

/-- The canonical text: the first longest run of two or more zeros is left out, and an IPv4 address inside
is written as such. -/
def toText (x : Ipv6) : String :=
  let groups := x.groups
  if groups.take 6 = [0, 0, 0, 0, 0, 0xFFFF] then "::ffff:" ++ Ipv4.toText (BitVec.ofNat 32 (x.toNat % Nat.pow 2 32))
  else
    let (start, length) := longestZeros groups 0 0 0 0
    if 1 < length then joined (groups.take start) ++ "::" ++ joined (groups.drop (start + length))
    else joined groups

end Ipv6

namespace IpAddress

def parse? (s : String) : Option IpAddress :=
  match Ipv4.parse? s.toList with
  | some x => some (v4 x)
  | none => (Ipv6.parse? s.toList).map v6

def toText : IpAddress → String
  | v4 x => x.toText
  | v6 x => x.toText

end IpAddress

end GatewayRouting
