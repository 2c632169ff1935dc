import GatewayRouting.Address.Domain.Composition
import GatewayRouting.Address.Domain.Direction
import GatewayRouting.Address.Domain.Joining
import GatewayRouting.Address.Domain.Mapping
import GatewayRouting.Address.Punycode

/-!
Domain names of addresses on the web. Characters are first replaced by the ones they stand for and composed;
what is left may hold none that an address gives a meaning to, and every label has to be readable.
-/

namespace GatewayRouting.Domain

/-- The ASCII characters that no name holds. -/
def isDenied (c : Char) : Bool := c.toNat ≤ 0x20 || c.toNat == 0x7F || "%#/:<>?@[\\]^|".toList.contains c

def isAscii (cs : List Char) : Bool := cs.all (·.toNat < 0x80)

/-- The most characters that an encoded label has after its mark. -/
def encodedBound : Nat := 2000

/-- The most characters that a label has which is to be encoded. -/
def encodableBound : Nat := 1000

/-- A text with every character replaced by what it stands for, composed. -/
def settled? (cs : List Char) : Option (List Char) := (cs.mapM mapped).map fun texts => composed texts.flatten

/-- What a label stands for. One marked as encoded has to stand for one that needs it and is settled. -/
def decodedLabel? (label : List Char) : Option (List Char) :=
  let mark := "xn--".toList
  if mark.isPrefixOf label then
    let encoded := label.drop mark.length
    if !isAscii encoded || encoded.getLast? = some '-' || encodedBound < encoded.length then none
    else (Punycode.decode? encoded).filter fun text =>
      !isAscii text && !text.any (fun c => isDenied c || c = '.') && settled? text = some text
  else some label

/-- Whether a label starts with no mark, holds joiners only where they join, and can be encoded. -/
def isReadable (label : List Char) : Bool :=
  !label.head?.any marks.contains && joinersFit [] label && (isAscii label || label.length ≤ encodableBound)

/-- The name in its normal form. -/
def normal? (name : List Char) : Option (List Char) := do
  let cs ← settled? name
  let decoded ← (Text.splitAll '.' cs).mapM decodedLabel?
  if cs.any isDenied || !decoded.all isReadable then none
  else if decoded.any (·.any turnsRight) && !decoded.all keepsDirection then none
  else some cs

/-- A part of an IPv4 address: a number in base ten, eight or sixteen, by what stands before it. -/
def ipv4Number? (cs : List Char) : Option Nat :=
  let digits (base : Nat) (cs : List Char) : Option Nat :=
    cs.foldlM (fun n c => ((Text.hexValue c).filter (· < base)).map (base * n + ·)) 0
  match cs with
  | [] => none
  | '0' :: 'x' :: rest => digits 16 rest
  | '0' :: 'X' :: rest => digits 16 rest
  | '0' :: d :: rest => digits 8 (d :: rest)
  | cs => digits 10 cs

/-- The labels of a name, without an empty one after a point at its end. -/
def labels (name : List Char) : List (List Char) :=
  let parts := Text.splitAll '.' name
  if 1 < parts.length && parts.getLast? == some [] then parts.dropLast else parts

/-- Whether a name can only be an IPv4 address. -/
def endsInNumber (name : List Char) : Bool :=
  match (labels name).getLast? with
  | some last => (!last.isEmpty && last.all Char.isDigit) || (ipv4Number? last).isSome
  | none => false

/-- Whether the labels are an IPv4 address: up to four numbers, the last one filling what is left. -/
def isIpv4 (name : List Char) : Bool :=
  match (labels name).mapM ipv4Number? with
  | some numbers =>
    match numbers.reverse with
    | last :: others => others.length < 4 && others.all (· < 256) && last < Nat.pow 2 (32 - 8 * others.length)
    | [] => false
  | none => false

end GatewayRouting.Domain
