import GatewayRouting.Address.Domain
import GatewayRouting.Address.Ip
import GatewayRouting.Text.Percent

/-!
Which texts are absolute addresses on the web, and what is wrong with the others.
-/

namespace GatewayRouting

inductive UrlError where
  | relative
  | emptyHost
  | invalidDomain
  | invalidDomainCharacter
  | invalidPort
  | invalidIpv4
  | invalidIpv6
deriving DecidableEq, Inhabited

namespace UrlError

def message : UrlError → String
  | relative => "relative URL without a base"
  | emptyHost => "empty host"
  | invalidDomain => "invalid international domain name"
  | invalidDomainCharacter => "invalid domain character"
  | invalidPort => "invalid port number"
  | invalidIpv4 => "invalid IPv4 address"
  | invalidIpv6 => "invalid IPv6 address"

end UrlError

namespace Url

/-- How addresses of a scheme are read. -/
inductive SchemeKind where
  | web
  | file
  | other
deriving DecidableEq

def schemeKind (scheme : List Char) : SchemeKind :=
  let name := (String.ofList scheme).toLower
  if ["http", "https", "ws", "wss", "ftp"].contains name then .web
  else if name == "file" then .file
  else .other

def isSchemeChar (c : Char) : Bool := c.isAlphanum || c == '+' || c == '-' || c == '.'

/-- The characters of the text that count: none at or below a space at its ends, and no tabs and line ends. -/
def significant (cs : List Char) : List Char :=
  let outer (c : Char) : Bool := c.toNat ≤ 0x20
  (((cs.dropWhile outer).reverse.dropWhile outer).reverse).filter fun c => c != '\t' && c != '\n' && c != '\r'

/-- The scheme and the text after its colon. -/
def splitScheme (cs : List Char) : Option (List Char × List Char) :=
  match Text.splitOnce ':' cs with
  | some (scheme, rest) =>
    if (scheme.head?.map Char.isAlpha).getD false && scheme.all isSchemeChar then some (scheme, rest) else none
  | none => none

def isSlash (c : Char) : Bool := c == '/' || c == '\\'

/-- Whether a character ends the authority. A backslash counts as a slash except in other schemes. -/
def endsAuthority (special : Bool) (c : Char) : Bool :=
  c == '/' || c == '?' || c == '#' || (special && c == '\\')

/-- The parts before and after the first colon outside of brackets. -/
def splitPort (inBrackets : Bool) : List Char → List Char × Option (List Char)
  | [] => ([], none)
  | c :: rest =>
    if c = ':' && !inBrackets then ([], some rest)
    else
      let (host, port) := splitPort (if c = '[' then true else if c = ']' then false else inBrackets) rest
      (c :: host, port)

def checkIpv6 (cs : List Char) : Except UrlError Unit :=
  match cs.getLast? with
  | some ']' => if (Ipv6.parse? (cs.drop 1).dropLast).isSome then .ok () else .error .invalidIpv6
  | _ => .error .invalidIpv6

/-- A host of a scheme whose hosts are domains. -/
def checkDomain (cs : List Char) : Except UrlError Unit :=
  if cs.head? == some '[' then checkIpv6 cs
  else match (Text.percentText? cs).bind fun text => Domain.normal? text.toList with
    | none => .error .invalidDomain
    | some name =>
      if name.isEmpty then .error .emptyHost
      else if Domain.endsInNumber name && !Domain.isIpv4 name then .error .invalidIpv4
      else .ok ()

/-- The characters that a host of another scheme does not hold. -/
def isForbidden (c : Char) : Bool := c == Char.ofNat 0 || "\t\n\r #/:<>?@[\\]^|".toList.contains c

def checkOpaque (cs : List Char) : Except UrlError Unit :=
  if cs.head? == some '[' then checkIpv6 cs
  else if cs.any isForbidden then .error .invalidDomainCharacter
  else .ok ()

/-- A port: a number that fits sixteen bits, or nothing. -/
def checkPort (cs : List Char) : Except UrlError Unit :=
  let digits := cs.takeWhile (· != '\\')
  if digits.all Char.isDigit && Text.digitsValue digits < Nat.pow 2 16 then .ok () else .error .invalidPort

/-- What stands between the slashes and the path. -/
def checkAuthority (kind : SchemeKind) (cs : List Char) : Except UrlError Unit := do
  let special := kind != .other
  let authority := cs.takeWhile (!endsAuthority special ·)
  let (user, place) := match Text.splitLast '@' authority with
    | some (user, place) => (some user, place)
    | none => (none, authority)
  if user == some [] && place.isEmpty && authority.length < cs.length then throw .emptyHost
  let (host, port) := splitPort false place
  if special then
    if host.isEmpty then throw .emptyHost
    checkDomain host
  else
    checkOpaque host
    if host.isEmpty && port.isSome then throw .emptyHost
  checkPort (port.getD [])
  if host.isEmpty && user.any (fun user => !user.isEmpty && user != [':']) then throw .emptyHost

/-- A drive letter, which is not a host. -/
def isDrive : List Char → Bool
  | [letter, mark] => letter.isAlpha && (mark == ':' || mark == '|')
  | _ => false

/-- What follows the scheme of a file. -/
def checkFile (cs : List Char) : Except UrlError Unit :=
  match cs with
  | a :: b :: rest =>
    if isSlash a && isSlash b then
      let host := rest.takeWhile (!endsAuthority true ·)
      if host.isEmpty || isDrive host then .ok () else checkDomain host
    else .ok ()
  | _ => .ok ()

def check (url : String) : Except UrlError Unit :=
  match splitScheme (significant url.toList) with
  | none => .error .relative
  | some (scheme, rest) =>
    match schemeKind scheme with
    | .web => checkAuthority .web (rest.dropWhile isSlash)
    | .file => checkFile rest
    | .other =>
      match rest with
      | '/' :: '/' :: rest => checkAuthority .other rest
      | _ => .ok ()

end Url

end GatewayRouting
