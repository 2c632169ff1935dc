import GatewayRouting.Document.Value
import GatewayRouting.Text.Ascii
import GatewayRouting.Text.Split

/-!
Scalars without quotes: the null, booleans and numbers that such a text can stand for. A text that
stands for none of them is a text.
-/

namespace GatewayRouting.Scalar

def isNull (s : String) : Bool := s == "" || s == "null" || s == "Null" || s == "NULL" || s == "~"

def bool? (s : String) : Option Bool :=
  if s == "true" || s == "True" || s == "TRUE" then some true
  else if s == "false" || s == "False" || s == "FALSE" then some false
  else none

/-- The value of a digit in a base of at most sixteen. -/
def digit? (base : Nat) (c : Char) : Option Nat := (Text.hexValue c).filter (· < base)

/-- The number that digits of a base denote, none without digits. -/
def natural? (base : Nat) (cs : List Char) : Option Nat :=
  if cs.isEmpty then none
  else cs.foldlM (fun n c => (digit? base c).map (base * n + ·)) 0

def afterSign : List Char → List Char
  | '-' :: rest => rest
  | '+' :: rest => rest
  | cs => cs

/-- Digits after a leading zero are no number. -/
def hasLeadingZero (cs : List Char) : Bool :=
  match afterSign cs with
  | '0' :: d :: rest => (d :: rest).all Char.isDigit
  | _ => false

/-- The digits of a number and their base. -/
def based : List Char → Nat × List Char
  | '0' :: 'x' :: rest => (16, rest)
  | '0' :: 'o' :: rest => (8, rest)
  | '0' :: 'b' :: rest => (2, rest)
  | cs => (10, cs)

def unsignedFrom (whole digits : List Char) : Option Nat :=
  let (base, rest) := based digits
  if base = 10 && hasLeadingZero whole then none else natural? base rest

/-- The natural number that a scalar stands for. -/
def nat? (s : String) : Option Nat :=
  match s.toList with
  | '+' :: rest => unsignedFrom ('+' :: rest) rest
  | cs => unsignedFrom cs cs

/-- The integer that a scalar stands for. -/
def int? (s : String) : Option Int :=
  match s.toList with
  | '-' :: rest => (unsignedFrom ('-' :: rest) rest).map fun n => -(n : Int)
  | _ => (nat? s).map Int.ofNat

/-- The exponent at the end of a decimal number. -/
def power? : List Char → Option Int
  | [] => some 0
  | c :: rest =>
    if c = 'e' || c = 'E' then
      let digits := afterSign rest
      if digits.isEmpty || !digits.all Char.isDigit then none
      else
        let n : Int := Text.digitsValue digits
        some (if rest.head? = some '-' then -n else n)
    else none

/-- The double that digits around at most one point, and an exponent, denote. -/
def decimal? (negative : Bool) (cs : List Char) : Option Binary64 := do
  let (whole, cs) := cs.span Char.isDigit
  let (fraction, cs) := match cs with
    | '.' :: rest => rest.span Char.isDigit
    | _ => ([], cs)
  if whole.isEmpty && fraction.isEmpty then none
  else
    let power ← power? cs
    some (.ofDecimal negative (Text.digitsValue (whole ++ fraction)) (power - fraction.length))

/-- The double that a scalar stands for; one too large is none. -/
def float? (s : String) : Option Binary64 :=
  let cs := match s.toList with
    | '+' :: rest => rest
    | cs => cs
  let unsigned := String.ofList cs
  if unsigned == ".inf" || unsigned == ".Inf" || unsigned == ".INF" then some (.infinite false)
  else if s == "-.inf" || s == "-.Inf" || s == "-.INF" then some (.infinite true)
  else if s == ".nan" || s == ".NaN" || s == ".NAN" then some .nan
  else
    let x := match cs with
      | '-' :: rest => if s.toList.head? = some '+' then none else decimal? true rest
      | _ => decimal? false cs
    x.filter (·.isFinite)

/-- Whether a whole number is kept as such; past 128 bits it is one no longer. -/
def isWhole (n : Int) : Bool := -Nat.pow 2 127 ≤ n && n < Nat.pow 2 128

/-- An integer as a document holds it; past 64 bits it denotes nothing. -/
def ofInt (n : Int) : Value := if -Nat.pow 2 63 ≤ n && n < Nat.pow 2 64 then .int n else .void

/-- What a scalar stands for where any type is welcome. -/
def resolve (s : String) : Value :=
  if isNull s then .null
  else match bool? s with
    | some b => .bool b
    | none =>
      match (int? s).filter isWhole with
      | some n => ofInt n
      | none =>
        match if hasLeadingZero s.toList then none else float? s with
        | some x => .float x
        | none => .text s

end GatewayRouting.Scalar
