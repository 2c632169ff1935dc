import GatewayRouting.Document.Value
import GatewayRouting.Text.Ascii

/-!
Numbers of a JSON document. A number without fraction and exponent that fits 64 bits is an integer.
The others become doubles: the leading digits that fit 64 bits, times one power of ten.
-/

namespace GatewayRouting.Json

def wordBound : Nat := Nat.pow 2 64

/-- The parts of a number's text. -/
structure NumberText where
  negative : Bool
  whole : List Char
  fraction : List Char
  /-- The sign and the digits of the exponent. -/
  power : Option (Bool × List Char)

/-- Digits appended to a number for as long as it stays below `wordBound`, with the digits left over. -/
def appendDigits (n : Nat) : List Char → Nat × List Char
  | [] => (n, [])
  | c :: rest =>
    if 10 * n + Text.digitValue c < wordBound then appendDigits (10 * n + Text.digitValue c) rest
    else (n, c :: rest)

def tenTo (n : Nat) : Binary64 := .ofRatio false (Nat.pow 10 n) 1

/-- A double times a power of ten, none if that is too large. Powers past the range of doubles are
divided off in steps; three steps bring every double to zero. -/
def scaled : Nat → Binary64 → Int → Option Binary64
  | 0, _, _ => some .zero
  | steps + 1, x, exponent =>
    if exponent.natAbs ≤ 308 then
      if 0 ≤ exponent then
        let y := x * tenTo exponent.natAbs
        if y.isFinite then some y else none
      else some (x / tenTo exponent.natAbs)
    else if x = .zero then some x
    else if 0 ≤ exponent then none
    else scaled steps (x / tenTo 308) (exponent + 308)

def NumberText.value (t : NumberText) : Value :=
  let (n, left) := appendDigits 0 t.whole
  let signed (x : Option Binary64) : Value :=
    match x with
    | some x => .float (if t.negative then -x else x)
    | none => .void
  let (m, unused) := appendDigits n t.fraction
  let exponent : Int := left.length - (t.fraction.length - unused.length : Nat)
  match t.power with
  | some (negative, digits) =>
    let power := Text.digitsValue digits
    if Nat.pow 2 31 ≤ power then
      if m ≠ 0 && !negative then .void else signed (some .zero)
    else signed (scaled 4 (.ofNat m) (if negative then exponent - power else exponent + power))
  | none =>
    if !t.fraction.isEmpty || !left.isEmpty then signed (scaled 4 (.ofNat m) exponent)
    else if !t.negative then .int n
    else if n = 0 || Nat.pow 2 63 < n then signed (some (.ofNat n))
    else .int (-n)

/-- The longest run of digits at the front. -/
def spanDigits (cs : List Char) : List Char × List Char := cs.span Char.isDigit

def readPower (cs : List Char) : Option (Option (Bool × List Char) × List Char) :=
  match cs with
  | c :: rest =>
    if c = 'e' || c = 'E' then
      let (negative, rest) := match rest with
        | '-' :: r => (true, r)
        | '+' :: r => (false, r)
        | _ => (false, rest)
      let (digits, rest) := spanDigits rest
      if digits.isEmpty then none else some (some (negative, digits), rest)
    else some (none, cs)
  | [] => some (none, [])

/-- The number at the front: no leading zeros, and digits on both sides of the point. -/
def readNumber (cs : List Char) : Option (NumberText × List Char) := do
  let (negative, cs) := match cs with
    | '-' :: r => (true, r)
    | _ => (false, cs)
  let (whole, cs) := spanDigits cs
  if whole.isEmpty || (whole.head? = some '0' && 1 < whole.length) then none
  else
    let (fraction, pointed, cs) := match cs with
      | '.' :: r => let (digits, r) := spanDigits r; (digits, true, r)
      | _ => ([], false, cs)
    if pointed && fraction.isEmpty then none
    else
      let (power, cs) ← readPower cs
      some (⟨negative, whole, fraction, power⟩, cs)

end GatewayRouting.Json
