import GatewayRouting.Number.Binary64

/-!
The shortest decimal that reads back as a given double-precision number, and how it is written out.
-/

namespace GatewayRouting

/-- The number `digits * 10 ^ exponent`. -/
structure Decimal where
  digits : Nat
  exponent : Int

/-- The digits without zeros at their end, and the exponent that belongs to them. -/
def Decimal.trimmed (d : Decimal) : List Char × Int :=
  let digits := Nat.toDigits 10 d.digits
  let kept := (digits.reverse.dropWhile (· == '0')).reverse
  if kept.isEmpty then (['0'], 0) else (kept, d.exponent + (digits.length - kept.length : Nat))

namespace Binary64

/-- The place of the first digit of a positive quotient: it is at least `10 ^ (p - 1)` and below `10 ^ p`. -/
def decimalPlace (num den : Nat) : Int :=
  if den ≤ num then (Nat.toDigits 10 (num / den)).length
  else 1 - (((List.range 400).find? fun j => den ≤ num * Nat.pow 10 j).getD 400 : Nat)

/-- The value of a positive number, and the ends of the interval that rounds to it, as numerators over one
denominator. -/
structure Interval where
  low : Nat
  value : Nat
  high : Nat
  den : Nat
  closed : Bool

def interval (m : Nat) (e : Int) : Interval :=
  let narrow := m = Nat.pow 2 52 && leastExponent < e
  let scale := if 0 ≤ e then Nat.pow 2 e.toNat else 1
  let den := if 0 ≤ e then 4 else 4 * Nat.pow 2 (-e).toNat
  ⟨(4 * m - if narrow then 1 else 2) * scale, 4 * m * scale, (4 * m + 2) * scale, den, m % 2 = 0⟩

/-- Whether `digits * num / den` lies in the interval. -/
def Interval.holds (i : Interval) (digits num den : Nat) : Bool :=
  let x := digits * num * i.den
  if i.closed then i.low * den ≤ x && x ≤ i.high * den else i.low * den < x && x < i.high * den

/-- The decimal of the interval nearest to its value among those with so many digits. -/
def nearestOn (i : Interval) (place : Int) (count : Nat) : Option Decimal :=
  let exponent := place - count
  let num := if 0 ≤ exponent then Nat.pow 10 exponent.toNat else 1
  let den := if 0 ≤ exponent then 1 else Nat.pow 10 (-exponent).toNat
  let below := i.value * den / (i.den * num)
  let nearest := roundDiv (i.value * den) (i.den * num)
  let other := if nearest = below then below + 1 else below
  if i.holds nearest num den then some ⟨nearest, exponent⟩
  else if i.holds other num den then some ⟨other, exponent⟩
  else none

/-- The shortest decimal that rounds to `m * 2 ^ e`, of several the nearest. -/
def shortest (m : Nat) (e : Int) : Decimal :=
  if m = 0 then ⟨0, 0⟩
  else
    let i := interval m e
    let place := decimalPlace i.value i.den
    ((List.range 17).findSome? fun n => nearestOn i place (n + 1)).getD ⟨m, e⟩

def zeros (n : Nat) : List Char := List.replicate n '0'

/-- Digits around a decimal point that stands after the first `place` of them. -/
def positional (digits : List Char) (place : Int) : List Char :=
  if place ≤ 0 then '0' :: '.' :: zeros (-place).toNat ++ digits
  else if digits.length ≤ place.toNat then digits ++ zeros (place.toNat - digits.length) ++ ['.', '0']
  else digits.take place.toNat ++ '.' :: digits.drop place.toNat

/-- An exponent with its sign, which is written for both directions. -/
def signedExponent (n : Int) : List Char := (if n < 0 then '-' else '+') :: (toString n.natAbs).toList

/-- Digits with a decimal point after the first one, times a power of ten. -/
def scientific (digits : List Char) (place : Int) : List Char :=
  let exponent := signedExponent (place - 1)
  match digits with
  | [] => []
  | [d] => d :: 'e' :: exponent
  | d :: rest => d :: '.' :: rest ++ 'e' :: exponent

def signed (negative : Bool) (cs : List Char) : String :=
  String.ofList (if negative then '-' :: cs else cs)

/-- A number as a document writes it: positional while the point stands within the first sixteen places
or at most five zeros before them. A document has no text for the others. -/
def written : Binary64 → Option String
  | .finite negative m e =>
    if m = 0 then some (signed negative ['0', '.', '0'])
    else
      let (digits, exponent) := (shortest m e).trimmed
      let place := exponent + digits.length
      some (signed negative
        (if -5 < place && place ≤ 16 then positional digits place else scientific digits place))
  | _ => none

end Binary64

end GatewayRouting
