import GatewayRouting.Text.Ascii
import GatewayRouting.Text.Split

/-!
Domain labels with other characters than ASCII, written in ASCII: the plain characters first, then for
each other one the distance from the one before, in digits of base 36 whose weights adapt.
-/

namespace GatewayRouting.Punycode

def digit? (c : Char) : Option Nat :=
  if c.isLower then some (c.toNat - 'a'.toNat)
  else if c.isDigit then some (c.toNat - '0'.toNat + 26)
  else none

/-- The value from which on a digit at this place is not the last one. -/
def threshold (place bias : Nat) : Nat :=
  if place ≤ bias then 1 else if bias + 26 ≤ place then 26 else place - bias

def shrink (delta steps : Nat) : Nat × Nat :=
  if 455 < delta then shrink (delta / 35) (steps + 36) else (delta, steps)
termination_by delta
decreasing_by omega

/-- The next bias, after a distance in a text of so many characters. -/
def adapt (delta size : Nat) (first : Bool) : Nat :=
  let delta := if first then delta / 700 else delta / 2
  let (delta, steps) := shrink (delta + delta / size) 0
  steps + 36 * delta / (delta + 38)

structure State where
  text : List Nat
  code : Nat := 128
  index : Nat := 0
  bias : Nat := 72
  /-- The sum, weight and place of the digits read of the next distance. -/
  sum : Nat := 0
  weight : Nat := 1
  place : Nat := 36

def bound : Nat := Nat.pow 2 32

def step (s : State) (c : Char) : Option State := do
  let d ← digit? c
  let sum := s.sum + d * s.weight
  let t := threshold s.place s.bias
  let weight := s.weight * (36 - t)
  if bound ≤ s.index + sum then none
  else if t ≤ d then if bound ≤ weight then none else some { s with sum, weight, place := s.place + 36 }
  else
    let size := s.text.length + 1
    let index := s.index + sum
    let code := s.code + index / size
    if 0x110000 ≤ code then none
    else
      let bias := adapt sum size (s.index == 0)
      some { text := s.text.insertIdx (index % size) code, code, index := index % size + 1, bias }

/-- The characters of a label, without the mark `xn--` before it. -/
def decode? (cs : List Char) : Option (List Char) := do
  let (plain, rest) := match Text.splitLast '-' cs with
    | some (c :: plain, rest) => (c :: plain, rest)
    | _ => ([], cs)
  let s ← rest.foldlM step { text := plain.map Char.toNat }
  if s.place = 36 && s.text.all Nat.isValidChar then some (s.text.map Char.ofNat) else none

end GatewayRouting.Punycode
