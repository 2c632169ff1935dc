import GatewayRouting.Document.Scalar
import GatewayRouting.Text.Blank

/-!
Periods: a time span in milliseconds, read from a number of seconds or from counts with units such as
`1h30m`, and written with the largest units first.
-/

namespace GatewayRouting

structure Period where
  millis : Nat
deriving DecidableEq, Inhabited

inductive PeriodError where
  | empty
  | numberExpected (text : String)
  | unitMissing (text : String)
  | invalidNumber (number : String)
  | unknownUnit (unit : String)
  | negative
  | wrongType (found : Value)

namespace PeriodError

def message : PeriodError → String
  | empty => "invalid period: empty string"
  | numberExpected text => "invalid period: expected a number in: " ++ text
  | unitMissing text => "invalid period: missing unit in: " ++ text
  | invalidNumber number => "invalid period: invalid number: " ++ number
  | unknownUnit unit => "invalid period: unknown unit: " ++ unit
  | negative => "period cannot be negative"
  | wrongType found => "invalid type: " ++ found.description ++
      ", expected a period like '1s', '15m', '1h', '1d' or a number of seconds"

end PeriodError

namespace Period

def wordBound : Nat := Nat.pow 2 64

def ofMillis (n : Nat) : Period := ⟨n⟩
def ofSeconds (n : Nat) : Period := ⟨1000 * n⟩

def seconds (p : Period) : Nat := p.millis / 1000
def subsecondMillis (p : Period) : Nat := p.millis % 1000
def isZero (p : Period) : Bool := p.millis == 0

/-- The units with their lengths in milliseconds, the longest first. -/
def units : List (String × Nat) :=
  [("d", 86400000), ("h", 3600000), ("m", 60000), ("s", 1000), ("ms", 1)]

def unitMillis? (unit : String) : Option Nat := units.lookup unit

def isNumeric (c : Char) : Bool := c.isDigit || c == '.'

/-- The runs of digits and points in a text, each with the run of other characters after it. Only the
first run can lack its number and only the last its unit. -/
def runs : List Char → List (List Char × List Char)
  | [] => []
  | c :: cs =>
    if isNumeric c then
      match runs cs with
      | (d :: number, unit) :: rest => (c :: d :: number, unit) :: rest
      | ([], unit) :: rest => ([c], unit) :: rest
      | [] => [([c], [])]
    else
      match runs cs with
      | ([], unit) :: rest => ([], c :: unit) :: rest
      | rest => ([], [c]) :: rest

/-- The number that digits with at most one point denote. -/
def number? (cs : List Char) : Option Binary64 :=
  match cs.span Char.isDigit with
  | (whole, []) => if whole.isEmpty then none else some (.ofDecimal false (Text.digitsValue whole) 0)
  | (whole, _ :: fraction) =>
    if !fraction.all Char.isDigit || (whole.isEmpty && fraction.isEmpty) then none
    else some (.ofDecimal false (Text.digitsValue (whole ++ fraction)) (-fraction.length))

/-- The milliseconds of one count with its unit. -/
def runMillis (text : String) (run : List Char × List Char) : Except PeriodError Binary64 :=
  if run.1.isEmpty then .error (.numberExpected text)
  else if run.2.isEmpty then .error (.unitMissing text)
  else match number? run.1 with
    | none => .error (.invalidNumber (String.ofList run.1))
    | some count =>
      match unitMillis? (String.ofList run.2) with
      | none => .error (.unknownUnit (String.ofList run.2))
      | some size => .ok (count * .ofNat size)

def total (text : String) (sum : Binary64) : List (List Char × List Char) → Except PeriodError Binary64
  | [] => .ok sum
  | run :: rest => do
    let millis ← runMillis text run
    total text (sum + millis) rest

/-- The period of a text: a number of seconds that fits a word, or counts with units whose sum is
rounded to milliseconds. -/
def parse (s : String) : Except PeriodError Period :=
  let cs := Text.trim s.toList
  if cs.isEmpty then .error .empty
  else match Text.naturalBelow wordBound cs with
    | some n => .ok (ofSeconds n)
    | none => do
      let millis ← total (String.ofList cs) .zero (runs cs)
      .ok (ofMillis (millis.toNatBelow (wordBound - 1)))

/-- The parts of a number of milliseconds in the given units, zero counts left out. -/
def parts : List (String × Nat) → Nat → List (Nat × String)
  | [], _ => []
  | (unit, size) :: rest, millis =>
    if size ≤ millis then (millis / size, unit) :: parts rest (millis % size) else parts rest millis

/-- The period in its largest units. A period past a word of milliseconds loses the excess. -/
def toText (p : Period) : String :=
  let millis := p.millis % wordBound
  if millis = 0 then "0s"
  else String.join ((parts units millis).map fun (count, unit) => toString count ++ unit)

/-- The period that a document value stands for: a text, or a number of seconds. -/
def ofValue (v : Value) : Except PeriodError Period :=
  match v with
  | .text s => parse s
  | .int n => if n < 0 then .error .negative else .ok (ofSeconds n.toNat)
  | .plain s =>
    match Scalar.resolve s with
    | .text s => parse s
    | .int n => if n < 0 then .error .negative else .ok (ofSeconds n.toNat)
    | found => .error (.wrongType found)
  | found => .error (.wrongType found)

end Period

end GatewayRouting
