import GatewayRouting.Text.Ascii
import GatewayRouting.Text.Split

/-!
Tables of what is said about characters, range by range. A table is written as lines of entries with blanks
between them: the first code point of a range in hexadecimal digits, after a dash the last one if there are
several, and what is said about them.
-/

namespace GatewayRouting.Text

structure CodeRange (α : Type) where
  first : Nat
  last : Nat
  value : α

/-- Ranges that ascend and do not overlap. -/
abbrev CodeTable (α : Type) := Array (CodeRange α)

/-- The number that hexadecimal digits denote. -/
def hexNumber? (cs : List Char) : Option Nat :=
  if cs.isEmpty then none else cs.foldlM (fun n c => (hexValue c).map (16 * n + ·)) 0

namespace CodeTable

def isRangeChar (c : Char) : Bool := (hexValue c).isSome || c == '-'

def readEntry {α : Type} (read : List Char → Option α) (entry : List Char) : Option (CodeRange α) := do
  let (range, said) := entry.span isRangeChar
  let value ← read said
  match splitOnce '-' range with
  | some (first, last) => return ⟨← hexNumber? first, ← hexNumber? last, value⟩
  | none =>
    let n ← hexNumber? range
    return ⟨n, n, value⟩

/-- The table that is written as these lines. What cannot be read is left out. -/
def ofLines {α : Type} (read : List Char → Option α) (lines : List String) : CodeTable α :=
  (lines.flatMap fun line => (splitAll ' ' line.toList).filterMap (readEntry read)).toArray

/-- Nothing more is said about a range than that it is in the table. -/
def isMember : List Char → Option Unit
  | [] => some ()
  | _ => none

/-- A value after an equals sign. -/
def valueAfter {α : Type} (read : List Char → Option α) : List Char → Option α
  | '=' :: cs => read cs
  | _ => none

/-- The range of a code point among those from one place to another, found by halves. -/
def searchBetween {α : Type} (t : CodeTable α) (n low high : Nat) : Option (CodeRange α) :=
  if low < high then
    let middle := (low + high) / 2
    match t[middle]? with
    | some r =>
      if n < r.first then searchBetween t n low middle
      else if r.last < n then searchBetween t n (middle + 1) high
      else some r
    | none => none
  else none
termination_by high - low
decreasing_by all_goals omega

/-- The range that a character is in. -/
def search {α : Type} (t : CodeTable α) (c : Char) : Option (CodeRange α) :=
  t.searchBetween c.toNat 0 t.size

/-- What the table says about a character. -/
def get? {α : Type} (t : CodeTable α) (c : Char) : Option α := (t.search c).map (·.value)

def contains {α : Type} (t : CodeTable α) (c : Char) : Bool := (t.search c).isSome

end CodeTable

end GatewayRouting.Text
