import GatewayRouting.Dictionary
import GatewayRouting.Document.Scalar

/-!
Reading typed values from documents. A scalar without quotes is whatever is asked for, if it can be.
-/

namespace GatewayRouting.Decode

/-- A reader of typed values. -/
abbrev Reader (α : Type) := Value → Option α

def text : Reader String
  | .text s => some s
  | .plain s => some s
  | _ => none

def bool : Reader Bool
  | .bool b => some b
  | .plain s => Scalar.bool? s
  | _ => none

/-- A natural number below a bound. -/
def below (bound : Nat) : Reader Nat
  | .int n => if 0 ≤ n && n < bound then some n.toNat else none
  | .plain s => (Scalar.nat? s).filter (· < bound)
  | _ => none

def word16 : Reader UInt16 := fun v => (below (Nat.pow 2 16) v).map UInt16.ofNat
def word32 : Reader UInt32 := fun v => (below (Nat.pow 2 32) v).map UInt32.ofNat
def word64 : Reader UInt64 := fun v => (below (Nat.pow 2 64) v).map UInt64.ofNat

def double : Reader Binary64
  | .int n => some (.ofInt n)
  | .float x => some x
  | .plain s => Scalar.float? s
  | _ => none

/-- A value that may be null. -/
def option {α : Type} (read : Reader α) : Reader (Option α)
  | .null => some none
  | .plain s => if Scalar.isNull s then some none else (read (.plain s)).map some
  | v => (read v).map some

/-- A list; an empty scalar is an empty list. -/
def list {α : Type} (read : Reader α) : Reader (List α)
  | .list items => items.mapM read
  | .plain "" => some []
  | _ => none

def entry {α : Type} (read : Reader α) (e : Value × Value) : Option (String × α) := do
  return (← e.1.name?, ← read e.2)

/-- A dictionary; an empty scalar is an empty one, and of a repeated key the last entry counts. -/
def dictionary {α : Type} (read : Reader α) : Reader (Dictionary α)
  | .record entries => (entries.mapM (entry read)).map Dictionary.ofList
  | .plain "" => some .empty
  | _ => none

/-- One of several names. The name may also be the key of a record that holds null. -/
def choice {α : Type} (names : List (String × α)) : Reader α
  | .text s => names.lookup s
  | .plain s => names.lookup s
  | .record [(.text s, .null)] => names.lookup s
  | _ => none

/-- Whether no name occurs twice. -/
def distinctNames : List (String × Value) → Bool
  | [] => true
  | e :: rest => !rest.any (·.1 == e.1) && distinctNames rest

/-- The field that a key means, if it is known: a text means the field of that name, and a number, once it
is settled that it is one, the field in that place. Other keys mean nothing. -/
def fieldOf (names : List String) : Value → Option (Option String)
  | .text s => some (if names.contains s then some s else none)
  | .plain s => some (if names.contains s then some s else none)
  | .int n => if n < 0 then none else some names[n.toNat]?
  | _ => none

/-- The entries for known fields, by their names. -/
def knownFields (names : List String) : List (Value × Value) → Option (List (String × Value))
  | [] => some []
  | (key, v) :: rest => do
    match ← fieldOf names key with
    | some name => return (name, v) :: (← knownFields names rest)
    | none => knownFields names rest

/-- The fields of a section: a record whose known keys do not repeat, or a list of the first fields in
order. Unknown keys are passed over. -/
def fields (names : List String) : Reader (List (String × Value))
  | .record entries => (knownFields names entries).filter distinctNames
  | .list items => if items.length ≤ names.length then some (names.zip items) else none
  | .plain "" => some []
  | _ => none

def required {α : Type} (read : Reader α) (fs : List (String × Value)) (name : String) : Option α :=
  (fs.lookup name).bind read

def withDefault {α : Type} (default : α) (read : Reader α) (fs : List (String × Value)) (name : String) :
    Option α :=
  match fs.lookup name with
  | some v => read v
  | none => some default

def optional {α : Type} (read : Reader α) (fs : List (String × Value)) (name : String) : Option (Option α) :=
  withDefault none (option read) fs name

mutual

/-- Every scalar of the value, keys included, as what it stands for where any type is welcome; none if one
denotes nothing. -/
def settled : Value → Option Value
  | .null => some .null
  | .bool b => some (.bool b)
  | .int n => some (.int n)
  | .float x => some (.float x)
  | .text s => some (.text s)
  | .plain s =>
    match Scalar.resolve s with
    | .void => none
    | v => some v
  | .list items => (settledItems items).map .list
  | .record entries => (settledEntries entries).map .record
  | .void => none

def settledItems : List Value → Option (List Value)
  | [] => some []
  | v :: rest => do some ((← settled v) :: (← settledItems rest))

def settledEntries : List (Value × Value) → Option (List (Value × Value))
  | [] => some []
  | (key, v) :: rest => do some ((← settled key, ← settled v) :: (← settledEntries rest))

end

end GatewayRouting.Decode
