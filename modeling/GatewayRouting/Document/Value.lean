import GatewayRouting.Number.Shortest

/-!
The contents of a document, before anything is asked of them.
-/

namespace GatewayRouting

/-- A document value. A record keeps its entries in the order of the document, repeated keys included. -/
inductive Value where
  | null
  | bool (b : Bool)
  | int (n : Int)
  | float (x : Binary64)
  | text (s : String)
  /-- A scalar without quotes, whose type is decided by what is asked for. -/
  | plain (s : String)
  | list (items : List Value)
  | record (entries : List (Value × Value))
  /-- A well-formed part of a document that denotes nothing: it may be passed over but not read. -/
  | void
deriving Inhabited

namespace Value

/-- A record whose keys are texts. -/
def named (entries : List (String × Value)) : Value := .record (entries.map fun e => (.text e.1, e.2))

/-- The name that a key gives, if it is a scalar. -/
def name? : Value → Option String
  | .text s => some s
  | .plain s => some s
  | _ => none

/-- The last entry of that name in a record. -/
def get? (name : String) : Value → Option Value
  | .record entries => (entries.reverse.find? fun e => e.1.name? == some name).map Prod.snd
  | _ => none

mutual

/-- The value with nothing nested more deeply: the lists and records past that depth may only be passed over. -/
def bounded (depth : Nat) : Value → Value
  | .list items =>
    match depth with
    | 0 => .void
    | d + 1 => .list (boundedItems d items)
  | .record entries =>
    match depth with
    | 0 => .void
    | d + 1 => .record (boundedEntries d entries)
  | v => v

def boundedItems (depth : Nat) : List Value → List Value
  | [] => []
  | v :: rest => bounded depth v :: boundedItems depth rest

def boundedEntries (depth : Nat) : List (Value × Value) → List (Value × Value)
  | [] => []
  | (key, v) :: rest => (bounded depth key, bounded depth v) :: boundedEntries depth rest

end

/-- The value as a message names it. -/
def description : Value → String
  | .null => "null"
  | .bool b => "boolean \x60" ++ (if b then "true" else "false") ++ "\x60"
  | .int n => "integer \x60" ++ toString n ++ "\x60"
  | .float x => "floating point \x60" ++ x.written.getD "null" ++ "\x60"
  | .text s => "string \x22" ++ s ++ "\x22"
  | .plain s => "string \x22" ++ s ++ "\x22"
  | .list _ => "sequence"
  | .record _ => "map"
  | .void => "nothing"

end Value

end GatewayRouting
