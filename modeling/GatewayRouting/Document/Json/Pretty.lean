import GatewayRouting.Document.Json.Writer

/-!
Writing JSON documents for readers: an item on every line, each level two spaces further in.
-/

namespace GatewayRouting.Json

/-- The start of a line on some level. -/
def lineStart (level : Nat) : List Char := '\n' :: List.replicate (2 * level) ' '

mutual

/-- A value on some level. Empty lists and records take no lines. -/
def prettyValue (level : Nat) : Value → List Char
  | .list [] => ['[', ']']
  | .list items => '[' :: prettyItems (level + 1) items ++ lineStart level ++ [']']
  | .record [] => ['\x7b', '\x7d']
  | .record entries => '\x7b' :: prettyEntries (level + 1) entries ++ lineStart level ++ ['\x7d']
  | v => writeValue v

def prettyItems (level : Nat) : List Value → List Char
  | [] => []
  | [v] => lineStart level ++ prettyValue level v
  | v :: rest => lineStart level ++ prettyValue level v ++ ',' :: prettyItems level rest

def prettyEntries (level : Nat) : List (Value × Value) → List Char
  | [] => []
  | [(key, v)] => lineStart level ++ writeValue key ++ ':' :: ' ' :: prettyValue level v
  | (key, v) :: rest =>
    lineStart level ++ writeValue key ++ ':' :: ' ' :: prettyValue level v ++ ',' :: prettyEntries level rest

end

def pretty (v : Value) : String := String.ofList (prettyValue 0 v)

end GatewayRouting.Json
