import GatewayRouting.Document.Value
import GatewayRouting.Number.Shortest

/-!
Writing JSON documents, without space between tokens.
-/

namespace GatewayRouting.Json

def hexDigit (n : Nat) : Char := if n < 10 then Char.ofNat (48 + n) else Char.ofNat (87 + n)

/-- A character inside a string. -/
def writtenChar : Char → List Char
  | '"' => ['\\', '"']
  | '\\' => ['\\', '\\']
  | '\x08' => ['\\', 'b']
  | '\x0c' => ['\\', 'f']
  | '\n' => ['\\', 'n']
  | '\r' => ['\\', 'r']
  | '\t' => ['\\', 't']
  | c => if c.toNat < 0x20 then ['\\', 'u', '0', '0', hexDigit (c.toNat / 16), hexDigit (c.toNat % 16)] else [c]

def writtenString (s : String) : List Char := '"' :: s.toList.flatMap writtenChar ++ ['"']

mutual

def writeValue : Value → List Char
  | .null => ['n', 'u', 'l', 'l']
  | .void => ['n', 'u', 'l', 'l']
  | .bool true => ['t', 'r', 'u', 'e']
  | .bool false => ['f', 'a', 'l', 's', 'e']
  | .int n => (toString n).toList
  | .float x => (x.written.getD "null").toList
  | .text s => writtenString s
  | .plain s => writtenString s
  | .list items => '[' :: writeItems items ++ [']']
  | .record entries => '\x7b' :: writeEntries entries ++ ['\x7d']

def writeItems : List Value → List Char
  | [] => []
  | [v] => writeValue v
  | v :: rest => writeValue v ++ ',' :: writeItems rest

def writeEntries : List (Value × Value) → List Char
  | [] => []
  | [(key, v)] => writeValue key ++ ':' :: writeValue v
  | (key, v) :: rest => writeValue key ++ ':' :: writeValue v ++ ',' :: writeEntries rest

end

def write (v : Value) : String := String.ofList (writeValue v)

end GatewayRouting.Json
