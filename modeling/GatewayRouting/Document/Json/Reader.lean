import GatewayRouting.Document.Json.Number

/-!
Reading JSON documents.
-/

namespace GatewayRouting.Json

/-- The space characters that JSON allows between tokens. -/
def isSpace (c : Char) : Bool := c == ' ' || c == '\n' || c == '\t' || c == '\r'

def skipSpace (cs : List Char) : List Char := cs.dropWhile isSpace

def hexUnit (a b c d : Char) : Option Nat := do
  let high := 16 * (← Text.hexValue a) + (← Text.hexValue b)
  return 256 * high + 16 * (← Text.hexValue c) + (← Text.hexValue d)

/-- The character that a letter after a backslash stands for. -/
def escapedChar : Char → Option Char
  | '"' => some '"'
  | '\\' => some '\\'
  | '/' => some '/'
  | 'b' => some '\x08'
  | 'f' => some '\x0c'
  | 'n' => some '\n'
  | 'r' => some '\r'
  | 't' => some '\t'
  | _ => none

/-- A character of a string, or one half of a surrogate pair. -/
inductive Unit16 where
  | char (c : Char)
  | half (n : Nat)

def Unit16.ofNat (n : Nat) : Unit16 := if 0xD800 ≤ n && n < 0xE000 then .half n else .char (.ofNat n)

def consUnit (u : Unit16) (r : List Unit16 × List Char) : List Unit16 × List Char := (u :: r.1, r.2)

/-- The rest of a string after its opening quote. -/
def readUnits : List Char → Option (List Unit16 × List Char)
  | [] => none
  | '"' :: rest => some ([], rest)
  | '\\' :: 'u' :: a :: b :: c :: d :: rest =>
    match hexUnit a b c d with
    | some n => (readUnits rest).map (consUnit (.ofNat n))
    | none => none
  | '\\' :: c :: rest =>
    match escapedChar c with
    | some e => (readUnits rest).map (consUnit (.char e))
    | none => none
  | c :: rest => if c = '\\' || c.toNat < 0x20 then none else (readUnits rest).map (consUnit (.char c))

/-- The text of a string. Half of a surrogate pair on its own denotes nothing. -/
def joinUnits : List Unit16 → Option (List Char)
  | [] => some []
  | .char c :: rest => (joinUnits rest).map (c :: ·)
  | .half n :: .half m :: rest =>
    if n < 0xDC00 && 0xDC00 ≤ m then
      (joinUnits rest).map (Char.ofNat (0x10000 + (n - 0xD800) * 0x400 + (m - 0xDC00)) :: ·)
    else none
  | .half _ :: _ => none

def readString (cs : List Char) : Option (Option (List Char) × List Char) :=
  (readUnits cs).map fun (units, rest) => (joinUnits units, rest)

def textValue : Option (List Char) → Value
  | some cs => .text (String.ofList cs)
  | none => .void

mutual

/-- The value at the front of the text. The first argument bounds the steps; one step is taken for each
value and for each comma. -/
def readValue : Nat → List Char → Option (Value × List Char)
  | 0, _ => none
  | steps + 1, cs =>
    match skipSpace cs with
    | 'n' :: 'u' :: 'l' :: 'l' :: rest => some (.null, rest)
    | 't' :: 'r' :: 'u' :: 'e' :: rest => some (.bool true, rest)
    | 'f' :: 'a' :: 'l' :: 's' :: 'e' :: rest => some (.bool false, rest)
    | '"' :: rest => (readString rest).map fun (s, rest) => (textValue s, rest)
    | '[' :: rest =>
      match skipSpace rest with
      | ']' :: rest => some (.list [], rest)
      | _ => (readItems steps rest).map fun (items, rest) => (.list items, rest)
    | '\x7b' :: rest =>
      match skipSpace rest with
      | '\x7d' :: rest => some (.record [], rest)
      | _ => (readEntries steps rest).map fun (entries, rest) => ((entries.map .record).getD .void, rest)
    | cs => (readNumber cs).map fun (t, rest) => (t.value, rest)

/-- Values up to the closing bracket. -/
def readItems : Nat → List Char → Option (List Value × List Char)
  | 0, _ => none
  | steps + 1, cs =>
    match readValue steps cs with
    | none => none
    | some (v, rest) =>
      match skipSpace rest with
      | ',' :: rest => (readItems steps rest).map fun (vs, rest) => (v :: vs, rest)
      | ']' :: rest => some ([v], rest)
      | _ => none

/-- Named values up to the closing brace. A name that denotes nothing makes the record denote nothing. -/
def readEntries : Nat → List Char → Option (Option (List (Value × Value)) × List Char)
  | 0, _ => none
  | steps + 1, cs =>
    match skipSpace cs with
    | '"' :: rest =>
      match readString rest with
      | none => none
      | some (name, rest) =>
        match skipSpace rest with
        | ':' :: rest =>
          match readValue steps rest with
          | none => none
          | some (v, rest) =>
            let entry := name.map fun name => (Value.text (String.ofList name), v)
            match skipSpace rest with
            | ',' :: rest =>
              (readEntries steps rest).map fun (entries, rest) =>
                (entry.bind fun entry => entries.map (entry :: ·), rest)
            | '\x7d' :: rest => some (entry.map ([·]), rest)
            | _ => none
        | _ => none
    | _ => none

end

/-- How deeply lists and records may be nested. -/
def depthBound : Nat := 127

/-- The value of a whole document. -/
def read (s : String) : Option Value :=
  match readValue (s.toList.length + 1) s.toList with
  | some (v, rest) => if (skipSpace rest).isEmpty then some (v.bounded depthBound) else none
  | none => none

end GatewayRouting.Json
