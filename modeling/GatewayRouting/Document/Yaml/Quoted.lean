import GatewayRouting.Document.Yaml.Place
import GatewayRouting.Text.Ascii

/-!
Scalars in quotes. Line ends inside them are folded; a backslash between double quotes escapes. No line of
theirs may look like the start or the end of a document.
-/

namespace GatewayRouting.Yaml

def prepend (front : List Char) (r : List Char × List Placed) : List Char × List Placed := (front ++ r.1, r.2)

/-- The text up to the closing single quote, where a doubled quote stands for one, and what follows. -/
def singleQuoted (gap : Gap) : List Placed → Option (List Char × List Placed)
  | [] => none
  | p :: rest =>
    if isBlank p.char || isBreak p.char then singleQuoted (gap.add p.char) rest
    else if isMarker (p :: rest) then none
    else if p.char == '\'' then
      match rest with
      | [] => some (gap.text, [])
      | q :: others =>
        if q.char == '\'' then (singleQuoted .none others).map (prepend (gap.text ++ ['\'']))
        else some (gap.text, q :: others)
    else (singleQuoted .none rest).map (prepend (gap.text ++ [p.char]))

/-- The character that one letter after a backslash stands for. -/
def shortEscape : Char → Option Char
  | '0' => some (Char.ofNat 0)
  | 'a' => some '\x07'
  | 'b' => some '\x08'
  | 't' => some '\t'
  | '\t' => some '\t'
  | 'n' => some '\n'
  | 'v' => some '\x0b'
  | 'f' => some '\x0c'
  | 'r' => some '\r'
  | 'e' => some '\x1b'
  | ' ' => some ' '
  | '"' => some '"'
  | '/' => some '/'
  | '\\' => some '\\'
  | 'N' => some (Char.ofNat 0x85)
  | '_' => some (Char.ofNat 0xA0)
  | 'L' => some lineSeparator
  | 'P' => some paragraphSeparator
  | _ => none

/-- How many digits of a code point follow a letter after a backslash. -/
def codeLength : Char → Option Nat
  | 'x' => some 2
  | 'u' => some 4
  | 'U' => some 8
  | _ => none

/-- The character of a code point. -/
def charOf? (n : Nat) : Option Char := if n.isValidChar then some (Char.ofNat n) else none

/-- Where a reader between double quotes is. -/
inductive EscapeState where
  | outside
  | afterBackslash
  /-- Inside a code point: the digits before the last one that are missing, and the value so far. -/
  | inCode (missing value : Nat)

/-- The text up to the closing double quote, and what follows. A backslash at the end of a line takes the
line end away. -/
def doubleQuoted (state : EscapeState) (gap : Gap) : List Placed → Option (List Char × List Placed)
  | [] => none
  | p :: rest =>
    match state with
    | .outside =>
      if isBlank p.char || isBreak p.char then doubleQuoted .outside (gap.add p.char) rest
      else if isMarker (p :: rest) then none
      else if p.char == '"' then some (gap.text, rest)
      else if p.char == '\\' then (doubleQuoted .afterBackslash .none rest).map (prepend gap.text)
      else (doubleQuoted .outside .none rest).map (prepend (gap.text ++ [p.char]))
    | .afterBackslash =>
      if isBreak p.char then doubleQuoted .outside (.breaks none []) rest
      else match codeLength p.char, shortEscape p.char with
        | some n, _ => doubleQuoted (.inCode (n - 1) 0) .none rest
        | none, some c => (doubleQuoted .outside .none rest).map (prepend [c])
        | none, none => none
    | .inCode missing value =>
      match Text.hexValue p.char, missing with
      | none, _ => none
      | some d, 0 =>
        match charOf? (16 * value + d) with
        | some c => (doubleQuoted .outside .none rest).map (prepend [c])
        | none => none
      | some d, n + 1 => doubleQuoted (.inCode n (16 * value + d)) .none rest

end GatewayRouting.Yaml
