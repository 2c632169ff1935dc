/-!
The characters of a YAML document with their places. Line ends of every kind become newlines, except for
the two separators that Unicode has for lines and paragraphs, which stay what they are.
-/

namespace GatewayRouting.Yaml

/-- A character with the number of bytes before it in the document, its line, and the number of characters
before it on that line. -/
structure Placed where
  char : Char
  index : Nat
  line : Nat
  column : Nat
deriving DecidableEq

def isBlank (c : Char) : Bool := c == ' ' || c == '\t'

def lineSeparator : Char := Char.ofNat 0x2028
def paragraphSeparator : Char := Char.ofNat 0x2029

/-- A mark of byte order, which may stand before a line. -/
def orderMark : Char := Char.ofNat 0xFEFF

/-- The line end that a character on its own is. -/
def lineEnd? (c : Char) : Option Char :=
  if c == '\n' || c == '\r' || c == Char.ofNat 0x85 then some '\n'
  else if c == lineSeparator || c == paragraphSeparator then some c
  else none

/-- Characters with their places, from a place on. -/
def placed (index line column : Nat) : List Char → List Placed
  | [] => []
  | '\r' :: '\n' :: rest => ⟨'\n', index, line, column⟩ :: placed (index + 2) (line + 1) 0 rest
  | c :: rest =>
    match lineEnd? c with
    | some e => ⟨e, index, line, column⟩ :: placed (index + c.utf8Size) (line + 1) 0 rest
    | none => ⟨c, index, line, column⟩ :: placed (index + c.utf8Size) line (column + 1) rest

/-- A line end among characters with places. -/
def isBreak (c : Char) : Bool := c == '\n' || c == lineSeparator || c == paragraphSeparator

/-- Whether a blank, a line end or the end of the text comes first. -/
def startsBlank : List Placed → Bool
  | [] => true
  | p :: _ => isBlank p.char || isBreak p.char

/-- Whether a document begins or ends here: three dashes or points at the start of a line, and nothing after. -/
def isMarker : List Placed → Bool
  | a :: b :: c :: rest =>
    a.column == 0 && (a.char == '-' || a.char == '.') && b.char == a.char && c.char == a.char && startsBlank rest
  | _ => false

/-- The text after the end of this line, if only blanks and a comment come before that. -/
def nextLine? (comment : Bool) : List Placed → Option (List Placed)
  | [] => some []
  | p :: rest =>
    if isBreak p.char then some rest
    else if comment || isBlank p.char then nextLine? comment rest
    else if p.char == '#' then nextLine? true rest
    else none

/-- The characters that may stand in a document. -/
def isAllowed (c : Char) : Bool :=
  let n := c.toNat
  n == 0x09 || n == 0x0A || n == 0x0D || (0x20 ≤ n && n ≤ 0x7E) || n == 0x85 || (0xA0 ≤ n && n ≤ 0xFFFD) ||
    0x10000 ≤ n

/-- Line ends between two parts of a text. A newline becomes a space, or nothing if others follow it. -/
def folded (first : Char) (more : List Char) : List Char :=
  if first != '\n' then first :: more else if more.isEmpty then [' '] else more

/-- What stands between two parts of a scalar: blanks of one line, or line ends. The first line end is
absent if a backslash takes it away. -/
inductive Gap where
  | none
  | blanks (cs : List Char)
  | breaks (first : Option Char) (more : List Char)

namespace Gap

/-- The gap with one more blank or line end. Blanks around line ends do not count. -/
def add (c : Char) : Gap → Gap
  | none => if isBreak c then breaks (some c) [] else blanks [c]
  | blanks cs => if isBreak c then breaks (some c) [] else blanks (cs ++ [c])
  | breaks first more => if isBreak c then breaks first (more ++ [c]) else breaks first more

/-- What the gap is in the text of the scalar. -/
def text : Gap → List Char
  | none => []
  | blanks cs => cs
  | breaks (some first) more => folded first more
  | breaks Option.none more => more

def isEmpty : Gap → Bool
  | none => true
  | _ => false

def hasBreaks : Gap → Bool
  | breaks .. => true
  | _ => false

end Gap

end GatewayRouting.Yaml
