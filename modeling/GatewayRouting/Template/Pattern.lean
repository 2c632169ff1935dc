import GatewayRouting.Text.CaseFold

/-!
Patterns: what a template demands of a text, piece by piece. A piece can take several numbers of characters
from the front of a text, listed in the order in which they are preferred; a pattern matches a whole text
in the first way that works for all of its pieces.
-/

namespace GatewayRouting

inductive Piece where
  | literal (text : List Char)
  /-- One slash or none, a slash preferred. -/
  | slash
  /-- A non-empty text without slash, the longest preferred. -/
  | segment
  /-- A non-empty text without slash, the shortest preferred. -/
  | shortSegment
  /-- Any text without newline, the longest preferred. -/
  | anything
  /-- A non-empty text without newline, the longest preferred. -/
  | something
  /-- Nothing, or a slash and any text without newline; nothing preferred. -/
  | optionalTail
deriving DecidableEq

namespace Piece

/-- How many characters at the front of a text satisfy `ok`. -/
def run (ok : Char → Bool) (cs : List Char) : Nat := (cs.takeWhile ok).length

/-- The numbers up to `n`, the greatest first. -/
def downFrom (n : Nat) : List Nat := (List.range (n + 1)).reverse

/-- Whether a literal stands at the front of a text. -/
def isAtFront (caseSensitive : Bool) : List Char → List Char → Bool
  | [], _ => true
  | _ :: _, [] => false
  | l :: ls, c :: cs => Text.sameChar caseSensitive l c && isAtFront caseSensitive ls cs

def notSlash (c : Char) : Bool := c != '/'
def notNewline (c : Char) : Bool := c != '\n'

/-- How many characters the piece can take from the front of a text, the preferred number first. -/
def lengths (caseSensitive : Bool) : Piece → List Char → List Nat
  | literal text, cs => if isAtFront caseSensitive text cs then [text.length] else []
  | slash, cs => if cs.head? = some '/' then [1, 0] else [0]
  | segment, cs => (downFrom (run notSlash cs)).dropLast
  | shortSegment, cs => (List.range (run notSlash cs)).map (· + 1)
  | anything, cs => downFrom (run notNewline cs)
  | something, cs => (downFrom (run notNewline cs)).dropLast
  | optionalTail, cs =>
    0 :: match cs with
      | '/' :: rest => (downFrom (run notNewline rest)).map (· + 1)
      | _ => []

/-- The values captured by taking the front of a text. The slash of an optional tail is no part of its value. -/
def values (p : Piece) (taken : List Char) : List (List Char) :=
  match p with
  | literal _ | slash => []
  | segment | shortSegment | anything | something => [taken]
  | optionalTail => [taken.tail]

/-- For each end of a text, whether characters that satisfy `ok` lead from it to an end that is marked. -/
def leading (ok : Char → Bool) : List Char → List Bool → List Bool
  | [], marks => [marks.headD false]
  | c :: cs, marks =>
    let after := leading ok cs marks.tail
    (marks.headD false || (ok c && after.headD false)) :: after

/-- The same with at least one character. -/
def leadingOn (ok : Char → Bool) (cs : List Char) (marks : List Bool) : List Bool :=
  cs.zipWith (fun c after => ok c && after) (leading ok cs marks).tail ++ [false]

/-- For each end of a text, whether a literal leads from it to an end that is marked. -/
def leadingLiteral (caseSensitive : Bool) (text : List Char) : List Char → List Bool → List Bool
  | [], marks => [text.isEmpty && marks.headD false]
  | c :: cs, marks =>
    (isAtFront caseSensitive text (c :: cs) && (marks.drop text.length).headD false) ::
      leadingLiteral caseSensitive text cs marks.tail

/-- For each end of a text, whether the piece leads from it to an end that is marked. The ends are listed
with the whole text first. -/
def ends (caseSensitive : Bool) (p : Piece) (cs : List Char) (marks : List Bool) : List Bool :=
  match p with
  | literal text => leadingLiteral caseSensitive text cs marks
  | slash => marks.zipWith (· || ·) (cs.zipWith (fun c after => c == '/' && after) marks.tail ++ [false])
  | segment | shortSegment => leadingOn notSlash cs marks
  | anything => leading notNewline cs marks
  | something => leadingOn notNewline cs marks
  | optionalTail =>
    let tails := (leading notNewline cs marks).tail
    marks.zipWith (· || ·) (cs.zipWith (fun c after => c == '/' && after) tails ++ [false])

/-- The characters that an expression marks with a backslash to mean themselves. -/
def marked : List Char := "\\.+*?()|[]\x7b\x7d^$#&-~".toList

def escaped (text : List Char) : List Char :=
  text.flatMap fun c => if marked.contains c then ['\\', c] else [c]

/-- The piece as a regular expression. -/
def expression : Piece → List Char
  | literal text => escaped text
  | slash => "/?".toList
  | segment => "([^/]+)".toList
  | shortSegment => "([^/]+?)".toList
  | anything => "(.*)".toList
  | something => "(.+)".toList
  | optionalTail => "(?:|/(.*))".toList

end Piece

namespace Pattern

/-- For each end of a text, whether the pieces take it as a whole. -/
def ends (caseSensitive : Bool) (cs : List Char) : List Piece → List Bool
  | [] => List.replicate cs.length false ++ [true]
  | p :: pieces => p.ends caseSensitive cs (ends caseSensitive cs pieces)

/-- The values captured from a text that the pieces take as a whole. Each piece takes as many characters as
it prefers among the numbers that leave an end for the other pieces; no number is tried twice. -/
def capture (caseSensitive : Bool) : List Piece → List Char → Option (List (List Char))
  | [], [] => some []
  | [], _ :: _ => none
  | p :: pieces, cs =>
    match p.lengths caseSensitive cs with
    | [] => none
    | lengths =>
      let fits := (ends caseSensitive cs pieces).toArray
      match lengths.find? fun k => fits.getD k false with
      | some k => (capture caseSensitive pieces (cs.drop k)).map (p.values (cs.take k) ++ ·)
      | none => none

/-- The pattern as a regular expression. -/
def expression (pieces : List Piece) : String :=
  String.ofList ('^' :: pieces.flatMap Piece.expression ++ ['$'])

end Pattern

end GatewayRouting
