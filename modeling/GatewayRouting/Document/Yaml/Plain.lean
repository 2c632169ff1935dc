import GatewayRouting.Document.Yaml.Place

/-!
Scalars without quotes. They end before a colon that a blank follows, before a comment, and before a line
that stands too far left; inside brackets also before the characters that separate items.
-/

namespace GatewayRouting.Yaml

/-- The characters that separate items inside brackets. -/
def isSeparator (c : Char) : Bool := c == ',' || c == '[' || c == ']' || c == '\x7b' || c == '\x7d'

/-- The characters that start something else than a plain scalar. -/
def isIndicator (c : Char) : Bool := "-?:,[]\x7b\x7d#&*!|>'\"%@\x60".toList.contains c

def headIs (ok : Char → Bool) : List Placed → Bool
  | [] => false
  | p :: _ => ok p.char

/-- Whether a plain scalar can start with this character before that text. -/
def startsPlain (inside : Bool) (p : Placed) (rest : List Placed) : Bool :=
  !(isIndicator p.char || isBlank p.char || isBreak p.char) ||
    (p.char == '-' && !headIs isBlank rest) ||
    (!inside && (p.char == '?' || p.char == ':') && !startsBlank rest)

/-- Whether a plain scalar ends before this character, after a gap. Its lines stand at `least` or later. -/
def endsPlain (inside : Bool) (least : Nat) (gap : Gap) (p : Placed) (rest : List Placed) : Bool :=
  (!gap.isEmpty && ((!inside && p.column < least) || isMarker (p :: rest) || p.char == '#')) ||
    (p.char == ':' && startsBlank rest) || (inside && isSeparator p.char)

/-- The rest of a plain scalar after a gap, whether it ended on a later line, and the text after it. A tab
may not stand in for indentation, and inside brackets a colon may not touch what separates items. -/
def plain (inside : Bool) (least : Nat) (gap : Gap) : List Placed → Option (List Char × Bool × List Placed)
  | [] => some ([], gap.hasBreaks, [])
  | p :: rest =>
    if isBlank p.char || isBreak p.char then
      if p.char == '\t' && gap.hasBreaks && p.column < least then none
      else plain inside least (gap.add p.char) rest
    else if endsPlain inside least gap p rest then some ([], gap.hasBreaks, p :: rest)
    else if inside && p.char == ':' && headIs (fun c => isSeparator c || c == '?') rest then none
    else
      (plain inside least .none rest).map fun (text, broken, left) => (gap.text ++ p.char :: text, broken, left)

end GatewayRouting.Yaml
