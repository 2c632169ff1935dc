import GatewayRouting.Capture

/-!
Captured values put into a downstream template. A name that was not captured stays as it is written,
and so does a brace that is never closed; nothing is looked for inside a value.
-/

namespace GatewayRouting

/-- A stretch of a downstream template. -/
inductive Span where
  | text (cs : List Char)
  | name (cs : List Char)
deriving DecidableEq

namespace Span

/-- A character in front of spans. -/
def consChar (c : Char) : List Span → List Span
  | text cs :: rest => text (c :: cs) :: rest
  | spans => text [c] :: spans

/-- The spans of a text, read outside braces or after an opening brace and the characters given. A name
ends at the first closing brace, whatever it holds. -/
def scan : Option (List Char) → List Char → List Span
  | none, [] => []
  | none, c :: rest => if c = '\x7b' then scan (some []) rest else consChar c (scan none rest)
  | some inside, [] => [text ('\x7b' :: inside)]
  | some inside, c :: rest =>
    if c = '\x7d' then name inside :: scan none rest else scan (some (inside ++ [c])) rest

def ofText (template : List Char) : List Span := scan none template

def name? : Span → Option (List Char)
  | name cs => some cs
  | text _ => none

/-- Whether a path segment ends where these spans begin. -/
def atSegmentEnd : List Span → Bool
  | [] => true
  | text ('/' :: _) :: _ => true
  | text ('?' :: _) :: _ => true
  | _ => false

/-- The spans written after `out`. An empty value that ends a segment takes the slash before it with it. -/
def fill (captures : List Capture) (out : List Char) : List Span → List Char
  | [] => out
  | text cs :: rest => fill captures (out ++ cs) rest
  | name cs :: rest =>
    match captured? captures cs with
    | some value =>
      if value.isEmpty && atSegmentEnd rest && out.getLast? == some '/' then fill captures out.dropLast rest
      else fill captures (out ++ value) rest
    | none => fill captures (out ++ '\x7b' :: cs ++ ['\x7d']) rest

end Span

/-- The template with every captured name replaced by its value. -/
def substitute (template : List Char) (captures : List Capture) : List Char :=
  Span.fill captures [] (Span.ofText template)

/-- The names between braces in a downstream template. -/
def templateNames (template : List Char) : List (List Char) := (Span.ofText template).filterMap Span.name?

end GatewayRouting
