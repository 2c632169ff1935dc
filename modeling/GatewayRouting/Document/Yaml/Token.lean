import GatewayRouting.Document.Yaml.Place
import GatewayRouting.Text.Ascii

/-!
The tokens of a YAML document, and the ones that are a mark with a name: directives, anchors, aliases and tags.
-/

namespace GatewayRouting.Yaml

inductive Token where
  /-- The version of the language that a document says it is written in. -/
  | version (major minor : Nat)
  /-- A declared abbreviation for the beginning of tags. -/
  | tagHandle (handle : String)
  | documentStart
  | documentEnd
  /-- The start of a sequence or a mapping by indentation, which `blockEnd` closes. -/
  | blockSequence
  | blockMapping
  | blockEnd
  | openList
  | closeList
  | openRecord
  | closeRecord
  | comma
  | dash
  /-- What comes before a key and before a value, written or not. -/
  | key
  | value
  | alias (name : String)
  | anchor (name : String)
  | tag (handle suffix : String)
  | scalar (text : String) (quoted : Bool)
deriving DecidableEq

/-- The characters of names. -/
def isNameChar (c : Char) : Bool := c.isAlphanum || c == '_' || c == '-'

/-- The longest front whose characters satisfy `ok`, and the rest. -/
def spanText (ok : Char → Bool) (text : List Placed) : String × List Placed :=
  let (front, rest) := text.span fun p => ok p.char
  (String.ofList (front.map (·.char)), rest)

def skipBlanks (text : List Placed) : List Placed := text.dropWhile fun p => isBlank p.char

/-- The text after a character that has to come first. -/
def expect (c : Char) : List Placed → Option (List Placed)
  | p :: rest => if p.char == c then some rest else none
  | [] => none

/-- A name after `&` or `*`. Only a blank or an indicator that cannot be mistaken may follow. -/
def readName (text : List Placed) : Option (String × List Placed) :=
  let (name, rest) := spanText isNameChar text
  let ends := match rest with
    | p :: _ => startsBlank rest || "?:,]\x7d%@\x60".toList.contains p.char
    | [] => true
  if name.isEmpty || !ends then none else some (name, rest)

/-- The characters of tags; those that separate items only where they cannot. -/
def isTagChar (full : Bool) (c : Char) : Bool :=
  isNameChar c || ";/?:@&=+$.!~*'()%".toList.contains c || (full && (c == ',' || c == '[' || c == ']'))

/-- A handle: a mark of exclamation, alone or with a name and a second one. -/
def readHandle (text : List Placed) : Option (String × List Placed) := do
  let text ← expect '!' text
  let (name, rest) := spanText isNameChar text
  match expect '!' rest with
  | some rest => return ("!" ++ name ++ "!", rest)
  | none => return ("!" ++ name, rest)

/-- The tag that starts here. One alone has no handle. -/
def readTag (inside : Bool) (text : List Placed) : Option (Token × List Placed) := do
  let (token, rest) ← match text with
    | _ :: p :: rest =>
      if p.char == '<' then
        let (suffix, rest) := spanText (isTagChar true) rest
        if suffix.isEmpty then none else (expect '>' rest).map (Token.tag "" suffix, ·)
      else short
    | _ => short
  if startsBlank rest || (inside && (expect ',' rest).isSome) then some (token, rest) else none
where
  short : Option (Token × List Placed) := do
    let (handle, rest) ← readHandle text
    if 1 < handle.length && handle.endsWith "!" then
      let (suffix, rest) := spanText (isTagChar false) rest
      if suffix.isEmpty then none else some (Token.tag handle suffix, rest)
    else
      let (more, rest) := spanText (isTagChar false) rest
      let suffix := (handle.drop 1).toString ++ more
      some (if suffix.isEmpty then Token.tag "" "!" else Token.tag "!" suffix, rest)

/-- A number of at most nine digits. -/
def readVersionPart (text : List Placed) : Option (Nat × List Placed) :=
  let (digits, rest) := spanText Char.isDigit text
  if digits.isEmpty || 9 < digits.length then none else some (Text.digitsValue digits.toList, rest)

/-- The directive after a percent sign: a version or a handle. Others are refused. -/
def readDirective (text : List Placed) : Option (Token × List Placed) := do
  let (name, rest) := spanText isNameChar text
  if !startsBlank rest then none
  else
    let text := skipBlanks rest
    let (token, rest) ←
      if name == "YAML" then do
        let (major, text) ← readVersionPart text
        let (minor, rest) ← readVersionPart (← expect '.' text)
        some (Token.version major minor, rest)
      else if name == "TAG" then do
        let (handle, text) ← readHandle text
        if handle != "!" && !handle.endsWith "!" || !headIsBlank text then none
        else
          let (start, rest) := spanText (isTagChar true) (skipBlanks text)
          if start.isEmpty || !startsBlank rest then none else some (Token.tagHandle handle, rest)
      else none
    return (token, ← nextLine? false rest)
where
  headIsBlank (text : List Placed) : Bool := startsBlank text && !text.isEmpty

end GatewayRouting.Yaml
