import GatewayRouting.Document.Yaml.Block
import GatewayRouting.Document.Yaml.Plain
import GatewayRouting.Document.Yaml.Quoted
import GatewayRouting.Document.Yaml.Token

/-!
How the layout of a YAML document turns into tokens. Indentation opens and closes blocks. A key is only
known by the colon after it, so the place of a possible one is kept until then; the colon has to come on
the same line and soon.
-/

namespace GatewayRouting.Yaml

/-- A place where a key may have started, after so many tokens. It is required to be one if it stands below
the other keys of its block. -/
structure PossibleKey where
  position : Nat
  place : Placed
  required : Bool

/-- How many bytes a key may have. -/
def keyBound : Nat := 1024

/-- Whether a key that started there can no longer end here. -/
def PossibleKey.isStale (k : PossibleKey) (p : Placed) : Bool :=
  k.place.line < p.line || k.place.index + keyBound < p.index

structure Layout where
  /-- The tokens so far, the latest first. -/
  tokens : List Token := []
  count : Nat := 0
  /-- The column of the innermost block, and those of the blocks around it. -/
  indent : Option Nat := none
  around : List (Option Nat) := []
  /-- Whether a key may start here. -/
  keyAllowed : Bool := true
  /-- The possible key inside the innermost bracket, and those outside of it, one for each bracket. -/
  key : Option PossibleKey := none
  outerKeys : List (Option PossibleKey) := []

namespace Layout

/-- Whether a bracket is open. Columns do not count then. -/
def inside (l : Layout) : Bool := !l.outerKeys.isEmpty

def emit (t : Token) (l : Layout) : Layout := { l with tokens := t :: l.tokens, count := l.count + 1 }

/-- A token put in after so many others. -/
def insert (position : Nat) (t : Token) (l : Layout) : Layout :=
  let (later, earlier) := l.tokens.splitAt (l.count - position)
  { l with tokens := later ++ t :: earlier, count := l.count + 1 }

/-- No key has started. A required one that has not ended is missing its colon. -/
def dropKey (l : Layout) : Option Layout :=
  match l.key with
  | some k => if k.required then none else some { l with key := none }
  | none => some l

/-- A key may start here. -/
def saveKey (p : Placed) (l : Layout) : Option Layout :=
  if l.keyAllowed then
    l.dropKey.map fun l =>
      { l with key := some ⟨l.count, p, !l.inside && l.indent == some p.column⟩ }
  else some l

/-- A possible key, unless it is stale here. -/
def refreshed (p : Placed) : Option PossibleKey → Option (Option PossibleKey)
  | some k => if !k.isStale p then some (some k) else if k.required then none else some none
  | none => some none

/-- No stale keys are left. -/
def refresh (p : Placed) (l : Layout) : Option Layout := do
  return { l with key := ← refreshed p l.key, outerKeys := ← l.outerKeys.mapM (refreshed p) }

/-- A block opened at a column by a token after so many others, if no block stands there. -/
def openBlock (column position : Nat) (t : Token) (l : Layout) : Layout :=
  if l.inside || l.indent.any (column ≤ ·) then l
  else insert position t { l with indent := some column, around := l.indent :: l.around }

/-- How many of the blocks end at a column, or at the end of the text, and the columns of the others. -/
def endedBlocks (column indent : Option Nat) :
    List (Option Nat) → Nat × Option Nat × List (Option Nat)
  | [] => (0, indent, [])
  | next :: around =>
    if indent.any fun i => column.all (· < i) then
      let (n, rest) := endedBlocks column next around
      (n + 1, rest)
    else (0, indent, next :: around)

def closeBlocks (column : Option Nat) (l : Layout) : Layout :=
  if l.inside then l
  else
    let (n, indent, around) := endedBlocks column l.indent l.around
    { l with
      tokens := List.replicate n .blockEnd ++ l.tokens, count := l.count + n, indent, around }

def openBracket (t : Token) (p : Placed) (l : Layout) : Option Layout :=
  (l.saveKey p).map fun l =>
    emit t { l with outerKeys := l.key :: l.outerKeys, key := none, keyAllowed := true }

def closeBracket (t : Token) (l : Layout) : Option Layout :=
  l.dropKey.map fun l =>
    emit t (match l.outerKeys with
      | key :: outerKeys => { l with key, outerKeys, keyAllowed := false }
      | [] => { l with keyAllowed := false })

/-- A dash or a question mark. Outside of brackets it opens a block unless it belongs to one. -/
def startEntry (t block : Token) (keyAllowed : Bool) (p : Placed) (l : Layout) : Option Layout :=
  if !l.inside && !l.keyAllowed then none
  else (openBlock p.column l.count block l).dropKey.map fun l => emit t { l with keyAllowed }

/-- A colon: what started at the place of the possible key, if there is one, was a key. -/
def startValue (p : Placed) (l : Layout) : Option Layout :=
  match l.key with
  | some k =>
    let l := openBlock k.place.column k.position .blockMapping (insert k.position .key l)
    some (emit .value { l with key := none, keyAllowed := false })
  | none =>
    if !l.inside && !l.keyAllowed then none
    else
      let l := openBlock p.column l.count .blockMapping l
      some (emit .value { l with keyAllowed := !l.inside })

/-- A token that may be a key, and the text after it. -/
def atom (p : Placed) (token : Option (Token × List Placed)) (l : Layout) : Option (Layout × List Placed) := do
  let (t, rest) ← token
  return (emit t { ← l.saveKey p with keyAllowed := false }, rest)

/-- The start or the end of a document. -/
def boundary (token : Option (Token × List Placed)) (l : Layout) : Option (Layout × List Placed) := do
  let (t, rest) ← token
  return (emit t { ← (l.closeBlocks none).dropKey with keyAllowed := false }, rest)

def scalarToken (quoted : Bool) (r : List Char × List Placed) : Token × List Placed :=
  (.scalar (String.ofList r.1) quoted, r.2)

/-- A block scalar. A key may start after it. -/
def blockScalar (folds : Bool) (rest : List Placed) (l : Layout) : Option (Layout × List Placed) := do
  let (text, rest) ← block folds l.indent rest
  return (emit (.scalar (String.ofList text) true) { ← l.dropKey with keyAllowed := true }, rest)

/-- A scalar without quotes. A key may start after it if it ended on a later line. -/
def plainScalar (p : Placed) (rest : List Placed) (l : Layout) : Option (Layout × List Placed) := do
  let l ← l.saveKey p
  let (text, broken, rest) ← plain l.inside ((l.indent.map (· + 1)).getD 0) .none (p :: rest)
  return (emit (.scalar (String.ofList text) false) { l with keyAllowed := broken }, rest)

/-- The tokens that start with this character, and the text after them. -/
def next (p : Placed) (rest : List Placed) (l : Layout) : Option (Layout × List Placed) :=
  if p.column == 0 && p.char == '%' then l.boundary (readDirective rest)
  else if isMarker (p :: rest) then
    l.boundary (some (if p.char == '-' then .documentStart else .documentEnd, rest.drop 2))
  else match p.char with
    | '[' => (l.openBracket .openList p).map (·, rest)
    | '\x7b' => (l.openBracket .openRecord p).map (·, rest)
    | ']' => (l.closeBracket .closeList).map (·, rest)
    | '\x7d' => (l.closeBracket .closeRecord).map (·, rest)
    | ',' => l.dropKey.map fun l => (emit .comma { l with keyAllowed := true }, rest)
    | '*' => l.atom p ((readName rest).map fun (name, rest) => (.alias name, rest))
    | '&' => l.atom p ((readName rest).map fun (name, rest) => (.anchor name, rest))
    | '!' => l.atom p (readTag l.inside (p :: rest))
    | '\'' => l.atom p ((singleQuoted .none rest).map (scalarToken true))
    | '"' => l.atom p ((doubleQuoted .outside .none rest).map (scalarToken true))
    | c =>
      if c == '-' && startsBlank rest then (l.startEntry .dash .blockSequence true p).map (·, rest)
      else if c == '?' && (l.inside || startsBlank rest) then
        (l.startEntry .key .blockMapping (!l.inside) p).map (·, rest)
      else if c == ':' && (l.inside || startsBlank rest) then (l.startValue p).map (·, rest)
      else if c == '|' && !l.inside then l.blockScalar false rest
      else if c == '>' && !l.inside then l.blockScalar true rest
      else if startsPlain l.inside p rest then l.plainScalar p rest
      else none

/-- Where the next token starts, inside a comment or not, and whether a key may start there. A line may
start with a mark of byte order. Tabs only count as blanks where no indentation is expected. -/
def seek (inside keyAllowed comment : Bool) : List Placed → Bool × List Placed
  | [] => (keyAllowed, [])
  | p :: rest =>
    if isBreak p.char then seek inside (keyAllowed || !inside) false rest
    else if comment || p.char == '#' then seek inside keyAllowed true rest
    else if p.char == ' ' || (p.char == '\t' && (inside || !keyAllowed)) ||
        (p.char == orderMark && p.column == 0) then
      seek inside keyAllowed false rest
    else (keyAllowed, p :: rest)

/-- The tokens of a text. The first argument bounds their number. -/
def tokensFrom : Nat → Layout → List Placed → Option (List Token)
  | 0, _, _ => none
  | steps + 1, l, text =>
    let (keyAllowed, text) := seek l.inside l.keyAllowed false text
    let l := { l with keyAllowed }
    match text with
    | [] => (l.closeBlocks none).dropKey.map (·.tokens.reverse)
    | p :: rest =>
      match (l.refresh p).bind fun l => (l.closeBlocks (some p.column)).next p rest with
      | some (l, rest) => tokensFrom steps l rest
      | none => none

end Layout

/-- The tokens of a document, each made of one character at least. -/
def tokens (text : List Placed) : Option (List Token) := Layout.tokensFrom (text.length + 1) {} text

end GatewayRouting.Yaml
