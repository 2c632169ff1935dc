import GatewayRouting.Document.Value
import GatewayRouting.Document.Yaml.Layout

/-!
Reading YAML documents: the values that their tokens describe. Something missing is an empty scalar.
-/

namespace GatewayRouting.Yaml

/-- The tokens that are left, with the values of the anchors before them. An anchor around them has none yet. -/
structure Source where
  tokens : List Token
  anchors : List (String × Option Value) := []
  /-- The declared handles of tags. -/
  handles : List String := ["!", "!!"]

namespace Source

/-- Whether one of some tokens comes next. -/
def atOneOf (ts : List Token) (s : Source) : Bool :=
  match s.tokens with
  | t :: _ => ts.contains t
  | [] => false

def skip (s : Source) : Source := { s with tokens := s.tokens.tail }

/-- The source after a token that has to come first. -/
def after? (t : Token) (s : Source) : Option Source :=
  match s.tokens with
  | u :: rest => if u = t then some { s with tokens := rest } else none
  | [] => none

def anchor (name : String) (v : Option Value) (s : Source) : Source :=
  { s with anchors := (name, v) :: s.anchors }

end Source

/-- What is said about a value before it. -/
structure Properties where
  anchor : Option String := none
  /-- The handle and the rest of a tag. -/
  tag : Option (String × String) := none

def Properties.isEmpty (ps : Properties) : Bool := ps.anchor.isNone && ps.tag.isNone

/-- An anchor and a tag, in either order. -/
def readProperties (s : Source) : Properties × Source :=
  match s.tokens with
  | .anchor a :: .tag h t :: rest => (⟨some a, some (h, t)⟩, { s with tokens := rest })
  | .tag h t :: .anchor a :: rest => (⟨some a, some (h, t)⟩, { s with tokens := rest })
  | .anchor a :: rest => (⟨some a, none⟩, { s with tokens := rest })
  | .tag h t :: rest => (⟨none, some (h, t)⟩, { s with tokens := rest })
  | _ => ({}, s)

/-- The tags of scalars that are read as what they look like. -/
def openTags : List (String × String) :=
  [("", "!"), ("!!", "null"), ("!!", "bool"), ("!!", "int"), ("!!", "float")]

/-- A value under a tag: a scalar is a text then, unless the tag says otherwise. -/
def tagged : Option (String × String) → Value → Value
  | some tag, .plain s => if openTags.contains tag then .plain s else .text s
  | _, v => v

mutual

/-- The value that comes next. Sequences and mappings by indentation are only read if `nests`, and a sequence
that stands at the column of the mapping around it only if `flush`. The first argument bounds the steps. -/
def readNode : Nat → (nests flush : Bool) → Source → Option (Value × Source)
  | 0, _, _, _ => none
  | steps + 1, nests, flush, s =>
    match s.tokens with
    | .alias name :: rest =>
      match s.anchors.lookup name with
      | some v => some (v.getD .void, { s with tokens := rest })
      | none => none
    | _ =>
      let (properties, s) := readProperties s
      if properties.tag.any fun tag => tag.1 != "" && !s.handles.contains tag.1 then none
      else
        let opened := match properties.anchor with
          | some name => s.anchor name none
          | none => s
        match readContent steps nests flush (!properties.isEmpty) opened with
        | none => none
        | some (v, s) =>
          let v := tagged properties.tag v
          match properties.anchor with
          | some name => some (v, s.anchor name (some v))
          | none => some (v, s)

/-- A value without its properties, which may be missing if it has any. -/
def readContent : Nat → (nests flush mayMiss : Bool) → Source → Option (Value × Source)
  | 0, _, _, _, _ => none
  | steps + 1, nests, flush, mayMiss, s =>
    match s.tokens with
    | .scalar text quoted :: rest => some (if quoted then .text text else .plain text, { s with tokens := rest })
    | .openList :: _ => (readItems steps true s.skip).map fun (items, s) => (.list items, s)
    | .openRecord :: _ => (readPairs steps true s.skip).map fun (pairs, s) => (.record pairs, s)
    | t :: _ =>
      if t = .dash && flush then (readFlushEntries steps s).map fun (items, s) => (.list items, s)
      else if t = .blockSequence && nests then (readEntries steps s.skip).map fun (items, s) => (.list items, s)
      else if t = .blockMapping && nests then (readMapping steps s.skip).map fun (pairs, s) => (.record pairs, s)
      else if mayMiss then some (.plain "", s)
      else none
    | [] => if mayMiss then some (.plain "", s) else none

/-- A value, or an empty scalar before one of some tokens. -/
def readBefore : Nat → (ends : List Token) → (nests flush : Bool) → Source → Option (Value × Source)
  | 0, _, _, _, _ => none
  | steps + 1, ends, nests, flush, s =>
    if s.atOneOf ends then some (.plain "", s) else readNode steps nests flush s

/-- The entries of a sequence up to its end. -/
def readEntries : Nat → Source → Option (List Value × Source)
  | 0, _ => none
  | steps + 1, s =>
    match s.after? .blockEnd, s.after? .dash with
    | some s, _ => some ([], s)
    | none, none => none
    | none, some s =>
      match readBefore steps [.dash, .blockEnd] true false s with
      | none => none
      | some (v, s) => (readEntries steps s).map fun (vs, s) => (v :: vs, s)

/-- The entries of a sequence without an end of its own. -/
def readFlushEntries : Nat → Source → Option (List Value × Source)
  | 0, _ => none
  | steps + 1, s =>
    match s.after? .dash with
    | none => some ([], s)
    | some s =>
      match readBefore steps [.dash, .key, .value, .blockEnd] true false s with
      | none => none
      | some (v, s) => (readFlushEntries steps s).map fun (vs, s) => (v :: vs, s)

/-- The value after a key, if there is one. -/
def readValue : Nat → (ends : List Token) → (nests flush : Bool) → Source → Option (Value × Source)
  | 0, _, _, _, _ => none
  | steps + 1, ends, nests, flush, s =>
    match s.after? .value with
    | some s => readBefore steps ends nests flush s
    | none => some (.plain "", s)

/-- The entries of a mapping up to its end. -/
def readMapping : Nat → Source → Option (List (Value × Value) × Source)
  | 0, _ => none
  | steps + 1, s =>
    match s.after? .blockEnd, s.after? .key with
    | some s, _ => some ([], s)
    | none, none => none
    | none, some s =>
      match readBefore steps [.key, .value, .blockEnd] true true s with
      | none => none
      | some (k, s) =>
        match readValue steps [.key, .value, .blockEnd] true true s with
        | none => none
        | some (v, s) => (readMapping steps s).map fun (pairs, s) => ((k, v) :: pairs, s)

/-- The items inside brackets; a comma comes before each but the first. A pair stands for a record of its
own, and one without a key takes what follows the question mark along. -/
def readItems : Nat → (first : Bool) → Source → Option (List Value × Source)
  | 0, _, _ => none
  | steps + 1, first, s =>
    match s.after? .closeList with
    | some s => some ([], s)
    | none =>
      match if first then some s else s.after? .comma with
      | none => none
      | some s =>
        match s.after? .closeList, s.after? .key with
        | some s, _ => some ([], s)
        | none, some s =>
          let key := if s.atOneOf [.value, .comma, .closeList] then some (.plain "", s.skip)
            else readNode steps false false s
          match key with
          | none => none
          | some (k, s) =>
            match readValue steps [.comma, .closeList] false false s with
            | none => none
            | some (v, s) => (readItems steps false s).map fun (vs, s) => (.record [(k, v)] :: vs, s)
        | none, none =>
          match readNode steps false false s with
          | none => none
          | some (v, s) => (readItems steps false s).map fun (vs, s) => (v :: vs, s)

/-- The pairs inside braces; a comma comes before each but the first. A key alone has an empty value. -/
def readPairs : Nat → (first : Bool) → Source → Option (List (Value × Value) × Source)
  | 0, _, _ => none
  | steps + 1, first, s =>
    match s.after? .closeRecord with
    | some s => some ([], s)
    | none =>
      match if first then some s else s.after? .comma with
      | none => none
      | some s =>
        match s.after? .closeRecord, s.after? .key with
        | some s, _ => some ([], s)
        | none, some s =>
          match readBefore steps [.value, .comma, .closeRecord] false false s with
          | none => none
          | some (k, s) =>
            match readValue steps [.comma, .closeRecord] false false s with
            | none => none
            | some (v, s) => (readPairs steps false s).map fun (pairs, s) => ((k, v) :: pairs, s)
        | none, none =>
          match readNode steps false false s with
          | none => none
          | some (k, s) => (readPairs steps false s).map fun (pairs, s) => ((k, .plain "") :: pairs, s)

end

/-- The directives before a document. A version and each handle may be given once. -/
def readDirectives (versioned : Bool) (declared : List String) : List Token → Option (List String × List Token)
  | .version major minor :: rest =>
    if versioned || major != 1 || (minor != 1 && minor != 2) then none else readDirectives true declared rest
  | .tagHandle handle :: rest =>
    if declared.contains handle then none else readDirectives versioned (handle :: declared) rest
  | ts => some (declared, ts)

/-- The value of a document whose start is marked, and what is left. -/
def readExplicit (steps : Nat) (ts : List Token) : Option (Value × Source) := do
  let (declared, ts) ← readDirectives false [] ts
  let s : Source := { tokens := ts, handles := declared ++ ["!", "!!"] }
  let s ← s.after? .documentStart
  match s.tokens with
  | [] => return (.plain "", s)
  | .version .. :: _ => return (.plain "", s)
  | .tagHandle .. :: _ => return (.plain "", s)
  | .documentStart :: _ => return (.plain "", s)
  | .documentEnd :: _ => return (.plain "", s)
  | _ => readNode steps true false s

/-- The value of the only document that tokens describe; without tokens it is an empty scalar. -/
def ofTokens (ts : List Token) : Option Value := do
  let steps := 4 * ts.length + 4
  let (v, s) ← match ts with
    | [] => some (.plain "", { tokens := [] })
    | .version .. :: _ => readExplicit steps ts
    | .tagHandle .. :: _ => readExplicit steps ts
    | .documentStart :: _ => readExplicit steps ts
    | _ => readNode steps true false { tokens := ts }
  if (s.tokens.dropWhile (· = .documentEnd)).isEmpty then some v else none

/-- How deeply lists and records may be nested. -/
def depthBound : Nat := 128

/-- The value of a whole document. A mark of byte order may stand before it. -/
def read (text : String) : Option Value := do
  let cs := match text.toList with
    | c :: rest => if c == orderMark then rest else c :: rest
    | [] => []
  if !cs.all isAllowed then none
  else
    let v ← ofTokens (← tokens (placed 0 0 0 cs))
    return v.bounded depthBound

end GatewayRouting.Yaml
