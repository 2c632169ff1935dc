import GatewayRouting.Document.Yaml.Place
import GatewayRouting.Text.Ascii

/-!
Block scalars: indented lines after `|`, taken as they are, or after `>`, folded.
-/

namespace GatewayRouting.Yaml

/-- What becomes of the line ends after the last line of a block scalar. -/
inductive Chomping where
  | strip
  | clip
  | keep
deriving DecidableEq

structure BlockStyle where
  folds : Bool
  chomping : Chomping := .clip
  /-- The columns by which the lines are indented more than what is around, if given. -/
  indent : Option Nat := none

def chomping? : List Placed → Option Chomping × List Placed
  | [] => (none, [])
  | p :: rest =>
    if p.char == '-' then (some .strip, rest)
    else if p.char == '+' then (some .keep, rest)
    else (none, p :: rest)

/-- An indentation, absent or given; one of zero is refused. -/
def indent? : List Placed → Option (Option Nat × List Placed)
  | [] => some (none, [])
  | p :: rest =>
    if p.char == '0' then none
    else if p.char.isDigit then some (some (Text.digitValue p.char), rest)
    else some (none, p :: rest)

/-- The style that is written after `|` or `>`, in either order, and the text after it. -/
def blockStyle (folds : Bool) (text : List Placed) : Option (BlockStyle × List Placed) := do
  let (before, text) := chomping? text
  let (indent, text) ← indent? text
  match before, indent with
  | some chomping, _ => return (⟨folds, chomping, indent⟩, text)
  | none, none => return (⟨folds, .clip, none⟩, text)
  | none, some _ =>
    let (after, text) := chomping? text
    return (⟨folds, after.getD .clip, indent⟩, text)

/-- The line ends before the first line with content, and the column that the lines are found to stand at:
that of the content, or of the longest line of spaces before it. -/
def blockColumn (deepest : Nat) : List Placed → Option (List Char × Nat × List Placed)
  | [] => some ([], deepest, [])
  | p :: rest =>
    let deepest := max deepest p.column
    if p.char == ' ' then blockColumn deepest rest
    else if p.char == '\t' then none
    else if isBreak p.char then
      (blockColumn deepest rest).map fun (empties, column, text) => (p.char :: empties, column, text)
    else some ([], deepest, p :: rest)

/-- Where a reader of lines is. -/
inductive LineState where
  | inLine
  /-- After the end of a line with content, and the ends of empty ones. -/
  | between (ended empties : List Char)

/-- The line ends that are part of the text after its last line. -/
def chomped (style : BlockStyle) (ended empties : List Char) : List Char :=
  match style.chomping with
  | .strip => []
  | .clip => ended
  | .keep => ended ++ empties

/-- The line ends between two lines. Those around a line that starts with a blank are not folded. -/
def lineJoint (style : BlockStyle) (spaced : Bool) (ended empties : List Char) : List Char :=
  match ended with
  | [first] => if style.folds && !spaced then folded first empties else ended ++ empties
  | _ => ended ++ empties

/-- The rest of a block scalar whose lines stand at a column, and the text after it. The last line with
content was spaced if it started with a blank. -/
def blockLines (style : BlockStyle) (column : Nat) (spaced : Bool) (state : LineState) :
    List Placed → Option (List Char × List Placed)
  | [] =>
    match state with
    | .inLine => some ([], [])
    | .between ended empties => some (chomped style ended empties, [])
  | p :: rest =>
    match state with
    | .inLine =>
      if isBreak p.char then blockLines style column spaced (.between [p.char] []) rest
      else (blockLines style column spaced .inLine rest).map fun (text, left) => (p.char :: text, left)
    | .between ended empties =>
      if p.column < column && p.char == ' ' then blockLines style column spaced (.between ended empties) rest
      else if p.column < column && p.char == '\t' then none
      else if isBreak p.char then blockLines style column spaced (.between ended (empties ++ [p.char])) rest
      else if p.column == column then
        let joint := lineJoint style (spaced || isBlank p.char) ended empties
        (blockLines style column (isBlank p.char) .inLine rest).map fun (text, left) =>
          (joint ++ p.char :: text, left)
      else some (chomped style ended empties, p :: rest)

/-- The block scalar after `|` or `>` inside of a block whose lines stand at a column, if there is one, and
the text after it. -/
def block (folds : Bool) (around : Option Nat) (text : List Placed) : Option (List Char × List Placed) := do
  let (style, text) ← blockStyle folds text
  let text ← nextLine? false text
  match style.indent with
  | some n => blockLines style (around.getD 0 + n) false (.between [] []) text
  | none =>
    let (empties, deepest, text) ← blockColumn 0 text
    let column := max deepest (max ((around.map (· + 1)).getD 0) 1)
    blockLines style column false (.between [] empties) text

end GatewayRouting.Yaml
