import GatewayRouting.Template.Error
import GatewayRouting.Text.Ascii
import GatewayRouting.Text.Blank

/-!
The tokens of a template: literal text and placeholder names in braces. Braces do not nest, and there
is no way to write one as literal text.
-/

namespace GatewayRouting

inductive Token where
  | literal (text : List Char)
  | placeholder (name : String)
deriving DecidableEq, Inhabited

namespace Token

/-- How a name between braces is read. -/
inductive NameStyle where
  | bare
  /-- The name may be written with `header:` before it. -/
  | header
deriving DecidableEq

/-- The name that the text between two braces stands for. -/
def NameStyle.name (style : NameStyle) (inside : List Char) : String :=
  let mark := "header:".toList
  let inside := if style = .header && mark.isPrefixOf inside then inside.drop mark.length else inside
  String.ofList (Text.trim inside)

/-- A literal character in front of tokens. -/
def consChar (c : Char) : List Token → List Token
  | literal text :: rest => literal (c :: text) :: rest
  | tokens => literal [c] :: tokens

/-- The tokens of a text, read outside braces or after an opening brace and the characters given. The
template is only named in errors. -/
def scan (template : String) (style : NameStyle) :
    Option (List Char) → List Char → Except TemplateError (List Token)
  | none, [] => .ok []
  | none, c :: rest =>
    if c = '\x7b' then scan template style (some []) rest
    else if c = '\x7d' then .error (.unbalancedBraces template)
    else (scan template style none rest).map (consChar c)
  | some _, [] => .error (.unbalancedBraces template)
  | some inside, c :: rest =>
    if c = '\x7d' then
      let name := style.name inside
      if name = "" then .error (.emptyPlaceholder template)
      else (scan template style none rest).map (placeholder name :: ·)
    else if c = '\x7b' then .error (.unbalancedBraces template)
    else scan template style (some (inside ++ [c])) rest

def tokenize (style : NameStyle) (template : String) : Except TemplateError (List Token) :=
  scan template style none template.toList

def name? : Token → Option String
  | placeholder name => some name
  | literal _ => none

/-- The placeholder names, in order. -/
def names (tokens : List Token) : List String := tokens.filterMap name?

end Token

/-- The first name that repeats an earlier one, case aside. -/
def repeatedName : List String → List String → Option String
  | _, [] => none
  | seen, name :: rest =>
    if seen.contains (Text.lowerAscii name) then some name
    else repeatedName (Text.lowerAscii name :: seen) rest

def requireDistinct (template : String) (names : List String) : Except TemplateError Unit :=
  match repeatedName [] names with
  | some name => .error (.duplicatePlaceholder template name)
  | none => .ok ()

end GatewayRouting
