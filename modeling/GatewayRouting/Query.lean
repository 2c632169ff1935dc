import GatewayRouting.Text.Percent
import GatewayRouting.Text.Split

/-!
Query strings: parameters separated by `&`, kept as they are written.
-/

namespace GatewayRouting

/-- A parameter as written in a query. -/
structure Parameter where
  key : String
  value : String
deriving DecidableEq, Inhabited

namespace Parameter

def decodedKey (p : Parameter) : String := Text.percentDecoded p.key
def decodedValue (p : Parameter) : String := Text.percentDecoded p.value

/-- Whether the key stands for this one, case aside. -/
def hasKey (key : String) (p : Parameter) : Bool := Text.sameIgnoringCase p.decodedKey key

/-- A parameter without value is its key alone. -/
def ofText (text : List Char) : Parameter :=
  match Text.splitOnce '=' text with
  | some (key, value) => ⟨String.ofList key, String.ofList value⟩
  | none => ⟨String.ofList text, ""⟩

/-- The parameter written again; an empty value takes its `=` with it. -/
def toText (p : Parameter) : List Char :=
  if p.value = "" then p.key.toList else p.key.toList ++ '=' :: p.value.toList

end Parameter

/-- The non-empty texts between the `&` of a query. -/
def Query.segments (query : List Char) : List (List Char) :=
  (Text.splitAll '&' query).filter (!·.isEmpty)

/-- The parameters of a query. Question marks at its front are passed over. -/
def Query.parameters (query : String) : List Parameter :=
  (Query.segments (query.toList.dropWhile (· == '?'))).map Parameter.ofText

end GatewayRouting
