import GatewayRouting.Dictionary
import GatewayRouting.Log
import GatewayRouting.Text.Ascii
import GatewayRouting.Text.Blank
import GatewayRouting.Text.Split

/-!
Claim mappings: which part of a claim goes where. They are written `Claims[name] > value`, or with an
index and a delimiter `Claims[name] > value[i] > delimiter`.
-/

namespace GatewayRouting

/-- Takes a claim's value, or one delimited part of it, to a header, claim, query parameter or path
placeholder. -/
structure ClaimMapping where
  target : String
  claim : String
  delimiter : Option String
  index : Nat
deriving DecidableEq, Inhabited

inductive ClaimMappingError where
  | missingInstructions (expression : String)
  | invalidClaimSelector (selector : String)
  | invalidValueSelector (selector : String)
deriving DecidableEq, Inhabited

namespace ClaimMappingError

def message : ClaimMappingError → String
  | missingInstructions e => "Expected 'Claims[name] > value' but got '" ++ e ++ "'"
  | invalidClaimSelector s => "Invalid claim selector '" ++ s ++ "'"
  | invalidValueSelector s => "Invalid value selector '" ++ s ++ "'"

end ClaimMappingError

namespace ClaimMapping

def indexBound : Nat := Nat.pow 2 64

/-- The claim named by `Claims[name]`. -/
def claimName? (selector : List Char) : Option (List Char) :=
  (Text.between "Claims[".toList [']'] selector).filter (!·.isEmpty)

/-- The part named by `value` or `value[i]`. -/
def valueIndex? (selector : List Char) : Option Nat :=
  if selector = "value".toList then some 0
  else (Text.between "value[".toList [']'] selector).bind (Text.naturalBelow indexBound)

def ofParts (target : String) (claim value : List Char) (delimiter : Option (List Char)) :
    Except ClaimMappingError ClaimMapping :=
  match claimName? claim with
  | none => .error (.invalidClaimSelector (String.ofList claim))
  | some name =>
    match valueIndex? value with
    | none => .error (.invalidValueSelector (String.ofList value))
    | some index =>
      .ok { target, claim := String.ofList name, index
            delimiter := (delimiter.filter (!·.isEmpty)).map String.ofList }

def parse (target expression : String) : Except ClaimMappingError ClaimMapping :=
  match (Text.splitAll '>' expression.toList).map Text.trim with
  | [claim, value] => ofParts target claim value none
  | [claim, value, delimiter] => ofParts target claim value (some delimiter)
  | _ => .error (.missingInstructions expression)

/-- The part of a claim's value that the mapping takes. -/
def select (m : ClaimMapping) (value : String) : Option String :=
  match m.delimiter with
  | some delimiter => (Text.splitFound delimiter.toList 0 value.toList)[m.index]?.map String.ofList
  | none => if m.index = 0 then some value else none

/-- The mappings of a table; one that cannot be read is left out with a warning. -/
def ofTable (table : Dictionary String) : Logged (List ClaimMapping) :=
  Logged.filterMap (fun (target, expression) =>
    match parse target expression with
    | .ok m => pure (some m)
    | .error e => do
      Logged.warn ("Skipping claims mapping for '" ++ target ++ "': " ++ e.message)
      pure none) table.entries

end ClaimMapping

/-- The claim mappings of a route. -/
structure ClaimMappings where
  toHeaders : List ClaimMapping := []
  toClaims : List ClaimMapping := []
  toQueries : List ClaimMapping := []
  toDownstreamPath : List ClaimMapping := []
deriving DecidableEq, Inhabited

end GatewayRouting
