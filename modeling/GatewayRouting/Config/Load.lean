import GatewayRouting.Config.Decode
import GatewayRouting.Document.Json.Reader
import GatewayRouting.Document.Yaml.Reader

/-!
Configurations from files.
-/

namespace GatewayRouting

inductive DocumentFormat where
  | json
  | yaml
deriving DecidableEq, Inhabited

inductive LoadError where
  | unreadable (path : String)
  | malformed (format : DocumentFormat)
deriving DecidableEq, Inhabited

namespace LoadError

def message : LoadError → String
  | unreadable path => "Failed to read config file: \x22" ++ path ++ "\x22"
  | malformed .json => "Failed to parse JSON config"
  | malformed .yaml => "Failed to parse YAML config"

end LoadError

namespace DocumentFormat

/-- The part of a path after its last slash. -/
def fileName (path : List Char) : List Char :=
  match Text.splitLast '/' path with
  | some (_, name) => name
  | none => path

/-- The part of a file name after its last point, unless nothing stands before that. -/
def extension? (path : String) : Option String :=
  match Text.splitLast '.' (fileName path.toList) with
  | some (stem, ext) => if stem.isEmpty then none else some (String.ofList ext)
  | none => none

/-- A file is JSON if its extension says so, and YAML otherwise. -/
def ofPath (path : String) : DocumentFormat :=
  match extension? path with
  | some ext => if Text.sameIgnoringCase ext "json" then json else yaml
  | none => yaml

def read (format : DocumentFormat) (text : String) : Option Value :=
  match format with
  | json => Json.read text
  | yaml => Yaml.read text

end DocumentFormat

namespace Configuration

/-- The configuration that a document describes. -/
def parse (format : DocumentFormat) (text : String) : Except LoadError Configuration :=
  match (format.read text).bind Decode.configuration with
  | some config => .ok config
  | none => .error (.malformed format)

/-- The configuration in the file of that path, whose text is absent if it cannot be read. -/
def load (path : String) (text : Option String) : Except LoadError Configuration :=
  match text with
  | some text => parse (.ofPath path) text
  | none => .error (.unreadable path)

end Configuration

end GatewayRouting
