import GatewayRouting.CommandLine.Command

/-!
Reading the arguments of the command. An option's value is the next argument, or stands after an equals
sign. Headers and schemes add up; of any other option that is given twice, the later value counts.
-/

namespace GatewayRouting

inductive ArgumentError where
  | unexpected (argument : String)
  | missingValue (option : String)
  | invalidValue (option value : String)
deriving DecidableEq, Inhabited

namespace ArgumentError

def message : ArgumentError → String
  | unexpected argument => "unexpected argument '" ++ argument ++ "' found"
  | missingValue option => "a value is required for '" ++ option ++ "' but none was supplied"
  | invalidValue option value => "invalid value '" ++ value ++ "' for '" ++ option ++ "'"

end ArgumentError

namespace CommandOptions

/-- The options with a switch turned on, if there is one of that name. -/
def turnOn (o : CommandOptions) : String → Option CommandOptions
  | "-d" | "--debug" => some { o with debug := true }
  | "--log-json" => some { o with logJson := true }
  | "--validate" => some { o with validate := true }
  | "--qos-provider" => some { o with capabilities := { o.capabilities with qosProvider := true } }
  | "--discovery-provider" => some { o with capabilities := { o.capabilities with discoveryProvider := true } }
  | _ => none

/-- How an option of that name takes its value, if there is one. -/
def setter? : String → Option (CommandOptions → String → Option CommandOptions)
  | "-c" | "--config" => some fun o value => some { o with config := value }
  | "--resolve" => some fun o value => some { o with resolve := some value }
  | "--host" => some fun o value => some { o with host := some value }
  | "--header" => some fun o value => some { o with headers := o.headers ++ [value] }
  | "--metrics-address" => some fun o value => some { o with metricsAddress := some value }
  | "--auth-scheme" => some fun o value =>
    let schemes := o.capabilities.authenticationSchemes ++ [value]
    some { o with capabilities := { o.capabilities with authenticationSchemes := schemes } }
  | "--cache-capacity" => some fun o value =>
    (Text.naturalBelow (Nat.pow 2 64) value.toList).map fun n => { o with cacheCapacity := n }
  | _ => none

/-- The options with one of them set. -/
def put (o : CommandOptions) (name value : String) : Except ArgumentError CommandOptions :=
  match setter? name with
  | none => .error (.unexpected name)
  | some set =>
    match set o value with
    | some o => .ok o
    | none => .error (.invalidValue name value)

/-- An argument that is complete in itself: a switch, or an option with its value after an equals sign. -/
def putComplete (o : CommandOptions) (argument : String) : Except ArgumentError CommandOptions :=
  match o.turnOn argument, Text.splitOnce '=' argument.toList with
  | some o, _ => .ok o
  | none, some (name, value) => o.put (String.ofList name) (String.ofList value)
  | none, none =>
    if (setter? argument).isSome then .error (.missingValue argument) else .error (.unexpected argument)

/-- The options with all arguments taken in, in order. -/
def takeIn : CommandOptions → List String → Except ArgumentError CommandOptions
  | o, [] => .ok o
  | o, [argument] => o.putComplete argument
  | o, argument :: value :: rest =>
    if (setter? argument).isSome then do
      let o ← o.put argument value
      takeIn o rest
    else do
      let o ← o.putComplete argument
      takeIn o (value :: rest)

/-- The options that the arguments ask for. -/
def parse (arguments : List String) : Except ArgumentError CommandOptions := takeIn {} arguments

end CommandOptions

end GatewayRouting
