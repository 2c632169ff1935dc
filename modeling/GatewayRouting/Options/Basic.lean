import GatewayRouting.Config.Section

/-!
How options are settled: the route's own value counts, then the global one, then the default.
-/

namespace GatewayRouting.Options

variable {σ α : Type}

/-- The value of a field in the route's section, else in the global one. -/
def chosen (route global : Option σ) (field : σ → Option α) : Option α :=
  route.bind field <|> global.bind field

def settled (route global : Option σ) (field : σ → Option α) (default : α) : α :=
  (chosen route global field).getD default

end GatewayRouting.Options
