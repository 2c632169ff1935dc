/-!
What can be wrong with a template.
-/

namespace GatewayRouting

inductive TemplateError where
  | empty
  | missingLeadingSlash (template : String)
  | unbalancedBraces (template : String)
  | emptyPlaceholder (template : String)
  | duplicatePlaceholder (template name : String)
  | invalidQuery (template query : String)
deriving DecidableEq, Inhabited

namespace TemplateError

def message : TemplateError → String
  | empty => "Template is empty"
  | missingLeadingSlash t => "Template '" ++ t ++ "' must start with '/'"
  | unbalancedBraces t => "Unbalanced braces in template '" ++ t ++ "'"
  | emptyPlaceholder t => "Empty placeholder name in template '" ++ t ++ "'"
  | duplicatePlaceholder t name => "Placeholder '" ++ name ++ "' appears more than once in template '" ++ t ++ "'"
  | invalidQuery t query => "Invalid query '" ++ query ++ "' in template '" ++ t ++ "'"

end TemplateError

end GatewayRouting
