import Routebook.Route.Constraint
import Routebook.Text.Inspect

/-!
# Inspection of values and constraints

* `RouteValue.inspect`, `Constraint.inspect`, `VerbSet.inspect` : how they show in a log;
* `CaselessMap.inspect` : how a map of them shows.
-/

namespace Routebook

def RouteValue.inspect : RouteValue → String
  | .literal v => "Literal(" ++ v.inspect ++ ")"
  | .optional => "Optional"

def Constraint.inspect : Constraint → String
  | .pattern source => "Pattern(" ++ Text.inspect source ++ ")"
  | .methods names => "Methods(" ++ Text.inspectList names ++ ")"
  | .custom m => "Custom(" ++ Text.inspect m.name ++ ")"

def VerbSet.inspect (s : VerbSet) : String := Text.braced (s.toList.map Verb.label)

def CaselessMap.inspect {α : Type} (value : α → String) (m : CaselessMap α) : String :=
  Text.inspectMap (m.entries.map fun e => (e.1, value e.2))

end Routebook
