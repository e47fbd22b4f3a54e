import Routebook.Route.Constraint

/-!
# Route entries

* `Entry` : a compiled route: its name, URL pattern, defaults and constraints.
-/

namespace Routebook

/-- A compiled route. -/
structure Entry where
  name : String
  url : String
  defaults : RouteValues := .empty
  constraints : Constraints := .empty

namespace Entry

instance : Inhabited Entry := ⟨{ name := "", url := "" }⟩

def toJson (e : Entry) : Json :=
  .obj [("name", .str e.name), ("url", .str e.url),
    ("defaults", e.defaults.toJson RouteValue.toJson),
    ("constraints", e.constraints.toJson Constraint.toJson)]

end Entry

end Routebook
