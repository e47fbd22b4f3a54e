import Routebook.Json.Writer
import Routebook.CaselessMap

/-!
# Values of a route

* `RouteValue` : a literal, or the mark that a parameter may be left out;
* `RouteValue.text?` : the text that constraints look at.
-/

namespace Routebook

/-- A literal value, or the mark of a parameter that may be left out of the path. -/
inductive RouteValue where
  | literal (value : Json)
  | optional

/-- The defaults of a route, or the values of a match. -/
abbrev RouteValues := CaselessMap RouteValue

namespace RouteValue

instance : Inhabited RouteValue := ⟨.optional⟩

def ofText (s : String) : RouteValue := .literal (.str s)

def isOptional : RouteValue → Bool
  | .optional => true
  | .literal _ => false

/-- The text form: a string stands for itself, `null` for the empty text, other literals are written
as JSON. The mark has none. -/
def text? : RouteValue → Option String
  | .literal (.str s) => some s
  | .literal .null => some ""
  | .literal v => some v.compact
  | .optional => none

/-- The JSON form, in which the mark is `null`. -/
def toJson : RouteValue → Json
  | .literal v => v
  | .optional => .null

def same : RouteValue → RouteValue → Bool
  | .literal a, .literal b => a.same b
  | .optional, .optional => true
  | _, _ => false

end RouteValue

namespace CaselessMap

def toJson {α : Type} (value : α → Json) (m : CaselessMap α) : Json :=
  .obj (m.entries.map fun e => (e.1, value e.2))

end CaselessMap

end Routebook
