import Routebook.Regex.Footprint
import Routebook.Route.Value
import Routebook.Verb.Basic

/-!
# Constraints of a route

* `Request` : what a route is matched against;
* `Matcher` : a test supplied by the host;
* `Constraint` : a regular expression, a list of verb names, or a matcher;
* `Regex.full?` : the expression that a constraint's source stands for.
-/

namespace Routebook

/-- A request: its method and its path as given. -/
structure Request where
  method : String
  path : String
deriving DecidableEq, Repr

/-- A test supplied by the host. It sees the request, the key it was put under and the values of the
match. Two matchers are the same object when their handles are equal. -/
structure Matcher where
  handle : Nat
  name : String
  accepts : Request → String → RouteValues → Bool

/-- A condition on a match. -/
inductive Constraint where
  /-- The value must match the expression in full, in any case. -/
  | pattern (source : String)
  /-- The method must be one of those named. -/
  | methods (names : List String)
  | custom (matcher : Matcher)

/-- The constraints of a route. -/
abbrev Constraints := CaselessMap Constraint

namespace Constraint

def ofVerbs (s : VerbSet) : Constraint := .methods s.names

/-- Equal sources or names, or the same matcher. -/
def same : Constraint → Constraint → Bool
  | .pattern a, .pattern b => a == b
  | .methods a, .methods b => a == b
  | .custom a, .custom b => a.handle == b.handle
  | _, _ => false

def toJson : Constraint → Json
  | .pattern s => .str s
  | .methods names => .arr (names.map .str)
  | .custom m => .obj [("custom", .str m.name)]

end Constraint

/-- The flags of a constraint's expression: letters of either case, characters of all scripts. -/
def Regex.constraintFlags : Regex.Flags where
  ignoreCase := true
  multiLine := false
  dotNewline := false
  unicode := true
  crlf := false
  spaced := false

/-- The expression of a constraint: the source as it stands, in a group between the marks of the
text's two ends. -/
def Regex.full? (source : String) : Option Regex :=
  Regex.compile? Regex.constraintFlags ("^(?:" ++ source ++ ")$")

end Routebook
