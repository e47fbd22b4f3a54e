import Routebook.Route.Pattern

/-!
# Errors of a table

* `TableError` : why an entry cannot be registered; `TableError.message` words it.
-/

namespace Routebook

/-- Why an entry cannot be registered. -/
inductive TableError where
  /-- a route of this name is there already -/
  | duplicateName (name : String)
  /-- the URL is no pattern -/
  | invalidPattern (route url : String) (reason : PatternError)
  /-- a constraint's source is no regular expression -/
  | invalidConstraint (route parameter : String)
deriving DecidableEq, Repr

namespace TableError

def message : TableError → String
  | .duplicateName n => "a route named '" ++ n ++ "' is already registered"
  | .invalidPattern r u e =>
    "route '" ++ r ++ "' has an invalid URL pattern '" ++ u ++ "': " ++ e.message
  | .invalidConstraint r p => "route '" ++ r ++ "' has an invalid constraint for '" ++ p ++ "'"

def kind : TableError → String
  | .duplicateName _ => "DuplicateName"
  | .invalidPattern .. => "InvalidPattern"
  | .invalidConstraint .. => "InvalidConstraint"

end TableError

end Routebook
