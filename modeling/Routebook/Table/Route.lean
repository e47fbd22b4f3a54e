import Routebook.Route.Entry
import Routebook.Table.Error

/-!
# Routes of a table

A route is an entry made ready for matching: its URL read as a pattern, its constraints as checks.

* `Check` : a constraint made ready; `Check.holds` decides it;
* `Route.ofEntry` : the route of an entry;
* `Route.match?` : the values of a request that the route takes.
-/

namespace Routebook

/-- A constraint made ready for matching. -/
inductive Check where
  | pattern (key : String) (regex : Regex)
  | methods (names : List String)
  | custom (key : String) (matcher : Matcher)

namespace Check

/-- Makes a constraint ready. Names that are no verbs are dropped: they allow no method. -/
def ofConstraint (route key : String) : Constraint → Except TableError Check
  | .pattern source =>
    match Regex.full? source with
    | some r => .ok (.pattern key r)
    | none => .error (.invalidConstraint route key)
  | .methods names => .ok (.methods ((names.filterMap Verb.parse?).map Verb.name))
  | .custom m => .ok (.custom key m)

/-- Makes the constraints of a route ready, up to the first that cannot be. -/
def ofConstraints (route : String) : List (String × Constraint) → Except TableError (List Check)
  | [] => .ok []
  | (key, c) :: rest =>
    match ofConstraint route key c with
    | .error e => .error e
    | .ok check =>
      match ofConstraints route rest with
      | .error e => .error e
      | .ok checks => .ok (check :: checks)

/-- The request and the values of its match pass. An expression looks at the value under its key, or
at the whole path where there is none; a parameter that was left out passes. -/
def holds (request : Request) (values : RouteValues) : Check → Bool
  | .methods names => names.contains request.method
  | .pattern key regex =>
    match values.get? key with
    | some v =>
      match v.text? with
      | some text => regex.isMatch text
      | none => true
    | none => regex.isMatch (trimPath request.path)
  | .custom key m => m.accepts request key values

end Check

/-- An entry made ready for matching. -/
structure Route where
  entry : Entry
  pattern : UrlPattern
  checks : List Check

namespace Route

/-- Makes an entry ready: first its URL, then its constraints in order. -/
def ofEntry (e : Entry) : Except TableError Route :=
  match UrlPattern.parse e.url with
  | .error reason => .error (.invalidPattern e.name e.url reason)
  | .ok pattern =>
    match Check.ofConstraints e.name e.constraints.entries with
    | .error err => .error err
    | .ok checks => .ok ⟨e, pattern, checks⟩

def match? (r : Route) (request : Request) : Option RouteValues :=
  match r.pattern.matches? (trimPath request.path) r.entry.defaults with
  | none => none
  | some values => if r.checks.all (Check.holds request values) then some values else none

end Route

end Routebook
