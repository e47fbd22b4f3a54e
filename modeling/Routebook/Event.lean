import Routebook.Text.Inspect

/-!
# Events

What the library reports about its work while it runs, in order.

* `Event` : a report; `Event.level`, `Event.target`, `Event.message`, `Event.fields` : its parts.
-/

namespace Routebook

/-- How important a report is. -/
inductive Level where
  | trace
  | debug
  | info
  | warn
  | error
deriving DecidableEq, Repr

def Level.name : Level → String
  | .trace => "TRACE"
  | .debug => "DEBUG"
  | .info => "INFO"
  | .warn => "WARN"
  | .error => "ERROR"

/-- A report about the library's work. -/
inductive Event where
  | initializerRan (owner initializer : String) (added : Nat)
  | routeCompiled (owner handler name url verbs : String)
  | scopeCompiled (owner : String) (initializers handlers skipped added : Nat)
  | compileFailed (kind owner error : String) (discarded : Nat)
  | matchAttempt (method path : String) (routes : Nat)
  | routeMatched (method path name url : String)
  | noRouteMatched (method path : String)
  | tableLoaded (routes : Nat) (summary : List String)
deriving DecidableEq, Repr

namespace Event

def level : Event → Level
  | .initializerRan .. | .routeCompiled .. => .debug
  | .scopeCompiled .. => .info
  | .compileFailed .. => .warn
  | .matchAttempt .. | .routeMatched .. | .noRouteMatched .. => .debug
  | .tableLoaded .. => .info

def target : Event → String
  | .initializerRan .. => "waymark::compiler::initializer"
  | .routeCompiled .. | .scopeCompiled .. | .compileFailed .. => "waymark::compiler::core"
  | .matchAttempt .. | .routeMatched .. | .noRouteMatched .. | .tableLoaded .. =>
    "waymark::table::core"

def message : Event → String
  | .initializerRan .. => "Route initializer ran"
  | .routeCompiled .. => "Compiled route"
  | .scopeCompiled .. => "Compiled owner scope"
  | .compileFailed .. => "Route compilation failed; table rolled back"
  | .matchAttempt .. => "Route match attempt"
  | .routeMatched .. => "Route matched"
  | .noRouteMatched .. => "No route matched"
  | .tableLoaded .. => "Route table loaded"

def fields : Event → List (String × String)
  | .initializerRan owner initializer added =>
    [("owner", owner), ("initializer", initializer), ("routes_added", toString added)]
  | .routeCompiled owner handler name url verbs =>
    [("owner", owner), ("handler", handler), ("route_name", name), ("route_pattern", url),
      ("verbs", verbs)]
  | .scopeCompiled owner initializers handlers skipped added =>
    [("owner", owner), ("initializers", toString initializers), ("handlers", toString handlers),
      ("handlers_skipped", toString skipped), ("routes_added", toString added)]
  | .compileFailed kind owner error discarded =>
    [("error_kind", kind), ("owner", owner), ("error", error),
      ("routes_discarded", toString discarded)]
  | .matchAttempt method path routes =>
    [("method", method), ("path", path), ("routes", toString routes)]
  | .routeMatched method path name url =>
    [("method", method), ("path", path), ("route_name", name), ("route_pattern", url)]
  | .noRouteMatched method path => [("method", method), ("path", path)]
  | .tableLoaded routes summary =>
    [("routes_count", toString routes), ("routes_summary", Text.inspectList summary)]

end Event

end Routebook
