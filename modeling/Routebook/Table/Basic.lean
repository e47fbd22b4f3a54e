import Routebook.Event
import Routebook.Table.Registry
import Routebook.Table.Route

/-!
# The route table

Routes in the order of their registration, with an index from their names. Names compare without
regard to ASCII case.

* `RouteTable.register`, `RouteTable.truncate` : change the table;
* `RouteTable.find?`, `RouteTable.hasName` : find an entry by name;
* `RouteTable.route` : the first route that takes a request.
-/

namespace Routebook

/-- The position of each route by its name in lower case. -/
abbrev NameIndex := List (String × Nat)

namespace NameIndex

def find? (index : NameIndex) (key : String) : Option Nat :=
  (List.find? (fun e => e.1 == key) index).map Prod.snd

/-- Removes a name. -/
def erase (index : NameIndex) (key : String) : NameIndex :=
  index.filter fun e => e.1 != key

end NameIndex

/-- The form of a route's name in the index. -/
def indexKey (name : String) : String := Text.foldCase name

/-- An ordered table of routes. -/
structure RouteTable where
  routes : List Route := []
  index : NameIndex := []

/-- What a request is answered with: the entry of its route and the values of the match. -/
structure RouteMatch where
  entry : Entry
  values : RouteValues

/-- The text of a value of the match, if it is there and not left out. -/
def RouteMatch.text? (m : RouteMatch) (name : String) : Option String :=
  (m.values.get? name).bind RouteValue.text?

namespace RouteTable

def empty : RouteTable := {}

def size (t : RouteTable) : Nat := t.routes.length

def entries (t : RouteTable) : List Entry := t.routes.map Route.entry

def hasName (t : RouteTable) (name : String) : Bool := (t.index.find? (indexKey name)).isSome

def find? (t : RouteTable) (name : String) : Option Entry :=
  match t.index.find? (indexKey name) with
  | some i => (t.routes[i]?).map Route.entry
  | none => none

/-- Adds an entry at the end. Its name must be new, its URL a pattern, and its constraints regular
expressions where they are patterns. -/
def register (t : RouteTable) (e : Entry) : Except TableError RouteTable :=
  if t.hasName e.name then .error (.duplicateName e.name)
  else
    match Route.ofEntry e with
    | .error err => .error err
    | .ok r => .ok { routes := t.routes ++ [r], index := t.index ++ [(indexKey e.name, t.size)] }

/-- Drops the routes from position `n` on, and their names. -/
def truncate (t : RouteTable) (n : Nat) : RouteTable where
  routes := t.routes.take n
  index := (t.routes.drop n).foldl (fun index r => index.erase (indexKey r.entry.name)) t.index

instance : Registry RouteTable where
  register := register
  hasName := hasName
  entries := entries
  truncate := truncate

/-- The first route that takes a request, and the values of the match. -/
def route (t : RouteTable) (method path : String) : Option RouteMatch :=
  t.routes.findSome? fun r => (r.match? ⟨method, path⟩).map (RouteMatch.mk r.entry)

/-- The reports about the answer to a request. -/
def routeEvents (t : RouteTable) (method path : String) : List Event :=
  .matchAttempt method path t.size ::
    match t.route method path with
    | some m => [.routeMatched method path m.entry.name m.entry.url]
    | none => [.noRouteMatched method path]

/-- The report about the table: its first ten routes. -/
def summary (t : RouteTable) : Event :=
  .tableLoaded t.size ((t.entries.take 10).map fun e => e.name ++ " -> " ++ e.url)

end RouteTable

end Routebook
