import Routebook.Catalog.Text
import Routebook.Compile.Basic
import Routebook.Table.Basic

/-!
# Publishing tables

A catalog is compiled into a table of its own, which then takes the place of the table before it. A
catalog that does not compile changes nothing.

* `Outcome` : a result with the reports made on the way;
* `Catalog.publication`, `publicationOfFile` : the table that is to be published;
* `SharedTable.publish` : the change of the shared table;
* `Watch` : a file that is published again when it changes.
-/

namespace Routebook

/-- A result that may be a failure, and the reports made on the way. -/
structure Outcome (α : Type) where
  result : Except Failure α
  events : List Event := []

namespace Outcome

def failure {α : Type} (f : Failure) : Outcome α := ⟨.error f, []⟩

def andThen {α β : Type} (o : Outcome α) (f : α → Outcome β) : Outcome β :=
  match o.result with
  | .error e => ⟨.error e, o.events⟩
  | .ok a => ⟨(f a).result, o.events ++ (f a).events⟩

end Outcome

/-- Compiles a catalog, or one of its owners, into a new table; the table and its entries. -/
def Catalog.freshTable (c : Catalog) (config : Config) (owner : Option String)
    (activity : Activity) : Outcome (RouteTable × List Entry) :=
  let s := match owner with
    | some owner => c.compileOnly config owner RouteTable.empty
    | none => c.compile config RouteTable.empty
  match s.result with
  | .ok added => ⟨.ok (s.table, added), s.events ++ [s.table.summary]⟩
  | .error e => ⟨.error { activities := [activity], cause := .compile e }, s.events⟩

/-- The table that is published for a catalog. -/
def Catalog.publication (c : Catalog) (config : Config) : Outcome RouteTable :=
  (c.freshTable config none .publishing).andThen fun t => ⟨.ok t.1, []⟩

/-- The table that is published for a catalog file. -/
def publicationOfFile (files : Files) (path : String) (config : Config) (ms : Matchers) :
    Outcome RouteTable :=
  match Catalog.load files path ms with
  | .ok c => c.publication config
  | .error f => .failure f

/-- The table that all readers share; a reader keeps the table that it has taken. -/
structure SharedTable where
  current : RouteTable := .empty

/-- Puts a published table in the place of the current one; a failure leaves that in place. -/
def SharedTable.publish (shared : SharedTable) (o : Outcome RouteTable) : SharedTable :=
  match o.result with
  | .ok t => ⟨t⟩
  | .error _ => shared

/-- A catalog file that is published again when it changes. -/
structure Watch where
  path : String
  config : Config
  matchers : Matchers

/-- What a watch reports. -/
inductive WatchReport where
  | republished
  | kept
deriving DecidableEq, Repr

def WatchReport.message : WatchReport → String
  | .republished => "hot-reload: route table republished"
  | .kept => "hot-reload: keeping previous route table"

namespace Watch

def publication (w : Watch) (files : Files) : Outcome RouteTable :=
  publicationOfFile files w.path w.config w.matchers

def report (w : Watch) (files : Files) : WatchReport :=
  match (w.publication files).result with
  | .ok _ => .republished
  | .error _ => .kept

end Watch

end Routebook
