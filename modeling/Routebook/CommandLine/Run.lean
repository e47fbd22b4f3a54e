import Routebook.CommandLine.Arguments
import Routebook.Config.Text
import Routebook.Publish.Basic

/-!
# Running a command

* `Printed` : what a part of a command leaves behind, with what it has printed by then;
* `Entry.print`, `printListing`, `printAnswer` : print piece by piece;
* `Invocation.print` : all that an invocation does;
* `Invocation.run` : its report, or the failure that keeps it from being written.

The configuration is read first, then the method of a request, then the catalog.
-/

namespace Routebook

/-- What a part of a command leaves behind: a result, what it has printed by then, and the reports made on
the way. -/
structure Printed (α : Type) where
  result : Except Failure α
  text : String := ""
  events : List Event := []

namespace Printed

variable {α β : Type}

/-- A part that prints nothing and reports nothing. -/
def ofExcept (r : Except Failure α) : Printed α := ⟨r, "", []⟩

def ofOutcome (o : Outcome α) : Printed α := ⟨o.result, "", o.events⟩

def write (text : String) : Printed Unit := ⟨.ok (), text, []⟩

/-- Goes on after a success; a failure stays, and so does what was printed before it. -/
def andThen (p : Printed α) (f : α → Printed β) : Printed β :=
  match p.result with
  | .error e => ⟨.error e, p.text, p.events⟩
  | .ok a =>
    let next := f a
    ⟨next.result, p.text ++ next.text, p.events ++ next.events⟩

end Printed

def isMethodChar (c : Char) : Bool :=
  c.isAlphanum || ['!', '#', '$', '%', '&', '\'', '*', '+', '-', '.', '^', '_', '\x60', '|',
    '~'].contains c

/-- A method in upper case, if it is one. -/
def readMethod (method : String) : Except Failure String :=
  let name := Text.upperCase method
  if name != "" && name.toList.all isMethodChar then .ok name
  else .error { activities := [.readingMethod method], cause := .method }

namespace Config

/-- The settings for an invocation: those of the file, then those of the environment. -/
def ofInvocation (files : Files) (env : Environment) (path : Option String) :
    Except Failure Config :=
  match path with
  | some path => do return (← load files path).withEnvironment env
  | none => .ok (standard.withEnvironment env)

end Config

/-- Loads a catalog, whose document can name no matchers, and compiles it. -/
def compileFile (files : Files) (path : String) (owner : Option String) (config : Config) :
    Outcome (RouteTable × List Entry) :=
  match Catalog.load files path [] with
  | .ok c => c.freshTable config owner (.compiling path)
  | .error f => .failure f

def Entry.print (e : Entry) : Printed Unit :=
  (Printed.write (e.name ++ "  " ++ e.url ++ "\n")).andThen fun () =>
  (Printed.write ("    defaults:    " ++ (e.defaults.toJson RouteValue.toJson).compact ++ "\n")).andThen fun () =>
  Printed.write ("    constraints: " ++ (e.constraints.toJson Constraint.toJson).compact ++ "\n")

def printEntries : List Entry → Printed Unit
  | [] => .ofExcept (.ok ())
  | e :: rest => e.print.andThen fun () => printEntries rest

/-- Prints the entries of a table and their number, or all of them as JSON. -/
def printListing (json : Bool) (entries : List Entry) : Printed Unit :=
  if json then
    (Printed.write (Json.arr (entries.map Entry.toJson)).pretty).andThen fun () => .write "\n"
  else
    (printEntries entries).andThen fun () => .write (toString entries.length ++ " routes\n")

/-- Prints the entry that answers a request, and the values of the match. -/
def printAnswer (t : RouteTable) (method path : String) : Printed Unit :=
  (Printed.ofOutcome ⟨.ok (t.route method path), t.routeEvents method path⟩).andThen fun
    | some m =>
      m.entry.print.andThen fun () =>
        .write ("    values:      " ++ (m.values.toJson RouteValue.toJson).compact ++ "\n")
    | none => .write ("no route matches " ++ method ++ " " ++ path ++ "\n")

def Command.print (files : Files) (config : Config) : Command → Printed Unit
  | .compile catalog owner json =>
    (Printed.ofOutcome (compileFile files catalog owner config)).andThen fun t => printListing json t.2
  | .route catalog method path =>
    (Printed.ofExcept (readMethod method)).andThen fun method =>
      (Printed.ofOutcome (compileFile files catalog none config)).andThen fun t =>
        printAnswer t.1 method path

namespace Invocation

def print (files : Files) (env : Environment) (i : Invocation) : Printed Unit :=
  (Printed.ofExcept (Config.ofInvocation files env i.config)).andThen (i.command.print files)

/-- The report of an invocation: what it has printed once it has succeeded. -/
def run (files : Files) (env : Environment) (i : Invocation) : Outcome String :=
  let p := i.print files env
  ⟨p.result.map fun () => p.text, p.events⟩

end Invocation

end Routebook
