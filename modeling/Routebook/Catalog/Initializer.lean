import Routebook.Table.Registry

/-!
# Route initializers

An initializer is a program that registers routes of its owner by itself. It states its shape, and
only one shape is accepted.

* `Signature.check` : how a shape differs from the accepted one;
* `Initializer` : a program with its owner, name and shape.
-/

namespace Routebook

/-- How a program is called. -/
inductive Receiver where
  /-- without an instance of its owner -/
  | static
  /-- on an instance of its owner -/
  | onInstance
deriving DecidableEq, Repr

/-- What a program takes. -/
inductive Parameter where
  | routeTable
  | other (name : String)
deriving DecidableEq, Repr

def Parameter.name : Parameter → String
  | .routeTable => "RouteTable"
  | .other n => n

/-- The shape of a program. -/
structure Signature where
  receiver : Receiver
  parameters : List Parameter
deriving DecidableEq, Repr

/-- How a shape differs from the accepted one. -/
inductive Violation where
  | wrongArity (found : Nat)
  | wrongParameterType (found : String)
  | requiresInstance
deriving DecidableEq, Repr

namespace Violation

def message : Violation → String
  | .wrongArity n =>
    "must accept a route table as its only parameter (found " ++ toString n ++ " parameters)"
  | .wrongParameterType t =>
    "must accept a route table as its only parameter (found '" ++ t ++ "')"
  | .requiresInstance => "must be callable without an owner instance"

def kind : Violation → String
  | .wrongArity _ => "WrongArity"
  | .wrongParameterType _ => "WrongParameterType"
  | .requiresInstance => "RequiresInstance"

end Violation

namespace Signature

/-- The accepted shape: one parameter, the route table, and no instance. -/
def expected : Signature := ⟨.static, [.routeTable]⟩

/-- Compares a shape with the accepted one: the number of parameters, then the type of the one
parameter, then the receiver. -/
def check (s : Signature) : Except Violation Unit :=
  match s.parameters with
  | [.routeTable] =>
    match s.receiver with
    | .static => .ok ()
    | .onInstance => .error .requiresInstance
  | [.other t] => .error (.wrongParameterType t)
  | ps => .error (.wrongArity ps.length)

end Signature

/-- A program that registers routes of its owner. -/
structure Initializer where
  owner : String
  name : String
  signature : Signature := .expected
  callback : Script (Except TableError Unit)

def Initializer.ofEntries (owner name : String) (entries : List Entry) : Initializer where
  owner := owner
  name := name
  callback := Script.registerAll entries

end Routebook
