import Routebook.Route.Entry

/-!
# Handlers and their markers

A handler is described by its owner, its name and a list of markers; a marker that declares a route
makes it routable.

* `Declaration` : the route that a marker declares;
* `Marker`, `Handler` : what a catalog says of a handler;
* `DeclaredHandler` : a handler with just one declaration and no exclusion.
-/

namespace Routebook

/-- A declared route. -/
structure Declaration where
  url : String
  /-- the name of the route, if it is not to be made up -/
  name : Option String := none
  /-- a verb that joins those of the other markers -/
  verb : Option Verb := none
  defaults : RouteValues := .empty
  constraints : Constraints := .empty

/-- What is said of a handler. -/
inductive Marker where
  | verb (verb : Verb)
  /-- names of verbs, read when the handler is compiled -/
  | acceptVerbs (tokens : List String)
  /-- the handler must not be routed -/
  | nonAction
  | route (declaration : Declaration)
  /-- a default for a parameter -/
  | default (name : String) (value : RouteValue)
  /-- a parameter may be left out -/
  | optional (name : String)
  /-- a parameter with a default, an expression, or both -/
  | urlParam (name : String) (default : Option RouteValue) (constraint : Option String)
  | constraint (name : String) (constraint : Constraint)

/-- A handler as a catalog describes it. -/
structure Handler where
  owner : String
  name : String
  markers : List Marker

namespace Marker

def declaration? : Marker → Option Declaration
  | .route d => some d
  | _ => none

/-- The marker excludes its handler. -/
def isExclusion : Marker → Bool
  | .nonAction => true
  | _ => false

def default? : Marker → Option (String × RouteValue)
  | .default n v => some (n, v)
  | .optional n => some (n, .optional)
  | .urlParam n (some v) _ => some (n, v)
  | _ => none

def constraint? : Marker → Option (String × Constraint)
  | .constraint n c => some (n, c)
  | .urlParam n _ (some source) => some (n, .pattern source)
  | _ => none

end Marker

namespace Handler

/-- A handler that must not be routed. -/
def excluded (owner name : String) : Handler := ⟨owner, name, [.nonAction]⟩

/-- A handler of which nothing is said. -/
def plain (owner name : String) : Handler := ⟨owner, name, []⟩

def declarations (h : Handler) : List Declaration := h.markers.filterMap Marker.declaration?

def isExcluded (h : Handler) : Bool := h.markers.any Marker.isExclusion

end Handler

/-- What can be added to a handler that has its declaration. -/
inductive Trait where
  | verb (verb : Verb)
  | acceptVerbs (tokens : List String)
  | default (name : String) (value : RouteValue)
  | optional (name : String)
  | urlParam (name : String) (default : Option RouteValue) (constraint : Option String)
  | constraint (name : String) (constraint : Constraint)

def Trait.marker : Trait → Marker
  | .verb v => .verb v
  | .acceptVerbs ts => .acceptVerbs ts
  | .default n v => .default n v
  | .optional n => .optional n
  | .urlParam n d c => .urlParam n d c
  | .constraint n c => .constraint n c

/-- A handler with just one declaration and no exclusion. -/
structure DeclaredHandler where
  owner : String
  name : String
  declaration : Declaration
  traits : List Trait := []

namespace DeclaredHandler

def add (h : DeclaredHandler) (t : Trait) : DeclaredHandler :=
  { h with traits := h.traits ++ [t] }

/-- The handler, whose declaration is its first marker. -/
def build (h : DeclaredHandler) : Handler :=
  ⟨h.owner, h.name, .route h.declaration :: h.traits.map Trait.marker⟩

end DeclaredHandler

end Routebook
