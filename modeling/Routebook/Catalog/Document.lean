import Routebook.Json.Basic

/-!
# Catalog documents

A catalog as a document writes it, before any of its values is interpreted.

* `CatalogDocument` : owners, each with initializers and handlers;
* `MarkerDocument`, `RouteDocument` : what is written of a handler or a route.
-/

namespace Routebook

/-- Keys with the values that are written under them. -/
abbrev JsonMembers := List (String × Json)

/-- A route of an initializer. -/
structure RouteDocument where
  name : String
  url : String
  defaults : JsonMembers := []
  /-- parameters that may be left out -/
  optional : List String := []
  constraints : JsonMembers := []
  /-- names of verbs -/
  verbs : List String := []

/-- An initializer: routes that are registered in order. -/
structure InitializerDocument where
  name : String
  routes : List RouteDocument := []

/-- A marker of a handler. -/
inductive MarkerDocument where
  | route (url : String) (name verb : Option String) (defaults constraints : JsonMembers)
  | verb (verb : String)
  | acceptVerbs (verbs : List String)
  | nonAction
  | default (name : String) (value : Json)
  | optional (name : String)
  | urlParam (name : String) (default : Option Json) (optional : Bool) (constraint : Option String)
  | constraint (name : String) (pattern matcher : Option String)

structure HandlerDocument where
  name : String
  markers : List MarkerDocument := []

/-- The part of a document about one owner. -/
structure OwnerDocument where
  name : String
  initializers : List InitializerDocument := []
  handlers : List HandlerDocument := []

structure CatalogDocument where
  owners : List OwnerDocument := []

end Routebook
