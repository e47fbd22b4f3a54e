import Routebook.Catalog.Handler
import Routebook.Catalog.Initializer

/-!
# Catalogs

A catalog groups handlers and initializers by owner. Owners come in the order in which they are
first mentioned, the items of an owner in the order in which they are added.

* `Catalog.addOwner`, `Catalog.addHandler`, `Catalog.addInitializer` : build a catalog;
* `Catalog.owners`, `Catalog.scope` : the owners in order, and the items of an owner.
-/

namespace Routebook

/-- The items of one owner. -/
structure Scope where
  owner : String
  handlers : List Handler := []
  initializers : List Initializer := []

/-- Handlers and initializers, grouped by owner. -/
structure Catalog where
  scopes : List Scope := []

namespace Catalog

def empty : Catalog := {}

/-- Changes the scope of an owner, which goes to the end if it is new. -/
def updateScopes (owner : String) (change : Scope → Scope) : List Scope → List Scope
  | [] => [change { owner }]
  | s :: rest =>
    if s.owner == owner then change s :: rest else s :: updateScopes owner change rest

def update (c : Catalog) (owner : String) (change : Scope → Scope) : Catalog :=
  ⟨updateScopes owner change c.scopes⟩

def addOwner (c : Catalog) (owner : String) : Catalog := c.update owner id

def addHandler (c : Catalog) (h : Handler) : Catalog :=
  c.update h.owner fun s => { s with handlers := s.handlers ++ [h] }

def addInitializer (c : Catalog) (i : Initializer) : Catalog :=
  c.update i.owner fun s => { s with initializers := s.initializers ++ [i] }

/-- The items of an owner that was mentioned. -/
def scope? (c : Catalog) (owner : String) : Option Scope :=
  c.scopes.find? fun s => s.owner == owner

def owners (c : Catalog) : List String := c.scopes.map Scope.owner

/-- The items of an owner; an unknown owner has none. -/
def scope (c : Catalog) (owner : String) : Scope := (c.scope? owner).getD { owner }

def handlers (c : Catalog) (owner : String) : List Handler := (c.scope owner).handlers

def initializers (c : Catalog) (owner : String) : List Initializer := (c.scope owner).initializers

end Catalog

end Routebook
