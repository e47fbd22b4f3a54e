import Routebook.Route.Entry
import Routebook.Table.Error

/-!
# Registries

Where the compiler puts its entries, and what programs do with one.

* `Registry` : the operations of a registry;
* `Script` : a program over a registry, as data; `Script.run` runs it;
* `OpenRegistry` : a registry that takes every entry.
-/

namespace Routebook

/-- What can be asked of a registry. Entries are only added while compiling; rolling back discards
what a failed compile has added. -/
class Registry (σ : Type) where
  /-- Adds an entry at the end, unless its name is taken or it is malformed. -/
  register : σ → Entry → Except TableError σ
  /-- An entry of this name is there. -/
  hasName : σ → String → Bool
  /-- The entries in order. -/
  entries : σ → List Entry
  /-- Drops the entries from a position on. -/
  truncate : σ → Nat → σ

namespace Registry

variable {σ : Type} [Registry σ]

def size (t : σ) : Nat := (entries t).length

/-- The entries from a position on. -/
def since (t : σ) (start : Nat) : List Entry := (entries t).drop start

end Registry

/-- A program over a registry that gives an `α`. -/
inductive Script (α : Type) where
  | done (value : α)
  | register (entry : Entry) (next : Except TableError Unit → Script α)
  | hasName (name : String) (next : Bool → Script α)
  | size (next : Nat → Script α)
  | since (start : Nat) (next : List Entry → Script α)
  | truncate (length : Nat) (next : Script α)

namespace Script

variable {α β : Type}

def bind : Script α → (α → Script β) → Script β
  | .done a, f => f a
  | .register e next, f => .register e fun r => (next r).bind f
  | .hasName n next, f => .hasName n fun b => (next b).bind f
  | .size next, f => .size fun n => (next n).bind f
  | .since s next, f => .since s fun es => (next es).bind f
  | .truncate n next, f => .truncate n (next.bind f)

instance : Monad Script where
  pure := .done
  bind := bind

/-- Runs a program: its value and the registry that it leaves. -/
def run {σ : Type} [Registry σ] : Script α → σ → α × σ
  | .done a, t => (a, t)
  | .register e next, t =>
    match Registry.register t e with
    | .ok t => (next (.ok ())).run t
    | .error err => (next (.error err)).run t
  | .hasName n next, t => (next (Registry.hasName t n)).run t
  | .size next, t => (next (Registry.size t)).run t
  | .since s next, t => (next (Registry.since t s)).run t
  | .truncate n next, t => next.run (Registry.truncate t n)

/-- Registers the entries of a list in order, up to the first that is refused. -/
def registerAll : List Entry → Script (Except TableError Unit)
  | [] => .done (.ok ())
  | e :: rest => .register e fun
    | .ok () => registerAll rest
    | .error err => .done (.error err)

def registerPlain (name url : String) (defaults : RouteValues) : Script (Except TableError Unit) :=
  .register { name, url, defaults } .done

end Script

/-- A registry that takes every entry as it is. -/
structure OpenRegistry where
  list : List Entry := []

instance : Registry OpenRegistry where
  register t e := .ok ⟨t.list ++ [e]⟩
  hasName t name := t.list.any fun e => Text.sameText e.name name
  entries t := t.list
  truncate t n := ⟨t.list.take n⟩

end Routebook
