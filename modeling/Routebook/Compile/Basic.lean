import Routebook.Catalog.Basic
import Routebook.Compile.Entry
import Routebook.Compile.Step

/-!
# Compiling a catalog

The scopes of a catalog are compiled in order. In a scope all initializers are checked, then run in
order; then the handlers are compiled in order, those without a declaration being skipped.

* `Initializer.runAll`, `Handler.compile`, `Scope.compile` : the parts;
* `Step.atomically` : runs a part as a whole, which adds all its entries or none;
* `Catalog.compile`, `Catalog.compileOnly` : all owners, or one of them.
-/

namespace Routebook

variable {σ : Type} [Registry σ]

namespace Initializer

/-- Checks the shapes of initializers, up to the first that is not accepted. -/
def checkAll : List Initializer → Except CompileError Unit
  | [] => .ok ()
  | i :: rest =>
    match i.signature.check with
    | .error v => .error (.invalidInitializer i.owner i.name v)
    | .ok () => checkAll rest

def invokeAll : List Initializer → σ → Step σ Unit
  | [], t => .done () t
  | i :: rest, t =>
    let (result, after) := i.callback.run t
    match result with
    | .error e => .fail (.initializerFailed i.owner i.name e) after
    | .ok () =>
      (invokeAll rest after).report
        (.initializerRan i.owner i.name (Registry.size after - Registry.size t))

/-- Checks all initializers, then runs them; none runs unless all are accepted. -/
def runAll (is : List Initializer) (t : σ) : Step σ Unit :=
  Step.check (checkAll is) t fun () => invokeAll is t

end Initializer

namespace Handler

/-- Registers the entry of a handler, whose name must be new in any registry. -/
def registerEntry (owner : String) (h : Handler) (e : Entry) (t : σ) : Step σ Unit :=
  if Registry.hasName t e.name then
    .fail (.registration owner h.name (.duplicateName e.name)) t
  else
    match Registry.register t e with
    | .error err => .fail (.registration owner h.name err) t
    | .ok t => .done () t

/-- Compiles a handler in the scope of an owner; the result says whether it was skipped. -/
def compile (c : Config) (owner : String) (h : Handler) (t : σ) : Step σ Bool :=
  Step.check h.singleDeclaration t fun
    | none => .done true t
    | some d =>
      Step.check h.verbs t fun verbs =>
        Step.check (c.entry h d verbs) t fun e =>
          ((h.registerEntry owner e t).andThen fun () t => .done false t).report
            (.routeCompiled owner h.name e.name e.url verbs.label)

end Handler

namespace Scope

/-- Compiles handlers in order, up to the first that fails; the result is the number of those
skipped. -/
def compileHandlers (c : Config) (owner : String) : List Handler → σ → Step σ Nat
  | [], t => .done 0 t
  | h :: rest, t =>
    (h.compile c owner t).andThen fun skipped t =>
      (compileHandlers c owner rest t).andThen fun n t =>
        .done (if skipped then n + 1 else n) t

/-- Compiles the items of one owner. -/
def compile (c : Config) (s : Scope) (t : σ) : Step σ Unit :=
  (Initializer.runAll s.initializers t).andThen fun () after =>
    (compileHandlers c s.owner s.handlers after).andThen fun skipped after =>
      ⟨.ok (), after, [.scopeCompiled s.owner s.initializers.length s.handlers.length skipped
        (Registry.size after - Registry.size t)]⟩

/-- Compiles scopes in order, up to the first that fails. -/
def compileEach (c : Config) : List Scope → σ → Step σ Unit
  | [], t => .done () t
  | s :: rest, t => (s.compile c t).andThen fun () t => compileEach c rest t

end Scope

/-- Runs a compilation as a whole: its result are the entries behind those that were there before;
if it fails, the registry is cut back to the length that it had. -/
def Step.atomically (body : σ → Step σ Unit) (t : σ) : Step σ (List Entry) :=
  let mark := Registry.size t
  let s := body t
  match s.result with
  | .ok () => ⟨.ok (Registry.since s.table mark), s.table, s.events⟩
  | .error e =>
    ⟨.error e, Registry.truncate s.table mark,
      s.events ++ [.compileFailed e.kind e.owner e.message (Registry.size s.table - mark)]⟩

namespace Catalog

/-- Compiles all owners of a catalog; the result are the entries that were added. -/
def compile (catalog : Catalog) (c : Config) (t : σ) : Step σ (List Entry) :=
  Step.atomically (Scope.compileEach c (catalog.owners.map catalog.scope)) t

def compileOnly (catalog : Catalog) (c : Config) (owner : String) (t : σ) :
    Step σ (List Entry) :=
  Step.atomically ((catalog.scope owner).compile c) t

end Catalog

end Routebook
