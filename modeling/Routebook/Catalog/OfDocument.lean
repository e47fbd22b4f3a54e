import Routebook.Catalog.Basic
import Routebook.Catalog.Document
import Routebook.Failure

/-!
# The catalog of a document

The values of a document are interpreted in order: owner by owner, the initializers of an owner
before its handlers.

* `Matchers` : the matchers that a document may name;
* `MarkerDocument.marker`, `RouteDocument.entry` : interpret a marker and a route;
* `CatalogDocument.catalog` : the catalog of a whole document.
-/

namespace Routebook

/-- The matchers that a document may name; of two with one name the first counts. -/
abbrev Matchers := List Matcher

def Matchers.named (ms : Matchers) (name : String) : Except CatalogFault Constraint :=
  match ms.find? fun m => m.name == name with
  | some m => .ok (.custom m)
  | none => .error (.unknownMatcher name)

def namedVerb (token : String) : Except CatalogFault Verb :=
  match Verb.parse? token with
  | some v => .ok v
  | none => .error (.unknownVerb token)

def itemVerb : Json → Except CatalogFault Verb
  | .str token => namedVerb token
  | _ => .error .verbNotText

/-- The constraint that a value stands for: a text is an expression, a list names verbs, an object
names a matcher. -/
def constraintOf (ms : Matchers) : Json → Except CatalogFault Constraint
  | .str source => .ok (.pattern source)
  | .arr items => do return .ofVerbs (VerbSet.ofList (← items.mapM itemVerb))
  | .obj members =>
    match Json.member? "matcher" members with
    | some (.str name) => ms.named name
    | _ => .error .matcherNotNamed
  | value => .error (.unsupportedConstraint value)

def constraintsOf (ms : Matchers) (members : JsonMembers) :
    Except CatalogFault Constraints := do
  let pairs ← members.mapM fun e => do return (e.1, ← constraintOf ms e.2)
  return .ofList pairs

def literals (members : JsonMembers) : List (String × RouteValue) :=
  members.map fun e => (e.1, .literal e.2)

def MarkerDocument.marker (ms : Matchers) : MarkerDocument → Except CatalogFault Marker
  | .route url name token ds cs => do
    let verb ← token.mapM namedVerb
    let constraints ← constraintsOf ms cs
    return .route { url, name, verb, defaults := .ofList (literals ds), constraints }
  | .verb token => do return .verb (← namedVerb token)
  | .acceptVerbs tokens => .ok (.acceptVerbs tokens)
  | .nonAction => .ok .nonAction
  | .default name value => .ok (.default name (.literal value))
  | .optional name => .ok (.optional name)
  | .urlParam name value mayBeLeftOut source =>
    match mayBeLeftOut, value with
    | true, some _ => .error (.optionalWithDefault name)
    | true, none => .ok (.urlParam name (some .optional) source)
    | false, value => .ok (.urlParam name (value.map .literal) source)
  | .constraint name source matcher =>
    match source, matcher with
    | some source, none => .ok (.constraint name (.pattern source))
    | none, some matcher => do return .constraint name (← ms.named matcher)
    | _, _ => .error (.patternAndMatcher name)

def verbsKey : String := "verb"

/-- The entry of a route that a document writes. Parameters that may be left out come behind the
defaults, the verbs behind the constraints. -/
def RouteDocument.entry (ms : Matchers) (r : RouteDocument) : Except CatalogFault Entry := do
  let defaults := CaselessMap.ofList (literals r.defaults ++ r.optional.map fun k => (k, .optional))
  let constraints ← constraintsOf ms r.constraints
  if r.verbs.isEmpty then return { name := r.name, url := r.url, defaults, constraints }
  else
    let verbs ← r.verbs.mapM namedVerb
    return { name := r.name, url := r.url, defaults,
             constraints := constraints.insert verbsKey (.ofVerbs (VerbSet.ofList verbs)) }

def faultDuring {α : Type} (activity : Activity) : Except CatalogFault α → Except Failure α
  | .ok a => .ok a
  | .error f => .error { activities := [activity], cause := .fault f }

def InitializerDocument.initializer (ms : Matchers) (owner : String) (i : InitializerDocument) :
    Except Failure Initializer := do
  let entries ← i.routes.mapM fun r => faultDuring (.addingRoute r.name i.name) (r.entry ms)
  return .ofEntries owner i.name entries

def HandlerDocument.handler (ms : Matchers) (owner : String) (h : HandlerDocument) :
    Except Failure Handler := do
  let markers ← faultDuring (.addingHandler h.name owner) (h.markers.mapM (·.marker ms))
  return ⟨owner, h.name, markers⟩

/-- Adds the items of an owner, the initializers first. -/
def OwnerDocument.addTo (ms : Matchers) (c : Catalog) (o : OwnerDocument) :
    Except Failure Catalog := do
  let c ← o.initializers.foldlM (fun c i => do
    return c.addInitializer (← duringActivity (.addingOwner o.name) (i.initializer ms o.name)))
    (c.addOwner o.name)
  o.handlers.foldlM (fun c h => do return c.addHandler (← h.handler ms o.name)) c

def CatalogDocument.catalog (ms : Matchers) (d : CatalogDocument) : Except Failure Catalog :=
  d.owners.foldlM (OwnerDocument.addTo ms) .empty

end Routebook
