import Routebook.Catalog.Document
import Routebook.Catalog.Source

/-!
# Decoding catalog documents

Records know their fields: one that is unknown, missing, there twice or of another type makes the
whole document malformed.

* `MarkerDocument.ofTagged?` : a marker of a kind;
* `CatalogDocument.decode?` : a document in any notation.
-/

namespace Routebook

open Source

namespace MarkerDocument

/-- A value that may be left out or `null`. -/
def nullable? {α : Type} (decode? : Datum → Option α) : Datum → Option (Option α)
  | .null => some none
  | d => (decode? d).map some

def bool? : Datum → Option Bool
  | .bool b => some b
  | _ => none

/-- An exclusion has no fields; entries beside its kind are passed over, further items are not. -/
def ofExclusion? : Datum → Option MarkerDocument
  | .map _ | .seq [] => some .nonAction
  | _ => none

def ofRoute? (rest : Datum) : Option MarkerDocument := do
  let fields ← record? ["url", "name", "verb", "defaults", "constraints"] rest
  return .route
    (← required? text? "url" fields)
    (← optional? (nullable? text?) none "name" fields)
    (← optional? (nullable? text?) none "verb" fields)
    (← optional? members? [] "defaults" fields)
    (← optional? members? [] "constraints" fields)

def ofUrlParam? (rest : Datum) : Option MarkerDocument := do
  let fields ← record? ["name", "default", "optional", "constraint"] rest
  return .urlParam
    (← required? text? "name" fields)
    (← optional? (nullable? Datum.toJson?) none "default" fields)
    (← optional? bool? false "optional" fields)
    (← optional? (nullable? text?) none "constraint" fields)

def ofConstraint? (rest : Datum) : Option MarkerDocument := do
  let fields ← record? ["name", "pattern", "matcher"] rest
  return .constraint
    (← required? text? "name" fields)
    (← optional? (nullable? text?) none "pattern" fields)
    (← optional? (nullable? text?) none "matcher" fields)

def ofTagged? (kind : String) (rest : Datum) : Option MarkerDocument :=
  match kind with
  | "route" => ofRoute? rest
  | "verb" => do
    let fields ← record? ["verb"] rest
    return .verb (← required? text? "verb" fields)
  | "accept_verbs" => do
    let fields ← record? ["verbs"] rest
    return .acceptVerbs (← required? (listOf? text?) "verbs" fields)
  | "non_action" => ofExclusion? rest
  | "default" => do
    let fields ← record? ["name", "value"] rest
    return .default (← required? text? "name" fields) (← required? Datum.toJson? "value" fields)
  | "optional" => do
    let fields ← record? ["name"] rest
    return .optional (← required? text? "name" fields)
  | "url_param" => ofUrlParam? rest
  | "constraint" => ofConstraint? rest
  | _ => none

def decode? {ν : Type} [Source ν] (v : ν) : Option MarkerDocument := do
  let (kind, rest) ← tagged? v
  ofTagged? kind rest

end MarkerDocument

variable {ν : Type} [Source ν]

def RouteDocument.decode? (v : ν) : Option RouteDocument := do
  let fields ← record? ["name", "url", "defaults", "optional", "constraints", "verbs"] v
  return {
    name := ← required? text? "name" fields
    url := ← required? text? "url" fields
    defaults := ← optional? members? [] "defaults" fields
    optional := ← optional? (listOf? text?) [] "optional" fields
    constraints := ← optional? members? [] "constraints" fields
    verbs := ← optional? (listOf? text?) [] "verbs" fields }

def InitializerDocument.decode? (v : ν) : Option InitializerDocument := do
  let fields ← record? ["name", "routes"] v
  return {
    name := ← required? text? "name" fields
    routes := ← optional? (listOf? RouteDocument.decode?) [] "routes" fields }

def HandlerDocument.decode? (v : ν) : Option HandlerDocument := do
  let fields ← record? ["name", "markers"] v
  return {
    name := ← required? text? "name" fields
    markers := ← optional? (listOf? MarkerDocument.decode?) [] "markers" fields }

def OwnerDocument.decode? (v : ν) : Option OwnerDocument := do
  let fields ← record? ["name", "initializers", "handlers"] v
  return {
    name := ← required? text? "name" fields
    initializers := ← optional? (listOf? InitializerDocument.decode?) [] "initializers" fields
    handlers := ← optional? (listOf? HandlerDocument.decode?) [] "handlers" fields }

def CatalogDocument.decode? (v : ν) : Option CatalogDocument := do
  let fields ← record? ["owners"] v
  return { owners := ← optional? (listOf? OwnerDocument.decode?) [] "owners" fields }

end Routebook
