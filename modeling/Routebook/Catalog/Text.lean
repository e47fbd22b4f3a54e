import Routebook.Catalog.Decode
import Routebook.Catalog.OfDocument
import Routebook.Json.Reader
import Routebook.Yaml.Scalar

/-!
# Catalogs from texts and files

* `CatalogNotation` : the notations of catalogs; `CatalogNotation.ofPath` tells that of a file;
* `Catalog.parse`, `Catalog.load` : the catalog of a text and of a file.
-/

namespace Routebook

namespace Yaml.Node

/-- The kind of a record is the text under its key or in first place, whatever its tag. -/
def tagged? : Node → Option (String × Datum)
  | .map tag entries => do
    guard (isOrdinary tag)
    let entries ← entries.mapM fun e => do return (← toDatum? e.1, e.2)
    match entries.filter fun e => Datum.isKindKey e.1 with
    | [(_, kind)] =>
      let rest := entries.filter fun e => !Datum.isKindKey e.1
      return (← text? kind, .map (← rest.mapM fun e => do return (e.1, ← toDatum? e.2)))
    | _ => none
  | .seq tag (kind :: rest) => do
    guard (isOrdinary tag)
    return (← text? kind, .seq (← itemsToDatum? rest))
  | _ => none

instance : Source Node where
  text? := text?
  items?
    | .seq _ items => some items
    | v => if isMissing v then some [] else none
  fields? _
    | .map _ entries => entries.mapM fun e => (text? e.1).map (·, e.2)
    | v => if isMissing v then some [] else none
  members?
    | .map _ entries => entriesToJson? entries []
    | v => if isMissing v then some [] else none
  tagged? := tagged?

end Yaml.Node

/-- The notations of catalogs. -/
inductive CatalogNotation where
  | json
  | yaml
deriving DecidableEq, Repr

namespace CatalogNotation

/-- The last piece of a path. -/
def fileName (path : String) : List Char :=
  ((List.splitOn '/' path.toList).getLast?).getD []

/-- What stands behind the last point of a file's name, unless that is all there is. -/
def ending? (path : String) : Option String :=
  let name := fileName path
  if name == ['.', '.'] then none
  else
    let tail := name.reverse.takeWhile (· != '.')
    if name.length ≤ tail.length + 1 then none else some (String.ofList tail.reverse)

/-- The notation of a file, told by the end of its name. -/
def ofPath (path : String) : CatalogNotation :=
  match ending? path with
  | some "yaml" | some "yml" => .yaml
  | _ => .json

end CatalogNotation

/-- The text of every file that has one; a missing file, or one that is no text, has none. -/
abbrev Files := String → Option String

namespace CatalogDocument

def ofJson? (text : String) : Option CatalogDocument := (Json.datum? text).bind decode?

/-- The document that a YAML text writes; an empty text has no owners. -/
def ofYaml? (text : String) : Option CatalogDocument :=
  match Yaml.Node.ofText? text with
  | some (some v) => decode? v
  | some none => some {}
  | none => none

def parse (n : CatalogNotation) (text : String) : Except Failure CatalogDocument :=
  match n with
  | .json =>
    match ofJson? text with
    | some d => .ok d
    | none => .error { activities := [.decodingJson], cause := .json }
  | .yaml =>
    match ofYaml? text with
    | some d => .ok d
    | none => .error { activities := [.decodingYaml], cause := .yaml }

end CatalogDocument

namespace Catalog

/-- The catalog of a text. The whole text is read before any of its values is interpreted. -/
def parse (n : CatalogNotation) (text : String) (ms : Matchers) : Except Failure Catalog :=
  match CatalogDocument.parse n text with
  | .ok d => d.catalog ms
  | .error f => .error f

def load (files : Files) (path : String) (ms : Matchers) : Except Failure Catalog :=
  match files path with
  | some text => duringActivity (.loadingCatalog path) (parse (.ofPath path) text ms)
  | none => .error { activities := [.readingCatalog path], cause := .file }

end Catalog

end Routebook
