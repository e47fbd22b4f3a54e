import Routebook.Catalog.Handler
import Routebook.Compile.Error

/-!
# The verbs of a handler

* `Handler.singleDeclaration` : the one route that a handler declares;
* `Handler.verbs` : the verbs that its markers name, all of them together.
-/

namespace Routebook.Handler

/-- The route that the handler declares, if it declares any; more than one is an error. -/
def singleDeclaration (h : Handler) : Except CompileError (Option Declaration) :=
  match h.declarations with
  | [] => .ok none
  | [d] => .ok (some d)
  | ds => .error (.ambiguousDeclaration h.owner h.name ds.length)

/-- Adds the verbs that tokens name, up to the first that names none. -/
def addTokens (h : Handler) : List String → VerbSet → Except CompileError VerbSet
  | [], s => .ok s
  | token :: rest, s =>
    match Verb.parse? token with
    | some v => addTokens h rest (s.insert v)
    | none => .error (.unsupportedVerb h.owner h.name token)

/-- Adds the verbs that markers name. -/
def addMarkers (h : Handler) : List Marker → VerbSet → Except CompileError VerbSet
  | [], s => .ok s
  | .verb v :: rest, s => addMarkers h rest (s.insert v)
  | .route d :: rest, s =>
    match d.verb with
    | some v => addMarkers h rest (s.insert v)
    | none => addMarkers h rest s
  | .acceptVerbs tokens :: rest, s =>
    match addTokens h tokens s with
    | .error e => .error e
    | .ok s => addMarkers h rest s
  | _ :: rest, s => addMarkers h rest s

/-- The verbs that the handler accepts: those that its markers name, or `GET` if they name none. A
handler that is excluded must not declare a route. -/
def verbs (h : Handler) : Except CompileError VerbSet :=
  match h.isExcluded, h.declarations with
  | true, d :: _ => .error (.conflictingExclusion h.owner h.name d.url)
  | _, _ =>
    match addMarkers h h.markers .empty with
    | .error e => .error e
    | .ok s => .ok (if s.isEmpty then .single .get else s)

end Routebook.Handler
