import Routebook.Compile.Verbs

/-!
# The verbs that markers name

The verbs of a handler are gathered marker by marker and token by token, up to the first token that names
no verb. What comes out is the union of what each marker names.

* `Handler.tokens`, `Handler.named` : the tokens of all markers in order, and the verbs that they name;
* `Handler.addMarkers_eq` : the gathering ends at the first unknown token, or gives the set of all that
  is named;
* `Handler.verbs_of_conflict`, `Handler.verbs_of_routable` : the verbs of a handler.
-/

namespace Routebook

/-- The token names no verb. -/
def Verb.isUnknown (token : String) : Bool := (Verb.parse? token).isNone

namespace Marker

/-- The tokens that the marker wants read as verbs. -/
def tokens : Marker → List String
  | .acceptVerbs tokens => tokens
  | _ => []

/-- The verbs that the marker names; a token that names none is passed over. -/
def named : Marker → List Verb
  | .verb v => [v]
  | .route d => d.verb.toList
  | .acceptVerbs tokens => tokens.filterMap Verb.parse?
  | _ => []

end Marker

namespace Handler

/-- The tokens of all markers, in order. -/
def tokens (h : Handler) : List String := h.markers.flatMap Marker.tokens

/-- The verbs that the markers name, in order. -/
def named (h : Handler) : List Verb := h.markers.flatMap Marker.named

/-- What gathering verbs gives: the first unknown token ends it. -/
def gathered (h : Handler) (tokens : List String) (vs : List Verb) (s : VerbSet) :
    Except CompileError VerbSet :=
  match tokens.find? Verb.isUnknown with
  | some token => .error (.unsupportedVerb h.owner h.name token)
  | none => .ok (vs.foldl VerbSet.insert s)

theorem addTokens_eq (h : Handler) (tokens : List String) (s : VerbSet) :
    h.addTokens tokens s = h.gathered tokens (tokens.filterMap Verb.parse?) s := by
  induction tokens generalizing s with
  | nil => rfl
  | cons token rest ih =>
    rw [addTokens, gathered, List.find?_cons, List.filterMap_cons, Verb.isUnknown]
    cases hparse : Verb.parse? token with
    | none => rfl
    | some v =>
      show h.addTokens rest (s.insert v) = _
      rw [ih, gathered]
      rfl

/-- One marker after the other. -/
theorem gathered_append {h : Handler} {front back : List String} {vs ws : List Verb} {s : VerbSet} :
    h.gathered (front ++ back) (vs ++ ws) s =
      match h.gathered front vs s with
      | .error e => .error e
      | .ok s => h.gathered back ws s := by
  simp only [gathered, List.find?_append, List.foldl_append]
  cases front.find? Verb.isUnknown <;> rfl

theorem addMarkers_eq (h : Handler) (ms : List Marker) (s : VerbSet) :
    h.addMarkers ms s = h.gathered (ms.flatMap Marker.tokens) (ms.flatMap Marker.named) s := by
  induction ms generalizing s with
  | nil => rfl
  | cons m rest ih =>
    rw [List.flatMap_cons, List.flatMap_cons, gathered_append]
    cases m with
    | acceptVerbs tokens =>
      rw [addMarkers, addTokens_eq]
      simp only [ih]
      rfl
    | route d =>
      rw [addMarkers]
      cases hverb : d.verb <;> simp only [ih] <;> simp [gathered, Marker.tokens, Marker.named, hverb]
    | _ => exact ih _

/-! ## The verbs of a handler -/

variable {h : Handler}

theorem verbs_of_conflict {d : Declaration} {rest : List Declaration} (hex : h.isExcluded = true)
    (hds : h.declarations = d :: rest) : h.verbs = .error (.conflictingExclusion h.owner h.name d.url) := by
  rw [verbs, hex, hds]

/-- The verbs that the markers name, or `GET` if they name none. -/
def union (h : Handler) : VerbSet := if h.named = [] then .single .get else .ofList h.named

/-- Any other handler has the verbs that its markers name, unless a token names none. -/
theorem verbs_of_routable (hok : h.isExcluded = false ∨ h.declarations = []) :
    h.verbs = match h.tokens.find? Verb.isUnknown with
      | some token => .error (.unsupportedVerb h.owner h.name token)
      | none => .ok h.union := by
  have hgather : h.verbs = (h.addMarkers h.markers .empty).map fun s => if s.isEmpty then .single .get else s := by
    unfold verbs
    rcases hok with hex | hds
    · rw [hex]
      cases h.declarations <;> cases h.addMarkers h.markers .empty <;> rfl
    · rw [hds]
      cases h.isExcluded <;> cases h.addMarkers h.markers .empty <;> rfl
  rw [hgather, addMarkers_eq, gathered, ← tokens, ← named]
  cases h.tokens.find? Verb.isUnknown with
  | some token => rfl
  | none =>
    show Except.ok (if (VerbSet.ofList h.named).isEmpty = true then _ else VerbSet.ofList h.named) = _
    rw [VerbSet.isEmpty_ofList, union]
    cases h.named <;> rfl

end Handler

end Routebook
