import Routebook.Compile.Verbs
import Routebook.Config.Basic

/-!
# The entry of a handler

* `Config.nameOf` : the declared name, or one made of the verbs, the owner and the handler;
* `Config.entry` : the entry, its defaults and constraints merged from all their sources.

No key may be contributed twice.
-/

namespace Routebook.Config

def nameOf (c : Config) (h : Handler) (d : Declaration) (verbs : VerbSet) : String :=
  match d.name with
  | some name => name
  | none => verbs.label ++ "." ++ c.shownOwner h.owner ++ "." ++ h.name

/-- Adds contributions to a map up to the first whose key is there already, which is given back. -/
def merge {α : Type} (m : CaselessMap α) : List (String × α) → Except String (CaselessMap α)
  | [] => .ok m
  | (key, value) :: rest =>
    match m.insertIfNew? key value with
    | some m => merge m rest
    | none => .error key

theorem entries_of_merge {α : Type} {m n : CaselessMap α} {l : List (String × α)}
    (h : merge m l = .ok n) : n.entries = m.entries ++ l := by
  induction l generalizing m with
  | nil =>
    cases h
    exact (List.append_nil _).symm
  | cons e rest ih =>
    unfold merge at h
    cases hinsert : m.insertIfNew? e.1 e.2 with
    | none => simp only [hinsert, reduceCtorEq] at h
    | some m' =>
      simp only [hinsert] at h
      rw [ih h, CaselessMap.entries_of_insertIfNew? hinsert, List.append_assoc, List.singleton_append]

/-- The defaults: the owner and the handler, then those of the declaration, then those of the
markers. -/
def defaults (c : Config) (h : Handler) (d : Declaration) : Except CompileError RouteValues :=
  let seed := (CaselessMap.empty.insert c.ownerKey (.ofText (c.shownOwner h.owner))).insert c.handlerKey
    (.ofText h.name)
  match merge seed (d.defaults.entries ++ h.markers.filterMap Marker.default?) with
  | .ok m => .ok m
  | .error key => .error (.duplicateDefault h.owner h.name key)

/-- The constraints: the verbs, then those of the declaration, then those of the markers. -/
def constraints (c : Config) (h : Handler) (d : Declaration) (verbs : VerbSet) :
    Except CompileError Constraints :=
  let seed := CaselessMap.empty.insert c.verbKey (.ofVerbs verbs)
  match merge seed (d.constraints.entries ++ h.markers.filterMap Marker.constraint?) with
  | .ok m => .ok m
  | .error key => .error (.duplicateConstraint h.owner h.name key)

/-- The entry of a handler with one declaration. -/
def entry (c : Config) (h : Handler) (d : Declaration) (verbs : VerbSet) :
    Except CompileError Entry :=
  match c.defaults h d with
  | .error e => .error e
  | .ok defaults =>
    match c.constraints h d verbs with
    | .error e => .error e
    | .ok constraints =>
      .ok { name := c.nameOf h d verbs, url := d.url, defaults, constraints }

end Routebook.Config
