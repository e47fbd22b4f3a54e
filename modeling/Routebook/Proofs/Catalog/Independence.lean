import Mathlib.Data.List.Nodup
import Routebook.Compile.Basic
import Routebook.Proofs.Catalog.Grouping
import Routebook.Table.Basic

/-!
# Owners side by side

A catalog is told by what was added: the owners in the order in which they are first mentioned, and for each
of them its own items in the order in which they were added. So what was added for the others, and when,
does not show when one owner is compiled.

* `Catalog.ListedOnce` : every name once, in the order of first mention; kept by each mention
  (`ListedOnce.concat`);
* `Catalog.addedHandlers`, `Catalog.addedInitializers` : what was added for an owner;
* `Catalog.compileOnly_congr` : compiling an owner looks at its items only;
* `Catalog.ofAdditions_grouped` : all this for any additions.
-/

namespace Routebook.Catalog

/-! ## Additions of an owner -/

namespace Addition

def mentions : Addition → String
  | .owner name => name
  | .handler h => h.owner
  | .initializer i => i.owner

def handler? : Addition → Option Handler
  | .handler h => some h
  | _ => none

def initializer? : Addition → Option Initializer
  | .initializer i => some i
  | _ => none

end Addition

/-- The items of one kind that are added for an owner, in order. -/
def added {α : Type} (item? : Addition → Option α) (ownerOf : α → String) (additions : List Addition)
    (o : String) : List α :=
  (additions.filterMap item?).filter (ownerOf · == o)

def addedHandlers : List Addition → String → List Handler := added Addition.handler? Handler.owner

def addedInitializers : List Addition → String → List Initializer :=
  added Addition.initializer? Initializer.owner

variable {o : String}

theorem owners_add (c : Catalog) (a : Addition) : (c.add a).owners =
    if a.mentions ∈ c.owners then c.owners else c.owners ++ [a.mentions] := by
  cases a with
  | owner name => exact owners_addOwner
  | handler h => exact owners_addHandler h
  | initializer i => exact owners_addInitializer i

theorem handlers_add (c : Catalog) (a : Addition) (o : String) :
    (c.add a).handlers o = c.handlers o ++ addedHandlers [a] o := by
  cases a with
  | owner name => simp [add, addedHandlers, added, Addition.handler?]
  | handler h =>
    rw [add, handlers_addHandler]
    by_cases ho : h.owner = o <;> simp [addedHandlers, added, Addition.handler?, ho]
  | initializer i => simp [add, addedHandlers, added, Addition.handler?]

theorem initializers_add (c : Catalog) (a : Addition) (o : String) :
    (c.add a).initializers o = c.initializers o ++ addedInitializers [a] o := by
  cases a with
  | owner name => simp [add, addedInitializers, added, Addition.initializer?]
  | handler h => simp [add, addedInitializers, added, Addition.initializer?]
  | initializer i =>
    rw [add, initializers_addInitializer]
    by_cases ho : i.owner = o <;> simp [addedInitializers, added, Addition.initializer?, ho]

theorem items_foldl_add {α : Type} {items : Catalog → String → List α} {item? : Addition → Option α}
    {ownerOf : α → String} (hadd : ∀ c a, items (add c a) o = items c o ++ added item? ownerOf [a] o)
    (c : Catalog) (additions : List Addition) :
    items (additions.foldl add c) o = items c o ++ added item? ownerOf additions o := by
  induction additions generalizing c with
  | nil => exact (List.append_nil _).symm
  | cons a rest ih =>
    have hcons : added item? ownerOf (a :: rest) o =
        added item? ownerOf [a] o ++ added item? ownerOf rest o := by
      rw [added, added, added, ← List.filter_append, ← List.filterMap_append, List.singleton_append]
    rw [List.foldl_cons, ih, hadd, List.append_assoc, hcons]

theorem handlers_ofAdditions (additions : List Addition) (o : String) :
    (ofAdditions additions).handlers o = addedHandlers additions o :=
  items_foldl_add (fun c a => handlers_add c a o) .empty additions

theorem initializers_ofAdditions (additions : List Addition) (o : String) :
    (ofAdditions additions).initializers o = addedInitializers additions o :=
  items_foldl_add (fun c a => initializers_add c a o) .empty additions

theorem added_eq_nil {α : Type} {item? : Addition → Option α} {ownerOf : α → String}
    (hmentions : ∀ a x, item? a = some x → a.mentions = ownerOf x) {additions : List Addition}
    (ho : ∀ a ∈ additions, a.mentions ≠ o) : added item? ownerOf additions o = [] := by
  rw [added, List.filter_eq_nil_iff]
  intro x hx
  obtain ⟨a, ha, hitem⟩ := List.mem_filterMap.1 hx
  rw [beq_iff_eq, ← hmentions a x hitem]
  exact ho a ha

/-! ## Owners in order of first mention -/

/-- The list has each of the names once, in the order in which they come first. -/
structure ListedOnce (names listed : List String) : Prop where
  mem_iff : ∀ name, name ∈ listed ↔ name ∈ names
  nodup : listed.Nodup
  in_order : listed.Pairwise fun a b => names.idxOf a < names.idxOf b

namespace ListedOnce

variable {names listed : List String}

theorem nil : ListedOnce [] [] := ⟨fun _ => Iff.rfl, List.nodup_nil, List.Pairwise.nil⟩

theorem concat (h : ListedOnce names listed) (name : String) :
    ListedOnce (names ++ [name]) (if name ∈ listed then listed else listed ++ [name]) := by
  have hstays : ∀ a ∈ listed, (names ++ [name]).idxOf a = names.idxOf a :=
    fun a ha => List.idxOf_append_of_mem ((h.mem_iff a).1 ha)
  have hfront : listed.Pairwise fun a b => (names ++ [name]).idxOf a < (names ++ [name]).idxOf b := by
    refine h.in_order.imp_of_mem fun ha hb hlt => ?_
    rw [hstays _ ha, hstays _ hb]
    exact hlt
  by_cases hname : name ∈ listed
  · rw [if_pos hname]
    refine ⟨fun a => ?_, h.nodup, hfront⟩
    rw [List.mem_append, List.mem_singleton, h.mem_iff]
    exact ⟨.inl, fun ha => ha.elim id fun heq => heq ▸ (h.mem_iff name).1 hname⟩
  · rw [if_neg hname]
    refine ⟨fun a => ?_, ?_, ?_⟩
    · rw [List.mem_append, List.mem_append, h.mem_iff]
    · refine List.nodup_append.2 ⟨h.nodup, List.nodup_singleton name, ?_⟩
      rintro a ha b hb rfl
      rw [List.mem_singleton.1 hb] at ha
      exact hname ha
    · -- A new name has its first place behind all others.
      refine List.pairwise_append.2 ⟨hfront, List.pairwise_singleton _ _, fun a ha b hb => ?_⟩
      rw [List.mem_singleton.1 hb, hstays a ha,
        List.idxOf_append_of_notMem fun hmem => hname ((h.mem_iff name).2 hmem), List.idxOf_cons_self]
      exact List.idxOf_lt_length_of_mem ((h.mem_iff a).1 ha)

end ListedOnce

theorem listedOnce_foldl_add {c : Catalog} {names : List String} (h : ListedOnce names c.owners)
    (additions : List Addition) :
    ListedOnce (names ++ additions.map Addition.mentions) (additions.foldl add c).owners := by
  induction additions generalizing c names with
  | nil =>
    rw [List.map_nil, List.append_nil]
    exact h
  | cons a rest ih =>
    have hstep : ListedOnce (names ++ [a.mentions]) (c.add a).owners := owners_add c a ▸ h.concat a.mentions
    have hrest := ih hstep
    rw [List.append_assoc, List.singleton_append] at hrest
    exact hrest

/-! ## One owner by itself -/

theorem scope_eq (c : Catalog) (o : String) : c.scope o = ⟨o, c.handlers o, c.initializers o⟩ := by
  have howner := scope_owner c o
  unfold handlers initializers
  cases hs : c.scope o with
  | mk owner handlers initializers =>
    rw [hs] at howner
    rw [← howner]

/-- Compiling an owner looks at the items of this owner and nothing else in the catalog. -/
theorem compileOnly_congr {σ : Type} [Registry σ] {a b : Catalog} (hh : a.handlers o = b.handlers o)
    (hi : a.initializers o = b.initializers o) (c : Config) (t : σ) :
    a.compileOnly c o t = b.compileOnly c o t := by
  rw [compileOnly, compileOnly, scope_eq, scope_eq, hh, hi]

/-- A catalog lists each owner that any addition mentions once, in the order of first mention. The handlers and
the initializers of an owner are those that were added for it, in order; an owner that was not mentioned has
none. Additions that agree on what they add for an owner, whatever they add for others and in between, give
catalogs from which this owner is compiled alike on every registry: with the same result, the same registry
afterwards and the same reports. -/
theorem ofAdditions_grouped (additions : List Addition) :
    ListedOnce (additions.map Addition.mentions) (ofAdditions additions).owners ∧
    (∀ o, (ofAdditions additions).handlers o = addedHandlers additions o) ∧
    (∀ o, (ofAdditions additions).initializers o = addedInitializers additions o) ∧
    (∀ o, (∀ a ∈ additions, a.mentions ≠ o) →
      (ofAdditions additions).handlers o = [] ∧ (ofAdditions additions).initializers o = []) ∧
    ∀ others o, addedHandlers additions o = addedHandlers others o →
      addedInitializers additions o = addedInitializers others o →
      ∀ {σ : Type} [Registry σ] (c : Config) (t : σ),
        (ofAdditions additions).compileOnly c o t = (ofAdditions others).compileOnly c o t := by
  have howners := listedOnce_foldl_add (c := .empty) ListedOnce.nil additions
  refine ⟨howners, handlers_ofAdditions additions, initializers_ofAdditions additions, fun o ho => ?_, ?_⟩
  · rw [handlers_ofAdditions, initializers_ofAdditions]
    refine ⟨added_eq_nil ?_ ho, added_eq_nil ?_ ho⟩
    · rintro (name | h | i) x hx <;> cases hx
      rfl
    · rintro (name | h | i) x hx <;> cases hx
      rfl
  · intro others o hh hi σ _ c t
    rw [← handlers_ofAdditions, ← handlers_ofAdditions] at hh
    rw [← initializers_ofAdditions, ← initializers_ofAdditions] at hi
    exact compileOnly_congr hh hi c t

/-- An owner whose items are added first, and last with those of another owner in between. -/
theorem ofAdditions_grouped_interleaved :
    let h : Handler := ⟨"T", "h", [.route { url := "x" }]⟩
    let k : Handler := ⟨"T", "k", []⟩
    let g : Handler := ⟨"U", "g", [.route { url := "x" }]⟩
    let i : Initializer := .ofEntries "T" "i" [{ name := "home", url := "" }]
    let apart : List Addition := [.handler h, .handler k, .initializer i]
    let mixed : List Addition := [.owner "U", .initializer i, .handler h, .handler g, .owner "T", .handler k]
    (ofAdditions mixed).owners = ["U", "T"] ∧ (ofAdditions apart).owners = ["T"] ∧
      (ofAdditions apart).handlers "U" = [] ∧
      (ofAdditions apart).compileOnly .standard "T" RouteTable.empty =
        (ofAdditions mixed).compileOnly .standard "T" RouteTable.empty := by
  intro h k g i apart mixed
  obtain ⟨-, -, -, hunknown, hcompile⟩ := ofAdditions_grouped apart
  refine ⟨rfl, rfl, (hunknown "U" ?_).1, hcompile mixed "T" rfl rfl .standard RouteTable.empty⟩
  simp [apart, Addition.mentions, h, k, i, Initializer.ofEntries]

end Routebook.Catalog
