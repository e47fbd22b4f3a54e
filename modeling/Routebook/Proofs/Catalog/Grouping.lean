import Routebook.Catalog.Basic

/-!
# What is added to a catalog

Adding changes the scope of one owner and mentions this owner.

* `Catalog.owners_update`, `Catalog.scope_update` : the owners and the scopes after a change;
* `Catalog.items_update` : the items of an owner after one was added, from which `handlers_addHandler`,
  `initializers_addInitializer` and so on;
* `Catalog.items_foldl`, `Catalog.owners_foldl` : the items of an owner and the owners after several;
* `Catalog.ofAdditions` : the catalog that any additions make; in it every item is filed under its own owner
  (`Catalog.Filed.ofAdditions`).
-/

namespace Routebook.Catalog

variable {c : Catalog} {owner : String} {change : Scope → Scope}

/-! ## Changing a scope -/

/-- A changed scope has its owner still. -/
def KeepsOwner (change : Scope → Scope) : Prop := ∀ s, (change s).owner = s.owner

theorem map_owner_updateScopes (hkeep : KeepsOwner change) (scopes : List Scope) :
    (updateScopes owner change scopes).map Scope.owner =
      if owner ∈ scopes.map Scope.owner then scopes.map Scope.owner
      else scopes.map Scope.owner ++ [owner] := by
  induction scopes with
  | nil => simp [updateScopes, hkeep { owner }]
  | cons s rest ih =>
    rw [updateScopes]
    by_cases hs : s.owner = owner
    · simp [hs, hkeep s]
    · have hs' : ¬ owner = s.owner := fun h => hs h.symm
      by_cases hrest : owner ∈ rest.map Scope.owner
      · simp_all
      · simp_all

theorem find?_updateScopes (hkeep : KeepsOwner change) (scopes : List Scope) (o : String) :
    (updateScopes owner change scopes).find? (fun s => s.owner == o) =
      if o = owner then some (change ((scopes.find? fun s => s.owner == o).getD { owner }))
      else scopes.find? fun s => s.owner == o := by
  induction scopes with
  | nil =>
    by_cases ho : o = owner
    · simp [updateScopes, hkeep { owner }, ho]
    · have ho' : ¬ owner = o := fun h => ho h.symm
      simp [updateScopes, hkeep { owner }, ho, ho']
  | cons s rest ih =>
    rw [updateScopes]
    by_cases hs : s.owner = owner
    · by_cases ho : o = owner
      · simp [hs, hkeep s, ho]
      · have ho' : ¬ owner = o := fun h => ho h.symm
        simp [hs, hkeep s, ho, ho']
    · by_cases hso : s.owner = o
      · have ho : ¬ o = owner := hso ▸ hs
        simp [hso, ho]
      · simp [hs, hso, ih]

/-- An owner that is mentioned for the first time comes last. -/
theorem owners_update (hkeep : KeepsOwner change) :
    (c.update owner change).owners = if owner ∈ c.owners then c.owners else c.owners ++ [owner] :=
  map_owner_updateScopes hkeep c.scopes

/-- Only the scope of the owner changes. -/
theorem scope_update (hkeep : KeepsOwner change) (o : String) :
    (c.update owner change).scope o = if o = owner then change (c.scope o) else c.scope o := by
  show ((updateScopes owner change c.scopes).find? fun s => s.owner == o).getD { owner := o } = _
  rw [find?_updateScopes hkeep]
  by_cases ho : o = owner
  · rw [if_pos ho, if_pos ho, ho]
    rfl
  · rw [if_neg ho, if_neg ho]
    rfl

/-! ## Additions -/

theorem keepsOwner_id : KeepsOwner id := fun _ => rfl

theorem keepsOwner_handler (h : Handler) :
    KeepsOwner fun s => { s with handlers := s.handlers ++ [h] } := fun _ => rfl

theorem keepsOwner_initializer (i : Initializer) :
    KeepsOwner fun s => { s with initializers := s.initializers ++ [i] } := fun _ => rfl

theorem owners_addOwner : (c.addOwner owner).owners =
    if owner ∈ c.owners then c.owners else c.owners ++ [owner] := owners_update keepsOwner_id

theorem owners_addHandler (h : Handler) : (c.addHandler h).owners =
    if h.owner ∈ c.owners then c.owners else c.owners ++ [h.owner] :=
  owners_update (keepsOwner_handler h)

theorem owners_addInitializer (i : Initializer) : (c.addInitializer i).owners =
    if i.owner ∈ c.owners then c.owners else c.owners ++ [i.owner] :=
  owners_update (keepsOwner_initializer i)

@[simp] theorem scope_addOwner (o : String) : (c.addOwner owner).scope o = c.scope o := by
  rw [addOwner, scope_update keepsOwner_id, id_eq, ite_self]

@[simp] theorem handlers_addOwner (o : String) : (c.addOwner owner).handlers o = c.handlers o := by
  rw [handlers, scope_addOwner, handlers]

@[simp] theorem initializers_addOwner (o : String) :
    (c.addOwner owner).initializers o = c.initializers o := by
  rw [initializers, scope_addOwner, initializers]

/-- The items of an owner when one more is filed under its own. -/
theorem items_update {α : Type} (items : Scope → List α) {x : α} (hkeep : KeepsOwner change)
    (hchange : ∀ s, items (change s) = items s ++ [x]) (o : String) :
    items ((c.update owner change).scope o) = items (c.scope o) ++ if owner = o then [x] else [] := by
  rw [scope_update hkeep]
  by_cases ho : o = owner
  · rw [if_pos ho, if_pos ho.symm, hchange]
  · rw [if_neg ho, if_neg (Ne.symm ho), List.append_nil]

theorem items_update_of_eq {α : Type} (items : Scope → List α) (hkeep : KeepsOwner change)
    (hchange : ∀ s, items (change s) = items s) (o : String) :
    items ((c.update owner change).scope o) = items (c.scope o) := by
  rw [scope_update hkeep]
  split
  · exact hchange _
  · rfl

theorem handlers_addHandler (h : Handler) (o : String) :
    (c.addHandler h).handlers o = c.handlers o ++ if h.owner = o then [h] else [] :=
  items_update Scope.handlers (keepsOwner_handler h) (fun _ => rfl) o

theorem initializers_addInitializer (i : Initializer) (o : String) :
    (c.addInitializer i).initializers o = c.initializers o ++ if i.owner = o then [i] else [] :=
  items_update Scope.initializers (keepsOwner_initializer i) (fun _ => rfl) o

@[simp] theorem initializers_addHandler (h : Handler) (o : String) :
    (c.addHandler h).initializers o = c.initializers o :=
  items_update_of_eq Scope.initializers (keepsOwner_handler h) (fun _ => rfl) o

@[simp] theorem handlers_addInitializer (i : Initializer) (o : String) :
    (c.addInitializer i).handlers o = c.handlers o :=
  items_update_of_eq Scope.handlers (keepsOwner_initializer i) (fun _ => rfl) o

/-! ## Several additions -/

section Several

variable {α : Type} {add : Catalog → α → Catalog} {ownerOf : α → String}

theorem items_foldl {items : Catalog → String → List α} (hadd : ∀ c x o,
    items (add c x) o = items c o ++ if ownerOf x = o then [x] else []) (xs : List α) (o : String) :
    items (xs.foldl add c) o = items c o ++ xs.filter (ownerOf · == o) := by
  induction xs generalizing c with
  | nil => exact (List.append_nil _).symm
  | cons x rest ih =>
    rw [List.foldl_cons, ih, hadd, List.append_assoc]
    by_cases ho : ownerOf x = o <;> simp [ho]

theorem foldl_unchanged {β : Type} {P : Catalog → β} (hadd : ∀ c x, P (add c x) = P c)
    (xs : List α) : P (xs.foldl add c) = P c := by
  induction xs generalizing c with
  | nil => rfl
  | cons x rest ih => rw [List.foldl_cons, ih, hadd]

theorem owners_foldl (hadd : ∀ c x, (add c x).owners =
    if ownerOf x ∈ c.owners then c.owners else c.owners ++ [ownerOf x]) {xs : List α}
    (h : ∀ x ∈ xs, ownerOf x ∈ c.owners) : (xs.foldl add c).owners = c.owners := by
  induction xs generalizing c with
  | nil => rfl
  | cons x rest ih =>
    obtain ⟨hx, hrest⟩ := List.forall_mem_cons.1 h
    have howners : (add c x).owners = c.owners := by rw [hadd, if_pos hx]
    rw [List.foldl_cons, ih (howners ▸ hrest), howners]

end Several

theorem handlers_foldl_addHandler (hs : List Handler) (o : String) :
    (hs.foldl addHandler c).handlers o = c.handlers o ++ hs.filter (·.owner == o) :=
  items_foldl (fun _ => handlers_addHandler) hs o

theorem initializers_foldl_addInitializer (is : List Initializer) (o : String) :
    (is.foldl addInitializer c).initializers o = c.initializers o ++ is.filter (·.owner == o) :=
  items_foldl (fun _ => initializers_addInitializer) is o

@[simp] theorem initializers_foldl_addHandler (hs : List Handler) (o : String) :
    (hs.foldl addHandler c).initializers o = c.initializers o :=
  foldl_unchanged (P := (·.initializers o)) (fun _ h => initializers_addHandler h o) hs

@[simp] theorem handlers_foldl_addInitializer (is : List Initializer) (o : String) :
    (is.foldl addInitializer c).handlers o = c.handlers o :=
  foldl_unchanged (P := (·.handlers o)) (fun _ i => handlers_addInitializer i o) is

/-! ## Any additions -/

/-- An owner, a handler or an initializer is added. -/
inductive Addition where
  | owner (name : String)
  | handler (h : Handler)
  | initializer (i : Initializer)

def add (c : Catalog) : Addition → Catalog
  | .owner name => c.addOwner name
  | .handler h => c.addHandler h
  | .initializer i => c.addInitializer i

def ofAdditions (additions : List Addition) : Catalog := additions.foldl add .empty

theorem scope_owner (c : Catalog) (o : String) : (c.scope o).owner = o := by
  unfold scope scope?
  cases hfind : c.scopes.find? fun s => s.owner == o with
  | none => rfl
  | some s => simpa using List.find?_some hfind

/-- Every item is filed under its own owner. -/
structure Filed (c : Catalog) : Prop where
  handlers : ∀ o, ∀ h ∈ c.handlers o, h.owner = o
  initializers : ∀ o, ∀ i ∈ c.initializers o, i.owner = o

namespace Filed

theorem empty : Filed .empty := ⟨fun _ _ h => (nomatch h), fun _ _ h => (nomatch h)⟩

theorem add (hc : c.Filed) (a : Addition) : (c.add a).Filed := by
  have hnew : ∀ {α : Type} {f : α → String} {x y : α} {o : String},
      y ∈ (if f x = o then [x] else []) → f y = o := by
    intro α f x y o hy
    split at hy
    · rename_i hx
      rw [List.mem_singleton.1 hy, hx]
    · cases hy
  cases a with
  | owner name =>
    refine ⟨fun o h hh => hc.handlers o h ?_, fun o i hi => hc.initializers o i ?_⟩
    · exact handlers_addOwner (c := c) o ▸ hh
    · exact initializers_addOwner (c := c) o ▸ hi
  | handler h =>
    refine ⟨fun o g hg => ?_, fun o i hi => hc.initializers o i (initializers_addHandler (c := c) h o ▸ hi)⟩
    rw [Catalog.add, handlers_addHandler, List.mem_append] at hg
    exact hg.elim (hc.handlers o g) hnew
  | initializer i =>
    refine ⟨fun o h hh => hc.handlers o h (handlers_addInitializer (c := c) i o ▸ hh), fun o j hj => ?_⟩
    rw [Catalog.add, initializers_addInitializer, List.mem_append] at hj
    exact hj.elim (hc.initializers o j) hnew

theorem foldl (hc : c.Filed) (additions : List Addition) : (additions.foldl Catalog.add c).Filed := by
  induction additions generalizing c with
  | nil => exact hc
  | cons a rest ih => exact ih (hc.add a)

theorem ofAdditions (additions : List Addition) : (ofAdditions additions).Filed := empty.foldl additions

end Filed

end Routebook.Catalog
