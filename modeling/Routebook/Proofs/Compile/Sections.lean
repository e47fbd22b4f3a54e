import Routebook.Proofs.Compile.InTurn

/-!
# What each owner contributes

The entries of a catalog come in sections, one for each owner. Where all owners compile together, each of them
also compiles alone: what is in front of its section can only stand in its way.

* `RouteTable.WellFormed.registers_section` : a part of a list that registers;
* `Catalog.contribution` : the section of an owner; `Catalog.contribution_of_not_mem` : others have none;
* `Catalog.compileExtent_yields_iff`, `Catalog.compile_yields_iff`, `Catalog.compileOnly_yields_iff` : a compilation
  gives the entries of its scopes;
* `Catalog.compileOnly_yields_of_compile`, `Catalog.compilesInTurn_of_registers` : what an owner gives alone, and in
  turn.
-/

namespace Routebook

open RouteTable (Registers WellFormed registers_append)

/-! ## Registering a part of a list -/

/-- An entry that may come behind others may come behind some of them. -/
theorem Entry.Admissible.mono {e : Entry} {es fs : List Entry} (h : e.Admissible fs) (hsub : es ⊆ fs) :
    e.Admissible es :=
  ⟨fun b hb => h.name b (hsub hb), h.url, h.expressions⟩

theorem RouteTable.Registers.since_eq {es : List Entry} {t u : RouteTable} (h : Registers es t u) :
    Registry.since u (Registry.size t) = es := by
  show u.entries.drop _ = es
  rw [h.entries_eq, registry_size, ← length_entries, List.drop_left]

/-- Entries that register behind others register without them. -/
theorem RouteTable.WellFormed.registers_section {t u : RouteTable} (ht : WellFormed t) {before es after : List Entry}
    (h : Registers (before ++ es ++ after) t u) : ∃ w, Registers es t w := by
  have hall := ht.exists_registers_iff.1 ⟨u, h⟩
  refine ht.exists_registers_iff.2 ?_
  rintro front e back rfl
  have hadmissible := hall (before ++ front) e (back ++ after) (by simp)
  refine hadmissible.mono ?_
  rw [List.append_subset]
  exact ⟨List.subset_append_left _ _, fun e he => by simp [he]⟩

namespace Catalog

variable {catalog : Catalog} {c : Config} {given : Initializer → List Entry} {t u : RouteTable}

/-- Compiling a catalog, or one of its owners, gives the entries of the scopes just when these are ready and
their entries can be registered. -/
theorem compileExtent_yields_iff {x : Extent} {es : List Entry}
    (hg : ∀ s ∈ catalog.scopesOf x, ∀ i ∈ s.initializers, i.RegistersAll (given i)) :
    (catalog.compileExtent c t x).Yields es u ↔ (∀ s ∈ catalog.scopesOf x, s.Ready c) ∧
      es = (catalog.scopesOf x).flatMap (Scope.listing c given) ∧ Registers es t u := by
  rw [compileExtent_eq, Step.atomically_yields_iff, Scope.compileEach_yields_iff hg]
  constructor
  · rintro ⟨⟨hready, hreg⟩, rfl⟩
    rw [hreg.since_eq]
    exact ⟨hready, rfl, hreg⟩
  · rintro ⟨hready, rfl, hreg⟩
    exact ⟨⟨hready, hreg⟩, hreg.since_eq.symm⟩

/-! ## Sections -/

/-- What an owner contributes: the entries of its initializers, then those of its handlers. -/
def contribution (catalog : Catalog) (c : Config) (given : Initializer → List Entry) (o : String) : List Entry :=
  (catalog.scope o).listing c given

theorem scope_of_not_mem {o : String} (h : o ∉ catalog.owners) : catalog.scope o = { owner := o } := by
  rw [scope, scope?, List.find?_eq_none.2, Option.getD_none]
  intro s hs
  rw [beq_iff_eq]
  exact fun heq => h (List.mem_map.2 ⟨s, hs, heq⟩)

theorem contribution_of_not_mem {o : String} (h : o ∉ catalog.owners) : catalog.contribution c given o = [] := by
  rw [contribution, scope_of_not_mem h]
  rfl

theorem RegistersAll.initializers (hg : catalog.RegistersAll given) (o : String) :
    ∀ i ∈ (catalog.scope o).initializers, i.RegistersAll (given i) := by
  by_cases ho : o ∈ catalog.owners
  · exact hg o ho
  · rw [scope_of_not_mem ho]
    exact fun i hi => nomatch hi

variable (hg : catalog.RegistersAll given)
include hg

theorem compile_yields_iff {es : List Entry} : (catalog.compile c t).Yields es u ↔
    (∀ o ∈ catalog.owners, (catalog.scope o).Ready c) ∧
      es = catalog.owners.flatMap (catalog.contribution c given) ∧ Registers es t u := by
  have hscopes : ∀ s ∈ catalog.scopesOf .all, ∀ i ∈ s.initializers, i.RegistersAll (given i) :=
    List.forall_mem_map.2 hg
  rw [show catalog.compile c t = catalog.compileExtent c t .all from rfl, compileExtent_yields_iff hscopes,
    scopesOf, List.forall_mem_map, List.flatMap_map]
  rfl

theorem compileOnly_yields_iff {o : String} {es : List Entry} : (catalog.compileOnly c o t).Yields es u ↔
    (catalog.scope o).Ready c ∧ es = catalog.contribution c given o ∧ Registers es t u := by
  have hscopes : ∀ s ∈ catalog.scopesOf (.only o), ∀ i ∈ s.initializers, i.RegistersAll (given i) :=
    List.forall_mem_singleton.2 (hg.initializers o)
  rw [show catalog.compileOnly c o t = catalog.compileExtent c t (.only o) from rfl,
    compileExtent_yields_iff hscopes, scopesOf, List.forall_mem_singleton, List.flatMap_singleton]
  rfl

/-- Where all owners compile, each of them compiles alone, and gives what it contributes. -/
theorem compileOnly_yields_of_compile (ht : WellFormed t) {es : List Entry} (h : (catalog.compile c t).Yields es u)
    (o : String) : ∃ w, (catalog.compileOnly c o t).Yields (catalog.contribution c given o) w := by
  obtain ⟨hready, rfl, hreg⟩ := (compile_yields_iff hg).1 h
  by_cases ho : o ∈ catalog.owners
  · obtain ⟨before, after, hsplit⟩ := List.append_of_mem ho
    rw [hsplit, List.flatMap_append, List.flatMap_cons, ← List.append_assoc] at hreg
    obtain ⟨w, hw⟩ := ht.registers_section hreg
    exact ⟨w, (compileOnly_yields_iff hg).2 ⟨hready o ho, rfl, hw⟩⟩
  · refine ⟨t, (compileOnly_yields_iff hg).2 ⟨?_, rfl, ?_⟩⟩
    · rw [scope_of_not_mem ho]
      exact ⟨fun _ h => (nomatch h), fun _ h => (nomatch h)⟩
    · rw [contribution_of_not_mem ho]
      rfl

theorem compilesInTurn_of_registers {owners : List String} (hready : ∀ o ∈ owners, (catalog.scope o).Ready c)
    (hreg : Registers (owners.flatMap (catalog.contribution c given)) t u) :
    catalog.CompilesInTurn c owners t (owners.map (catalog.contribution c given)) u := by
  induction owners generalizing t with
  | nil => exact ⟨rfl, hreg⟩
  | cons o rest ih =>
    rw [List.forall_mem_cons] at hready
    rw [List.flatMap_cons, registers_append] at hreg
    obtain ⟨w, hfirst, hrest⟩ := hreg
    exact ⟨_, w, _, (compileOnly_yields_iff hg).2 ⟨hready.1, rfl, hfirst⟩, rfl, ih hready.2 hrest⟩

end Catalog

end Routebook
