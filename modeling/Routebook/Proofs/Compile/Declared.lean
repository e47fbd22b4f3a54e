import Mathlib.Data.List.Forall2
import Routebook.Proofs.Compile.Offences
import Routebook.Proofs.Compile.Sections

/-!
# Handlers that are built from their declaration

A handler that is built from its declaration and from traits has this one declaration, and nothing excludes
it. So of the things that can be wrong with a handler two never are, and no handler is passed over.

* `DeclaredHandler.foldl_add` : any chain of additions;
* `Handler.Built` : a handler of this kind; `Handler.Built.exists_declaration` : its declaration;
* `CompileError.kindsOfBuilt` : the errors that are left (`Handler.Offends.kind_mem`,
  `Scope.FirstOffence.kind_mem`);
* `Handler.forall₂_declared` : handlers that are ready have one entry each;
* `Catalog.compile_built` : all this for catalogs of such handlers.
-/

namespace Routebook

open RouteTable (Reachable Registers WellFormed)

/-! ## Building -/

namespace DeclaredHandler

theorem foldl_add (h : DeclaredHandler) (chain : List Trait) :
    chain.foldl add h = { h with traits := h.traits ++ chain } := by
  induction chain generalizing h with
  | nil => rw [List.foldl_nil, List.append_nil]
  | cons t rest ih => rw [List.foldl_cons, ih, add, List.append_assoc, List.singleton_append]

theorem declarations_build (h : DeclaredHandler) : h.build.declarations = [h.declaration] := by
  have hnone : (h.traits.map Trait.marker).filterMap Marker.declaration? = [] := by
    rw [List.filterMap_map, List.filterMap_eq_nil_iff]
    intro t _
    cases t <;> rfl
  show (Marker.route h.declaration :: h.traits.map Trait.marker).filterMap Marker.declaration? = _
  rw [List.filterMap_cons, hnone]
  rfl

theorem isExcluded_build (h : DeclaredHandler) : h.build.isExcluded = false := by
  have hnone : (h.traits.map Trait.marker).any Marker.isExclusion = false := by
    rw [List.any_map, List.any_eq_false]
    intro t _
    cases t <;> exact Bool.false_ne_true
  rw [Handler.isExcluded, build, List.any_cons, hnone]
  rfl

end DeclaredHandler

namespace Handler

/-- The handler was built from a declaration, with any traits added in any order. -/
def Built (h : Handler) : Prop :=
  ∃ owner name d, ∃ chain : List Trait,
    h = (chain.foldl DeclaredHandler.add { owner, name, declaration := d }).build

theorem Built.exists_declaration {h : Handler} (hb : h.Built) :
    ∃ d, h.declarations = [d] ∧ h.isExcluded = false := by
  obtain ⟨owner, name, d, chain, rfl⟩ := hb
  exact ⟨_, DeclaredHandler.declarations_build _, DeclaredHandler.isExcluded_build _⟩

end Handler

/-! ## What can be wrong -/

/-- The kinds of errors that are left when every handler has one declaration and none is excluded. -/
def CompileError.kindsOfBuilt : List String :=
  ["UnsupportedVerbToken", "DuplicateParameterDefault", "DuplicateParameterConstraint",
    "InvalidRouteInitializer", "InitializerFailed", "Registration"]

variable {c : Config} {t : RouteTable} {err : CompileError}

/-- A built handler has neither several declarations nor one that it must not have. -/
theorem Handler.Offends.kind_mem {h : Handler} {owner : String} (hoffends : h.Offends c owner t err)
    (hb : h.Built) : err.kind ∈ CompileError.kindsOfBuilt := by
  obtain ⟨d, hd, hkept⟩ := hb.exists_declaration
  cases hoffends with
  | entry => simp [CompileError.kind, CompileError.kindsOfBuilt]
  | flaw hflaw =>
    cases hflaw with
    | declarations hmany => simp [hd] at hmany
    | exclusion hd' hex =>
      rw [hkept] at hex
      cases hex
    | token | default | constraint => simp [CompileError.kind, CompileError.kindsOfBuilt]

theorem Scope.FirstOffence.kind_mem {s : Scope} (hfirst : s.FirstOffence c t err)
    (hbuilt : ∀ h ∈ s.handlers, h.Built) : err.kind ∈ CompileError.kindsOfBuilt := by
  cases hfirst with
  | signature | callback => simp [CompileError.kind, CompileError.kindsOfBuilt]
  | handler _ _ hsplit _ _ hh => exact hh.kind_mem (hbuilt _ (hsplit ▸ List.mem_append_cons_self))

/-! ## The entries -/

/-- Handlers that are ready and have a declaration have one entry each. -/
theorem Handler.forall₂_declared {hs : List Handler} (hready : ∀ h ∈ hs, h.Ready c)
    (hbuilt : ∀ h ∈ hs, h.Built) :
    List.Forall₂ (fun h e => h.declared c = some e) hs (hs.filterMap (declared c)) := by
  induction hs with
  | nil => exact .nil
  | cons h rest ih =>
    rw [List.forall_mem_cons] at hready hbuilt
    obtain ⟨d, hd, -⟩ := hbuilt.1.exists_declaration
    obtain ⟨verbs, e, hverbs, he⟩ := hready.1.entry d hd
    have hmade := declared_eq_some hd hverbs he
    rw [List.filterMap_cons_some hmade]
    exact .cons hmade (ih hready.2 hbuilt.2)

/-- Scopes of such handlers and without initializers add what their handlers declare. -/
theorem Scope.listing_of_no_initializers (given : Initializer → List Entry) {scopes : List Scope}
    (hnone : ∀ s ∈ scopes, s.initializers = []) : scopes.flatMap (listing c given) =
      (scopes.flatMap Scope.handlers).filterMap (Handler.declared c) := by
  induction scopes with
  | nil => rfl
  | cons s rest ih =>
    rw [List.forall_mem_cons] at hnone
    rw [List.flatMap_cons, ih hnone.2, List.flatMap_cons, List.filterMap_append, listing, hnone.1]
    rfl

namespace Catalog

variable {catalog : Catalog}

theorem exists_firstOffence (ht : WellFormed t) {x : Extent}
    (herror : (catalog.compileExtent c t x).result = .error err) :
    ∃ o u, (catalog.scope o).FirstOffence c u err := by
  have honly : ∀ {o u}, WellFormed u → (catalog.compileOnly c o u).result = .error err →
      (catalog.scope o).FirstOffence c u err := by
    intro o u hu h
    rw [compileOnly, Step.atomically_error_iff] at h
    exact (Scope.compile_error_iff hu).1 h
  cases x with
  | only o => exact ⟨o, t, honly ht herror⟩
  | all =>
    rw [compileExtent, compile, Step.atomically_error_iff, compileEach_error_iff_inTurn] at herror
    obtain ⟨before, o, after, added, u, -, hturn, hcall⟩ := herror
    exact ⟨o, u, honly (wellFormed_of_compilesInTurn ht hturn) hcall⟩

/-- A handler that is built from a declaration and any chain of traits has just this declaration and is not
excluded. Compiling a catalog of such handlers, or one of its owners, fails neither for several declarations
nor for an excluded handler with a declaration, whatever the initializers are. Without initializers and
without an error, each handler has one entry in what is added, in order. -/
theorem compile_built (c : Config) {t : RouteTable} (ht : Reachable t) :
    (∀ (owner name : String) (d : Declaration) (chain : List Trait),
      let h := (chain.foldl DeclaredHandler.add { owner, name, declaration := d }).build
      h.singleDeclaration = .ok (some d) ∧ h.isExcluded = false) ∧
    ∀ catalog : Catalog, (∀ o, ∀ h ∈ catalog.handlers o, h.Built) → ∀ x : Extent,
      (∀ err, (catalog.compileExtent c t x).result = .error err → err.kind ∈ CompileError.kindsOfBuilt) ∧
      ((∀ o, catalog.initializers o = []) → ∀ es, (catalog.compileExtent c t x).result = .ok es →
        List.Forall₂ (fun h e => h.declared c = some e) ((catalog.scopesOf x).flatMap Scope.handlers) es ∧
        (catalog.compileExtent c t x).table.entries = t.entries ++ es) := by
  refine ⟨fun owner name d chain => ⟨?_, DeclaredHandler.isExcluded_build _⟩, fun catalog hbuilt x => ⟨?_, ?_⟩⟩
  · rw [Handler.singleDeclaration_eq_ok_iff, DeclaredHandler.declarations_build, DeclaredHandler.foldl_add]
    rfl
  · intro err herror
    obtain ⟨o, u, hfirst⟩ := exists_firstOffence ht.wellFormed herror
    exact hfirst.kind_mem (hbuilt o)
  · intro hnone es hes
    have hscopes : ∀ s ∈ catalog.scopesOf x, ∃ o, s = catalog.scope o := by
      cases x with
      | all => exact fun s hs => (List.mem_map.1 hs).imp fun o h => h.2.symm
      | only o => exact fun s hs => ⟨o, List.mem_singleton.1 hs⟩
    have hempty : ∀ s ∈ catalog.scopesOf x, s.initializers = [] := by
      intro s hs
      obtain ⟨o, rfl⟩ := hscopes s hs
      exact hnone o
    have hhandlers : ∀ h ∈ (catalog.scopesOf x).flatMap Scope.handlers, h.Built := by
      intro h hh
      obtain ⟨s, hs, hmem⟩ := List.mem_flatMap.1 hh
      obtain ⟨o, rfl⟩ := hscopes s hs
      exact hbuilt o h hmem
    have hnothing : ∀ s ∈ catalog.scopesOf x, ∀ i ∈ s.initializers, i.RegistersAll [] := by
      intro s hs i hi
      rw [hempty s hs] at hi
      cases hi
    obtain ⟨hready, hlist, hreg⟩ := (compileExtent_yields_iff hnothing).1 ⟨hes, rfl⟩
    rw [Scope.listing_of_no_initializers _ hempty] at hlist
    refine ⟨hlist ▸ Handler.forall₂_declared (fun h hh => ?_) hhandlers, hreg.entries_eq⟩
    obtain ⟨s, hs, hmem⟩ := List.mem_flatMap.1 hh
    exact (hready s hs).handlers h hmem

/-- Handlers of two owners, with traits of several kinds, and a handler that gives a default twice. -/
theorem compile_built_two :
    let t := RouteTable.empty.replay [.register { name := "home", url := "" }]
    let d : Declaration := { url := "a/\x7bp\x7d", verb := some .post }
    let put := ([.acceptVerbs [" put"], .optional "p", .urlParam "q" none (some "x")].foldl DeclaredHandler.add
      { owner := "A", name := "put", declaration := d }).build
    let get := ([].foldl DeclaredHandler.add { owner := "B", name := "get", declaration := { url := "b" } }).build
    let twice := ([.optional "p", .default "P" .optional].foldl DeclaredHandler.add
      { owner := "B", name := "twice", declaration := d }).build
    let catalog := (Catalog.empty.addHandler put).addHandler get
    put.singleDeclaration = .ok (some d) ∧ put.isExcluded = false ∧
      (∃ es, (catalog.compileExtent {} t .all).result = .ok es ∧
        List.Forall₂ (fun h e => h.declared {} = some e) [put, get] es ∧
        (catalog.compileExtent {} t .all).table.entries = t.entries ++ es) ∧
      ((Catalog.empty.addHandler twice).compileExtent {} t .all).result = .error (.duplicateDefault "B" "twice" "P") ∧
      (CompileError.duplicateDefault "B" "twice" "P").kind ∈ CompileError.kindsOfBuilt := by
  intro t d put get twice catalog
  have ht : Reachable t := ⟨_, rfl⟩
  have hadd : ∀ {catalog : Catalog} {h : Handler}, h.Built → (∀ o, ∀ g ∈ catalog.handlers o, g.Built) →
      ∀ o, ∀ g ∈ (catalog.addHandler h).handlers o, g.Built := by
    intro catalog h hh hbuilt o g hg
    rw [handlers_addHandler, List.mem_append] at hg
    rcases hg with hg | hg
    · exact hbuilt o g hg
    · split at hg
      · rw [List.mem_singleton.1 hg]
        exact hh
      · cases hg
  have hnothing : ∀ o, ∀ h ∈ Catalog.empty.handlers o, h.Built := fun _ _ h => nomatch h
  have hbuilt : ∀ o, ∀ h ∈ catalog.handlers o, h.Built :=
    hadd ⟨_, _, _, _, rfl⟩ (hadd ⟨_, _, _, _, rfl⟩ hnothing)
  have hok : (catalog.compileExtent {} t .all).result.isOk = true := by
    dsimp only [catalog, put, get, d, t]
    decide +kernel
  obtain ⟨es, hes⟩ : ∃ es, (catalog.compileExtent {} t .all).result = .ok es := by
    cases hr : (catalog.compileExtent {} t .all).result with
    | error e => rw [hr] at hok; cases hok
    | ok es => exact ⟨es, rfl⟩
  have herror : ((Catalog.empty.addHandler twice).compileExtent {} t .all).result =
      .error (.duplicateDefault "B" "twice" "P") := by
    dsimp only [twice, d, t]
    with_unfolding_all rfl
  have hhandlers : (catalog.scopesOf .all).flatMap Scope.handlers = [put, get] := rfl
  have hnone : ∀ o, catalog.initializers o = [] := by
    intro o
    rw [initializers_addHandler, initializers_addHandler]
    rfl
  obtain ⟨hchains, hcatalogs⟩ := compile_built {} ht
  obtain ⟨hsingle, hkept⟩ := hchains "A" "put" d [.acceptVerbs [" put"], .optional "p", .urlParam "q" none (some "x")]
  obtain ⟨-, hentries⟩ := hcatalogs catalog hbuilt .all
  obtain ⟨hkinds, -⟩ := hcatalogs (Catalog.empty.addHandler twice) (hadd ⟨_, _, _, _, rfl⟩ hnothing) .all
  obtain ⟨heach, htable⟩ := hentries hnone es hes
  rw [hhandlers] at heach
  exact ⟨hsingle, hkept, ⟨es, hes, heach, htable⟩, herror, hkinds _ herror⟩

end Catalog

end Routebook
