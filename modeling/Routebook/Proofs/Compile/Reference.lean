import Routebook.Proofs.Catalog.Initializers
import Routebook.Proofs.Compile.Lockstep
import Routebook.Proofs.Table.Admission

/-!
# What a compilation adds

When every initializer registers a fixed list of entries, the entries of a catalog can be listed
without compiling it: owner by owner, those of the initializers in order, then those of the handlers
in order. Compiling the catalog is registering this list.

* `Step.Yields` : a step succeeds with a value and leaves a table;
* `Handler.Ready`, `Handler.declared` : the handler has an entry or declares no route, and the entry;
* `Catalog.Ready`, `Catalog.listing` : the same for a catalog;
* `Catalog.RegistersAll` : its initializers register fixed lists, as those of a written catalog do;
* `Scope.compileEach_yields_iff` : scopes compile just when they are ready and their entries register;
* `Catalog.truncate_compileEach` : what they have added is cut off again when one of them fails.
-/

namespace Routebook

open RouteTable (Registers Reachable WellFormed registers_append registers_singleton)

/-! ## Steps that succeed -/

/-- The step succeeds with a value and leaves a table. -/
def Step.Yields {σ α : Type} (s : Step σ α) (a : α) (u : σ) : Prop := s.result = .ok a ∧ s.table = u

namespace Step

variable {σ α β : Type} {t u v : σ}

theorem yields_done {a b : α} : (done a t).Yields b u ↔ b = a ∧ u = t := by
  simp [Yields, done, eq_comm]

theorem not_yields_fail {e : CompileError} {a : α} : ¬ (fail e t : Step σ α).Yields a u :=
  fun h => nomatch h.1

theorem yields_andThen {s : Step σ α} {f : α → σ → Step σ β} {b : β} :
    (s.andThen f).Yields b v ↔ ∃ a u, s.Yields a u ∧ (f a u).Yields b v := by
  constructor
  · intro h
    unfold andThen at h
    cases hs : s.result with
    | error e =>
      rw [hs] at h
      exact nomatch h.1
    | ok a =>
      rw [hs] at h
      exact ⟨a, s.table, ⟨hs, rfl⟩, h⟩
  · rintro ⟨a, u, ⟨hs, rfl⟩, h⟩
    unfold andThen
    rw [hs]
    exact h

theorem yields_check {r : Except CompileError α} {f : α → Step σ β} {b : β} :
    (check r t f).Yields b u ↔ ∃ a, r = .ok a ∧ (f a).Yields b u := by
  cases r with
  | error e => simp [check, not_yields_fail]
  | ok a => simp [check]

theorem yields_report {s : Step σ α} {event : Event} {a : α} :
    (s.report event).Yields a u ↔ s.Yields a u := Iff.rfl

end Step

/-! ## Initializers -/

theorem Signature.check_eq_ok_iff {s : Signature} : s.check = .ok () ↔ s = .expected := by
  obtain ⟨receiver, parameters⟩ := s
  constructor
  · intro h
    unfold Signature.check at h
    split at h
    · split at h
      · simp_all [Signature.expected]
      · cases h
    · cases h
    · cases h
  · intro h
    rw [h]
    rfl

theorem Script.run_registerAll_iff {es : List Entry} {t u : RouteTable} :
    (Script.registerAll es).run t = (.ok (), u) ↔ Registers es t u := by
  induction es generalizing t with
  | nil => simp [Script.registerAll, Script.run, Registers, eq_comm]
  | cons e rest ih =>
    rw [Script.registerAll, Script.run, Registers, RouteTable.registry_register]
    cases t.register e with
    | error err => simp [Script.run]
    | ok w => simpa using ih

/-- The initializer does to a table what registering a list of entries in order does, up to the
first that is refused. -/
def Initializer.RegistersAll (i : Initializer) (es : List Entry) : Prop :=
  ∀ t : RouteTable, i.callback.run t = (Script.registerAll es).run t

theorem Initializer.registersAll_ofEntries (owner name : String) (es : List Entry) :
    (Initializer.ofEntries owner name es).RegistersAll es := fun _ => rfl

namespace Initializer

variable {given : Initializer → List Entry}

theorem checkAll_eq_ok_iff {is : List Initializer} :
    checkAll is = .ok () ↔ ∀ i ∈ is, i.signature = .expected := by
  induction is with
  | nil => simp [checkAll]
  | cons i rest ih =>
    rw [checkAll, List.forall_mem_cons, ← Signature.check_eq_ok_iff, ← ih]
    cases i.signature.check <;> simp

theorem invokeAll_yields_iff {is : List Initializer} (h : ∀ i ∈ is, i.RegistersAll (given i))
    {t u : RouteTable} : (invokeAll is t).Yields () u ↔ Registers (is.flatMap given) t u := by
  induction is generalizing t with
  | nil => simp [invokeAll, Step.yields_done, Registers]
  | cons i rest ih =>
    rw [invokeAll_cons, List.flatMap_cons, registers_append, h i List.mem_cons_self]
    have hrun : ∀ w, Registers (given i) t w ↔ (Script.registerAll (given i)).run t = (.ok (), w) :=
      fun w => Script.run_registerAll_iff.symm
    simp only [hrun]
    obtain ⟨result, after⟩ := (Script.registerAll (given i)).run t
    cases result with
    | error e => simp [Step.not_yields_fail]
    | ok _ => simpa [Step.yields_report] using ih fun j hj => h j (List.mem_cons_of_mem i hj)

theorem runAll_yields_iff {is : List Initializer} (h : ∀ i ∈ is, i.RegistersAll (given i))
    {t u : RouteTable} : (runAll is t).Yields () u ↔
      (∀ i ∈ is, i.signature = .expected) ∧ Registers (is.flatMap given) t u := by
  rw [runAll, Step.yields_check, ← checkAll_eq_ok_iff]
  simp only [invokeAll_yields_iff h]
  exact ⟨fun ⟨_, hcheck, hreg⟩ => ⟨hcheck, hreg⟩, fun ⟨hcheck, hreg⟩ => ⟨(), hcheck, hreg⟩⟩

end Initializer

/-! ## Handlers -/

namespace Handler

variable {c : Config} {h : Handler}

/-- The handler declares no route, or just one, and then its verbs and its entry are made. -/
structure Ready (c : Config) (h : Handler) : Prop where
  declarations : h.declarations.length ≤ 1
  entry : ∀ d, h.declarations = [d] →
    ∃ verbs e, h.verbs = .ok verbs ∧ c.entry h d verbs = .ok e

theorem ready_iff : h.Ready c ↔ h.declarations = [] ∨
    ∃ d verbs e, h.declarations = [d] ∧ h.verbs = .ok verbs ∧ c.entry h d verbs = .ok e := by
  constructor
  · rintro ⟨hle, hentry⟩
    cases hds : h.declarations with
    | nil => exact .inl rfl
    | cons d rest =>
      have hrest : rest = [] := by
        rw [hds, List.length_cons] at hle
        exact List.length_eq_zero_iff.1 (by omega)
      obtain ⟨verbs, e, hverbs, he⟩ := hentry d (by rw [hds, hrest])
      exact .inr ⟨d, verbs, e, by rw [hrest], hverbs, he⟩
  · rintro (hds | ⟨d, verbs, e, hds, hverbs, he⟩)
    · refine ⟨by simp [hds], fun d hd => ?_⟩
      cases hds.symm.trans hd
    · refine ⟨by simp [hds], fun d' hd' => ?_⟩
      cases hds.symm.trans hd'
      exact ⟨verbs, e, hverbs, he⟩

/-- The entry of a handler that declares just one route. -/
def declared (c : Config) (h : Handler) : Option Entry :=
  match h.declarations, h.verbs with
  | [d], .ok verbs => (c.entry h d verbs).toOption
  | _, _ => none

theorem declared_eq_none (hds : h.declarations = []) : h.declared c = none := by
  rw [declared, hds]

theorem declared_eq_some {d : Declaration} {verbs : VerbSet} {e : Entry} (hds : h.declarations = [d])
    (hverbs : h.verbs = .ok verbs) (he : c.entry h d verbs = .ok e) : h.declared c = some e := by
  rw [declared, hds, hverbs]
  simp only [he, Except.toOption]

theorem filterMap_declared_cons (h : Handler) (rest : List Handler) : (h :: rest).filterMap (declared c) =
    (h.declared c).toList ++ rest.filterMap (declared c) := by
  rw [List.filterMap_cons]
  cases h.declared c <;> rfl

theorem singleDeclaration_eq_ok_iff {d : Option Declaration} :
    h.singleDeclaration = .ok d ↔ h.declarations = d.toList := by
  unfold singleDeclaration
  cases hds : h.declarations with
  | nil => cases d <;> simp
  | cons d' rest =>
    cases rest with
    | nil => cases d <;> simp [eq_comm]
    | cons d'' rest => cases d <;> simp

/-- The name that is looked up first is looked up again by the table. -/
theorem registerEntry_yields_iff {owner : String} {e : Entry} {t u : RouteTable} :
    (h.registerEntry owner e t).Yields () u ↔ t.register e = .ok u := by
  unfold registerEntry
  rw [RouteTable.registry_register, RouteTable.registry_hasName]
  cases hname : t.hasName e.name with
  | true =>
    have hrefused : ¬ t.register e = .ok u := fun hok =>
      Bool.noConfusion (hname.symm.trans (RouteTable.register_eq_ok_iff.1 hok).1)
    simpa [Step.not_yields_fail] using hrefused
  | false => cases t.register e <;> simp [Step.not_yields_fail, Step.yields_done, eq_comm]

theorem compile_yields_iff {owner : String} {t u : RouteTable} {skipped : Bool} :
    (h.compile c owner t).Yields skipped u ↔
      (skipped = true ∧ h.declarations = [] ∧ u = t) ∨
      (skipped = false ∧ ∃ d verbs e, h.declarations = [d] ∧ h.verbs = .ok verbs ∧
        c.entry h d verbs = .ok e ∧ t.register e = .ok u) := by
  rw [compile, Step.yields_check]
  simp only [singleDeclaration_eq_ok_iff, Option.exists, Option.toList_none, Option.toList_some,
    Step.yields_done, Step.yields_check, Step.yields_report, Step.yields_andThen]
  constructor
  · rintro (⟨hds, hskip, hu⟩ | ⟨d, hds, verbs, hverbs, e, he, ⟨⟩, w, hw, hskip, rfl⟩)
    · exact .inl ⟨hskip, hds, hu⟩
    · exact .inr ⟨hskip, d, verbs, e, hds, hverbs, he, registerEntry_yields_iff.1 hw⟩
  · rintro (⟨hskip, hds, hu⟩ | ⟨hskip, d, verbs, e, hds, hverbs, he, hw⟩)
    · exact .inl ⟨hds, hskip, hu⟩
    · exact .inr ⟨d, hds, verbs, hverbs, e, he, (), u, registerEntry_yields_iff.2 hw, hskip, rfl⟩

/-- A handler compiles just when it is ready and its entry, if it has one, can be registered. -/
theorem exists_compile_yields_iff {owner : String} {t u : RouteTable} :
    (∃ skipped, (h.compile c owner t).Yields skipped u) ↔
      h.Ready c ∧ Registers (h.declared c).toList t u := by
  simp only [compile_yields_iff, ready_iff]
  constructor
  · rintro ⟨_, ⟨-, hds, hu⟩ | ⟨-, d, verbs, e, hds, hverbs, he, hw⟩⟩
    · rw [declared_eq_none hds]
      exact ⟨.inl hds, hu⟩
    · rw [declared_eq_some hds hverbs he]
      exact ⟨.inr ⟨d, verbs, e, hds, hverbs, he⟩, registers_singleton.2 hw⟩
  · rintro ⟨hds | ⟨d, verbs, e, hds, hverbs, he⟩, hreg⟩
    · rw [declared_eq_none hds] at hreg
      exact ⟨true, .inl ⟨rfl, hds, hreg⟩⟩
    · rw [declared_eq_some hds hverbs he] at hreg
      exact ⟨false, .inr ⟨rfl, d, verbs, e, hds, hverbs, he, registers_singleton.1 hreg⟩⟩

end Handler

/-! ## Scopes -/

namespace Scope

variable {c : Config} {given : Initializer → List Entry} {t u : RouteTable}

theorem exists_compileHandlers_yields_iff {owner : String} {hs : List Handler} :
    (∃ n, (compileHandlers c owner hs t).Yields n u) ↔
      (∀ h ∈ hs, h.Ready c) ∧ Registers (hs.filterMap (Handler.declared c)) t u := by
  induction hs generalizing t with
  | nil => simp [compileHandlers, Step.yields_done, Registers]
  | cons h rest ih =>
    rw [compileHandlers, Handler.filterMap_declared_cons, registers_append, List.forall_mem_cons]
    simp only [Step.yields_andThen, Step.yields_done]
    constructor
    · rintro ⟨_, skipped, w, hfirst, n, v, hrest, -, rfl⟩
      obtain ⟨hready, hreg⟩ := Handler.exists_compile_yields_iff.1 ⟨skipped, hfirst⟩
      obtain ⟨hreadyRest, hregRest⟩ := ih.1 ⟨n, hrest⟩
      exact ⟨⟨hready, hreadyRest⟩, w, hreg, hregRest⟩
    · rintro ⟨⟨hready, hreadyRest⟩, w, hreg, hregRest⟩
      obtain ⟨skipped, hfirst⟩ := Handler.exists_compile_yields_iff.2 ⟨hready, hreg⟩
      obtain ⟨n, hrest⟩ := ih.2 ⟨hreadyRest, hregRest⟩
      exact ⟨_, skipped, w, hfirst, n, u, hrest, rfl, rfl⟩

/-- The initializers of the scope have the expected shape and its handlers are ready. -/
structure Ready (c : Config) (s : Scope) : Prop where
  signatures : ∀ i ∈ s.initializers, i.signature = .expected
  handlers : ∀ h ∈ s.handlers, h.Ready c

/-- The entries of the initializers, then those of the handlers. -/
def listing (c : Config) (given : Initializer → List Entry) (s : Scope) : List Entry :=
  s.initializers.flatMap given ++ s.handlers.filterMap (Handler.declared c)

theorem compile_yields_iff {s : Scope} (hg : ∀ i ∈ s.initializers, i.RegistersAll (given i)) :
    (s.compile c t).Yields () u ↔ s.Ready c ∧ Registers (s.listing c given) t u := by
  rw [compile, listing, registers_append]
  simp only [Step.yields_andThen]
  constructor
  · rintro ⟨⟨⟩, w, hinit, n, v, hhandlers, -, rfl⟩
    obtain ⟨hsig, hreg⟩ := (Initializer.runAll_yields_iff hg).1 hinit
    obtain ⟨hready, hregRest⟩ := exists_compileHandlers_yields_iff.1 ⟨n, hhandlers⟩
    exact ⟨⟨hsig, hready⟩, w, hreg, hregRest⟩
  · rintro ⟨⟨hsig, hready⟩, w, hreg, hregRest⟩
    obtain ⟨n, hhandlers⟩ := exists_compileHandlers_yields_iff.2 ⟨hready, hregRest⟩
    exact ⟨(), w, (Initializer.runAll_yields_iff hg).2 ⟨hsig, hreg⟩, n, u, hhandlers, rfl, rfl⟩

theorem compileEach_yields_iff {scopes : List Scope}
    (hg : ∀ s ∈ scopes, ∀ i ∈ s.initializers, i.RegistersAll (given i)) :
    (compileEach c scopes t).Yields () u ↔
      (∀ s ∈ scopes, s.Ready c) ∧ Registers (scopes.flatMap (listing c given)) t u := by
  induction scopes generalizing t with
  | nil => simp [compileEach, Step.yields_done, Registers]
  | cons s rest ih =>
    rw [List.forall_mem_cons] at hg
    rw [compileEach, Step.yields_andThen, List.forall_mem_cons, List.flatMap_cons, registers_append]
    simp only [compile_yields_iff hg.1, ih hg.2]
    constructor
    · rintro ⟨⟨⟩, w, ⟨hready, hreg⟩, hreadyRest, hregRest⟩
      exact ⟨⟨hready, hreadyRest⟩, w, hreg, hregRest⟩
    · rintro ⟨⟨hready, hreadyRest⟩, w, hreg, hregRest⟩
      exact ⟨(), w, ⟨hready, hreg⟩, hreadyRest, hregRest⟩

end Scope

/-! ## Catalogs -/

namespace Catalog

/-- All initializers have the expected shape and all handlers are ready. -/
structure Ready (c : Config) (catalog : Catalog) : Prop where
  signatures : ∀ o ∈ catalog.owners, ∀ i ∈ catalog.initializers o, i.signature = .expected
  handlers : ∀ o ∈ catalog.owners, ∀ h ∈ catalog.handlers o, h.Ready c

/-- The entries of a catalog: for each owner those of its initializers, then those of its handlers
that declare just one route. -/
def listing (catalog : Catalog) (c : Config) (given : Initializer → List Entry) : List Entry :=
  catalog.owners.flatMap fun o =>
    (catalog.initializers o).flatMap given ++ (catalog.handlers o).filterMap (Handler.declared c)

variable {catalog : Catalog} {c : Config} {given : Initializer → List Entry} {t : RouteTable}

/-- Each initializer registers its entries in order. -/
def RegistersAll (catalog : Catalog) (given : Initializer → List Entry) : Prop :=
  ∀ o ∈ catalog.owners, ∀ i ∈ catalog.initializers o, i.RegistersAll (given i)

theorem exists_registersAll_of_parse {n : CatalogNotation} {text : String} {ms : Matchers}
    (h : Catalog.parse n text ms = .ok catalog) : ∃ given, catalog.RegistersAll given := by
  have heach : ∀ i : Initializer, ∃ es, i.Written → i.RegistersAll es := by
    intro i
    by_cases hw : i.Written
    · obtain ⟨es, hes⟩ := hw
      refine ⟨es, fun _ => ?_⟩
      rw [hes]
      exact Initializer.registersAll_ofEntries i.owner i.name es
    · exact ⟨[], fun h => absurd h hw⟩
  obtain ⟨given, hgiven⟩ := Classical.axiomOfChoice heach
  exact ⟨given, fun o _ i hi => hgiven i (initializer_of_parse h hi)⟩

/-- Compiling the scopes of a catalog is registering its entries. -/
theorem compileEach_yields_iff_listing
    (hg : catalog.RegistersAll given) {u : RouteTable} :
    (Scope.compileEach c (catalog.owners.map catalog.scope) t).Yields () u ↔
      catalog.Ready c ∧ Registers (catalog.listing c given) t u := by
  rw [Scope.compileEach_yields_iff (List.forall_mem_map.2 hg), List.forall_mem_map, List.flatMap_map]
  constructor
  · rintro ⟨hready, hreg⟩
    exact ⟨⟨fun o ho => (hready o ho).signatures, fun o ho => (hready o ho).handlers⟩, hreg⟩
  · rintro ⟨hready, hreg⟩
    exact ⟨fun o ho => ⟨hready.signatures o ho, hready.handlers o ho⟩, hreg⟩

/-- What the scopes of a catalog add is cut off again by going back to the first length. -/
theorem truncate_compileEach (ht : WellFormed t) (hg : catalog.RegistersAll given) :
    Registry.truncate (Scope.compileEach c (catalog.owners.map catalog.scope) t).table
      (Registry.size t) = t := by
  have hkept : Registry.KeptByRegister fun u : RouteTable => WellFormed u ∧ t.entries <+: u.entries :=
    fun hu hr => ⟨hu.1.register hr, hu.2.trans (RouteTable.entries_prefix_of_register hr)⟩
  have hcall : ∀ s ∈ catalog.owners.map catalog.scope, ∀ i ∈ s.initializers,
      i.callback.Keeps fun u : RouteTable => WellFormed u ∧ t.entries <+: u.entries := by
    rw [List.forall_mem_map]
    intro o ho i hi u hu
    rw [hg o ho i hi u]
    exact hkept.registerAll (given i) hu
  obtain ⟨hwell, rest, hrest⟩ :=
    Scope.compileEach_keeps hkept c _ hcall ⟨ht, List.prefix_refl t.entries⟩
  refine (hwell.truncate _).ext ht ?_
  rw [RouteTable.entries_truncate, ← hrest, RouteTable.registry_size, ← RouteTable.length_entries,
    List.take_left]

/-- The initializers of a written catalog register fixed entries. Compiling a catalog whose
initializers do so succeeds just when it is ready and each of its entries can be registered behind
those in front of it. Then the table is that after registering them and they are the result;
otherwise the table is as it was. -/
theorem compile_iff_listing (ht : Reachable t) :
    (∀ n text ms, Catalog.parse n text ms = .ok catalog → ∃ given, catalog.RegistersAll given) ∧
    ∀ given, catalog.RegistersAll given →
      ((∃ es, (catalog.compile c t).result = .ok es) ↔ catalog.Ready c ∧
        ∀ before e after, catalog.listing c given = before ++ e :: after →
          e.Admissible (t.entries ++ before)) ∧
      (∀ es, (catalog.compile c t).result = .ok es → es = catalog.listing c given ∧
        (catalog.compile c t).table = t.replay (es.map .register) ∧
        (catalog.compile c t).table.entries = t.entries ++ es) ∧
      (∀ e, (catalog.compile c t).result = .error e → (catalog.compile c t).table = t) := by
  refine ⟨fun _ _ _ => exists_registersAll_of_parse, fun given hg => ?_⟩
  have hlist := fun {u} => compileEach_yields_iff_listing (c := c) (t := t) (u := u) hg
  rw [← ht.wellFormed.exists_registers_iff, compile]
  rcases Step.atomically_cases (Scope.compileEach c (catalog.owners.map catalog.scope)) t with
    ⟨hok, heq⟩ | ⟨e, herr, heq⟩ <;> rw [heq]
  · obtain ⟨hready, hreg⟩ := hlist.1 ⟨hok, rfl⟩
    have hadded : Registry.since (Scope.compileEach c (catalog.owners.map catalog.scope) t).table
        (Registry.size t) = catalog.listing c given := by
      show List.drop _ (RouteTable.entries _) = _
      rw [hreg.entries_eq, RouteTable.registry_size, ← RouteTable.length_entries, List.drop_left]
    refine ⟨⟨fun _ => ⟨hready, _, hreg⟩, fun _ => ⟨_, rfl⟩⟩, fun es hes => ?_, fun e he => nomatch he⟩
    cases hes
    rw [hadded]
    exact ⟨rfl, hreg.replay_eq.symm, hreg.entries_eq⟩
  · refine ⟨⟨fun ⟨_, h⟩ => (nomatch h), fun ⟨hready, u, hreg⟩ => ?_⟩, fun es hes => (nomatch hes),
      fun _ _ => ?_⟩
    · cases herr.symm.trans (hlist.2 ⟨hready, hreg⟩).1
    · exact truncate_compileEach ht.wellFormed hg

/-- A catalog with an initializer and a handler behind a route that is there. -/
theorem compile_iff_listing_two :
    let t := RouteTable.empty.replay [.register { name := "home", url := "" }]
    let catalog := (Catalog.empty.addInitializer (.ofEntries "T" "i" [{ name := "a", url := "a" }])).addHandler
      ⟨"T", "h", [.route { url := "b" }]⟩
    let given : Initializer → List Entry := fun _ => [{ name := "a", url := "a" }]
    Reachable t ∧ catalog.RegistersAll given ∧
      ∃ es, (catalog.compile {} t).result = .ok es ∧ es = catalog.listing {} given ∧
        es.map Entry.name = ["a", "Get.T.h"] ∧
        (catalog.compile {} t).table.entries = t.entries ++ es := by
  intro t catalog given
  have ht : Reachable t := ⟨_, rfl⟩
  have hg : catalog.RegistersAll given := by
    intro o ho i hi u
    cases List.mem_singleton.1 ho
    cases List.mem_singleton.1 hi
    rfl
  obtain ⟨-, hok, -⟩ := (compile_iff_listing (c := {}) ht).2 given hg
  obtain ⟨hes, -, hentries⟩ := hok _ rfl
  exact ⟨ht, hg, _, rfl, hes, rfl, hentries⟩

end Catalog

end Routebook
