import Routebook.Proofs.Compile.Reference
import Routebook.Proofs.Compile.Transaction

/-!
# Owner by owner

All owners of a catalog are compiled as one whole. They can also be compiled in turn, each as a
whole of its own on the table that the one before it left.

* `Catalog.CompilesInTurn` : the calls for owners in turn succeed, with what they give;
* `compileEach_yields_iff_inTurn`, `compileEach_error_iff_inTurn` : the scopes of owners compile just
  when the calls succeed, and fail with the error of the first call that fails;
* `Catalog.compile_iff_inTurn` : so one call for all owners does what the calls in turn do.
-/

namespace Routebook

open RouteTable (Reachable WellFormed)

variable {σ : Type}

theorem Step.andThen_error_iff {α β : Type} {s : Step σ α} {f : α → σ → Step σ β}
    {e : CompileError} : (s.andThen f).result = .error e ↔
      s.result = .error e ∨ ∃ a, s.result = .ok a ∧ (f a s.table).result = .error e := by
  unfold andThen
  cases s.result <;> simp

theorem Step.check_error_iff {α β : Type} {r : Except CompileError α} {t : σ} {f : α → Step σ β}
    {e : CompileError} : (Step.check r t f).result = .error e ↔
      r = .error e ∨ ∃ a, r = .ok a ∧ (f a).result = .error e := by
  cases r <;> simp [check, fail]

variable [Registry σ]

namespace Step

variable {body : σ → Step σ Unit} {t : σ}

/-- A whole succeeds just when its body does, and leaves the table of the body. -/
theorem atomically_yields_iff {es : List Entry} {u : σ} : (atomically body t).Yields es u ↔
    (body t).Yields () u ∧ es = Registry.since u (Registry.size t) := by
  rcases atomically_cases body t with ⟨hok, heq⟩ | ⟨e, herr, heq⟩ <;> rw [heq]
  · constructor
    · rintro ⟨hes, rfl⟩
      exact ⟨⟨hok, rfl⟩, (Except.ok.inj hes).symm⟩
    · rintro ⟨⟨-, rfl⟩, rfl⟩
      exact ⟨rfl, rfl⟩
  · constructor
    · rintro ⟨hes, -⟩
      cases hes
    · rintro ⟨⟨hok, -⟩, -⟩
      cases herr.symm.trans hok

theorem atomically_error_iff {e : CompileError} :
    (atomically body t).result = .error e ↔ (body t).result = .error e := by
  rcases atomically_cases body t with ⟨hok, heq⟩ | ⟨e', herr, heq⟩ <;> rw [heq]
  · rw [hok]
    exact ⟨fun h => (nomatch h), fun h => (nomatch h)⟩
  · rw [herr, Except.error.injEq, Except.error.injEq]

end Step

namespace Catalog

variable {catalog : Catalog} {c : Config}

/-- Owners are compiled in turn, each as a whole on the table that the one before it left. Every call
succeeds; `added` are the entries that each of them gives, and `u` is the table at the end. -/
def CompilesInTurn (catalog : Catalog) (c : Config) :
    List String → σ → List (List Entry) → σ → Prop
  | [], t, added, u => added = [] ∧ u = t
  | o :: rest, t, added, v => ∃ es u more, (catalog.compileOnly c o t).Yields es u ∧
      added = es :: more ∧ CompilesInTurn catalog c rest u more v

theorem compilesInTurn_nil {t u : σ} {added : List (List Entry)} :
    CompilesInTurn catalog c [] t added u ↔ added = [] ∧ u = t := Iff.rfl

/-- Scopes compile together just when they compile in turn, and then leave the same table. -/
theorem compileEach_yields_iff_inTurn {owners : List String} {t u : σ} :
    (Scope.compileEach c (owners.map catalog.scope) t).Yields () u ↔
      ∃ added, catalog.CompilesInTurn c owners t added u := by
  induction owners generalizing t with
  | nil =>
    rw [List.map_nil, Scope.compileEach, Step.yields_done]
    simp [compilesInTurn_nil]
  | cons o rest ih =>
    rw [List.map_cons, Scope.compileEach, Step.yields_andThen]
    simp only [ih, CompilesInTurn, compileOnly, Step.atomically_yields_iff]
    constructor
    · rintro ⟨⟨⟩, w, hfirst, added, hrest⟩
      exact ⟨_, _, w, added, ⟨hfirst, rfl⟩, rfl, hrest⟩
    · rintro ⟨_, _, w, added, ⟨hfirst, rfl⟩, rfl, hrest⟩
      exact ⟨(), w, hfirst, added, hrest⟩

/-- Scopes fail together with an error just when the first call in turn that fails does. -/
theorem compileEach_error_iff_inTurn {owners : List String} {t : σ} {e : CompileError} :
    (Scope.compileEach c (owners.map catalog.scope) t).result = .error e ↔
      ∃ before o after added u, owners = before ++ o :: after ∧
        catalog.CompilesInTurn c before t added u ∧ (catalog.compileOnly c o u).result = .error e := by
  induction owners generalizing t with
  | nil =>
    constructor
    · rintro ⟨⟩
    · rintro ⟨before, o, after, -, -, hsplit, -⟩
      exact absurd hsplit.symm (by simp)
  | cons o rest ih =>
    rw [List.map_cons, Scope.compileEach, Step.andThen_error_iff]
    constructor
    · rintro (hfirst | ⟨⟨⟩, hfirst, hrest⟩)
      · exact ⟨[], o, rest, [], t, rfl, ⟨rfl, rfl⟩, Step.atomically_error_iff.2 hfirst⟩
      · obtain ⟨before, o', after, added, u, rfl, hturn, herr⟩ := ih.1 hrest
        exact ⟨o :: before, o', after, _, u, rfl,
          ⟨_, _, added, Step.atomically_yields_iff.2 ⟨⟨hfirst, rfl⟩, rfl⟩, rfl, hturn⟩, herr⟩
    · rintro ⟨before, o', after, added, u, hsplit, hturn, herr⟩
      cases before with
      | nil =>
        cases hsplit
        obtain ⟨-, rfl⟩ := hturn
        exact .inl (Step.atomically_error_iff.1 herr)
      | cons o'' before =>
        cases hsplit
        obtain ⟨es, w, more, hfirst, -, hturn⟩ := hturn
        obtain ⟨⟨hok, rfl⟩, -⟩ := Step.atomically_yields_iff.1 hfirst
        exact .inr ⟨(), hok, ih.2 ⟨before, o', after, more, u, rfl, hturn, herr⟩⟩

theorem wellFormed_of_compilesInTurn {owners : List String} {t u : RouteTable} {added : List (List Entry)}
    (ht : WellFormed t) (hturn : catalog.CompilesInTurn c owners t added u) : WellFormed u := by
  induction owners generalizing t added with
  | nil => exact hturn.2 ▸ ht
  | cons o rest ih =>
    obtain ⟨es, w, more, ⟨-, rfl⟩, -, hrest⟩ := hturn
    exact ih (compileExtent_keeps (fun h hr => h.register hr) (fun h n => h.truncate n) catalog c (.only o) ht)
      hrest

/-! ## What the calls give -/

/-- In none of the calls in turn is the table ever shorter than when the call began, as is the case
when no callback cuts anything off. -/
def NeverShrinks (catalog : Catalog) (c : Config) : List String → RouteTable → Prop
  | [], _ => True
  | o :: rest, t => (∀ u ∈ catalog.moments c t (.only o), t.size ≤ u.size) ∧
      NeverShrinks catalog c rest (catalog.compileOnly c o t).table

variable {t u : RouteTable}

/-- A call during which the table is never shorter than at first adds what it gives. -/
theorem entries_of_compileOnly {o : String} {es : List Entry} (ht : WellFormed t)
    (hlong : ∀ u ∈ catalog.moments c t (.only o), t.size ≤ u.size)
    (hes : (catalog.compileOnly c o t).Yields es u) :
    WellFormed u ∧ u.entries = t.entries ++ es := by
  obtain ⟨hok, rfl⟩ := hes
  have hmem := catalog.table_mem_moments c t (.only o)
  obtain ⟨hwell, hkeep⟩ := catalog.moments_intact c (.only o) ht (List.prefix_refl t.entries)
  rw [RouteTable.length_entries] at hkeep
  obtain ⟨rest, hrest⟩ := hkeep hlong _ hmem
  refine ⟨hwell _ hmem, ?_⟩
  rw [catalog.since_of_ok c (.only o) hok, ← RouteTable.length_entries, ← hrest, List.drop_left]
  exact hrest.symm

theorem entries_of_compilesInTurn {owners : List String} {added : List (List Entry)}
    (ht : WellFormed t) (hlong : catalog.NeverShrinks c owners t)
    (hturn : catalog.CompilesInTurn c owners t added u) : u.entries = t.entries ++ added.flatten := by
  induction owners generalizing t added with
  | nil =>
    obtain ⟨rfl, rfl⟩ := hturn
    exact (List.append_nil _).symm
  | cons o rest ih =>
    obtain ⟨es, w, more, hfirst, rfl, hrest⟩ := hturn
    obtain ⟨hlongFirst, hlongRest⟩ := hlong
    obtain ⟨hw, hentries⟩ := entries_of_compileOnly ht hlongFirst hfirst
    rw [hfirst.2] at hlongRest
    rw [ih hw hlongRest hrest, hentries, List.flatten_cons, List.append_assoc]

/-- Compiling a catalog succeeds just when compiling its owners in turn succeeds every time; then the
table at the end is the same, and the entries that are given are those of the calls, one list behind
the other, if the table was never shorter in a call than when it began. It fails just with the error
of the first call in turn that fails. -/
theorem compile_iff_inTurn (ht : Reachable t) :
    ((∃ es, (catalog.compile c t).result = .ok es) ↔
      ∃ added u, catalog.CompilesInTurn c catalog.owners t added u) ∧
    (∀ added u, catalog.CompilesInTurn c catalog.owners t added u →
      (catalog.compile c t).table = u ∧
      (catalog.NeverShrinks c catalog.owners t →
        (catalog.compile c t).result = .ok added.flatten)) ∧
    ∀ e, (catalog.compile c t).result = .error e ↔
      ∃ before o after added u, catalog.owners = before ++ o :: after ∧
        catalog.CompilesInTurn c before t added u ∧
        (catalog.compileOnly c o u).result = .error e := by
  -- One transaction around all scopes yields what the chain of transactions does.
  have hyields : ∀ {es u}, (catalog.compile c t).Yields es u ↔
      (∃ added, catalog.CompilesInTurn c catalog.owners t added u) ∧
        es = Registry.since u (Registry.size t) := by
    intro es u
    rw [compile, Step.atomically_yields_iff, compileEach_yields_iff_inTurn]
  refine ⟨⟨?_, ?_⟩, fun added u hturn => ?_, fun e => ?_⟩
  · rintro ⟨es, hes⟩
    obtain ⟨⟨added, hturn⟩, -⟩ := hyields.1 ⟨hes, rfl⟩
    exact ⟨added, _, hturn⟩
  · rintro ⟨added, u, hturn⟩
    exact ⟨_, (hyields.2 ⟨⟨added, hturn⟩, rfl⟩).1⟩
  · obtain ⟨hes, htable⟩ := hyields.2 ⟨⟨added, hturn⟩, rfl⟩
    refine ⟨htable, fun hlong => ?_⟩
    have hentries := entries_of_compilesInTurn ht.wellFormed hlong hturn
    rw [hes]
    show Except.ok (List.drop _ u.entries) = _
    rw [hentries, RouteTable.registry_size, ← RouteTable.length_entries, List.drop_left]
  · rw [compile, Step.atomically_error_iff, compileEach_error_iff_inTurn]

/-- A handler of one owner, and an initializer of another that looks for its route. -/
theorem compile_iff_inTurn_two :
    let t := RouteTable.empty.replay [.register { name := "home", url := "" }]
    let catalog := (Catalog.empty.addHandler ⟨"A", "h", [.route { url := "a" }]⟩).addInitializer {
      owner := "B", name := "i"
      callback := .hasName "GET.A.H" fun found =>
        if found then .register { name := "b", url := "b" } .done else .done (.ok ()) }
    Reachable t ∧ catalog.NeverShrinks {} catalog.owners t ∧
      ∃ added u, catalog.CompilesInTurn {} catalog.owners t added u ∧
        added.map (·.map Entry.name) = [["Get.A.h"], ["b"]] ∧
        (catalog.compile {} t).result = .ok added.flatten ∧ (catalog.compile {} t).table = u := by
  intro t catalog
  have ht : Reachable t := ⟨_, rfl⟩
  have hlong : catalog.NeverShrinks {} catalog.owners t := ⟨by decide +kernel, by decide +kernel, trivial⟩
  obtain ⟨hsucceeds, hsame, -⟩ := @compile_iff_inTurn catalog {} t ht
  obtain ⟨added, u, hturn⟩ := hsucceeds.1 ⟨_, rfl⟩
  obtain ⟨htable, hadded⟩ := hsame added u hturn
  refine ⟨ht, hlong, added, u, hturn, ?_, hadded hlong, htable⟩
  obtain ⟨es, v, more, ⟨hes, rfl⟩, rfl, es', w, more', ⟨hes', rfl⟩, rfl, rfl, rfl⟩ := hturn
  cases hes
  cases hes'
  rfl

end Catalog

end Routebook
