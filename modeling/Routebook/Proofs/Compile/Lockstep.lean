import Routebook.Compile.Basic

/-!
# Compilations in lockstep

The compiler knows a registry by its operations only. So a compilation does the same on two
registries that answer alike, and leaves registries that again answer alike.

* `Registry.Alike` : related registries answer alike and stay related as entries are added;
* `Script.Respects`, `Step.Related` : a program, or a part of a compilation, does the same on both;
* `Scope.compileEach_related`, `Catalog.compileExtent_related` : so does a whole compilation;
* `Scope.compileEach_keeps` : what adding entries and every callback keep, a compilation keeps.
-/

namespace Routebook

variable {σ τ : Type}

/-! ## What a call compiles -/

/-- All owners of a catalog, or one. -/
inductive Catalog.Extent where
  | all
  | only (owner : String)

namespace Catalog

/-- The scopes in the order in which they are compiled. -/
def scopesOf (catalog : Catalog) : Extent → List Scope
  | .all => catalog.owners.map catalog.scope
  | .only owner => [catalog.scope owner]

/-- Compiles all owners of a catalog, or one. -/
def compileExtent [Registry σ] (catalog : Catalog) (c : Config) (t : σ) : Extent → Step σ (List Entry)
  | .all => catalog.compile c t
  | .only owner => catalog.compileOnly c owner t

end Catalog

theorem Step.andThen_done {α : Type} (s : Step σ α) : (s.andThen fun a t => .done a t) = s := by
  obtain ⟨result, table, events⟩ := s
  cases result with
  | error e => rfl
  | ok a =>
    show (⟨.ok a, table, events ++ []⟩ : Step σ α) = _
    rw [List.append_nil]

theorem Catalog.compileExtent_eq [Registry σ] (catalog : Catalog) (c : Config) (t : σ)
    (x : Catalog.Extent) :
    catalog.compileExtent c t x = Step.atomically (Scope.compileEach c (catalog.scopesOf x)) t := by
  cases x with
  | all => rfl
  | only owner =>
    have hone : Scope.compileEach (σ := σ) c [catalog.scope owner] = (catalog.scope owner).compile c :=
      funext fun t => Step.andThen_done _
    rw [Catalog.scopesOf, hone, Catalog.compileExtent, Catalog.compileOnly]

/-- What running a compilation as a whole can do. -/
theorem Step.atomically_cases [Registry σ] (body : σ → Step σ Unit) (t : σ) :
    ((body t).result = .ok () ∧ Step.atomically body t =
      ⟨.ok (Registry.since (body t).table (Registry.size t)), (body t).table, (body t).events⟩) ∨
    ∃ e, (body t).result = .error e ∧ Step.atomically body t =
      ⟨.error e, Registry.truncate (body t).table (Registry.size t), (body t).events ++
        [.compileFailed e.kind e.owner e.message (Registry.size (body t).table - Registry.size t)]⟩ := by
  unfold Step.atomically
  cases hbody : (body t).result with
  | ok _ =>
    dsimp only
    rw [hbody]
    exact .inl ⟨rfl, rfl⟩
  | error e =>
    dsimp only
    rw [hbody]
    exact .inr ⟨e, rfl, rfl⟩

/-! ## Related steps -/

/-- Two steps have the same result and reports, and leave related registries. -/
structure Step.Related {α : Type} (R : σ → τ → Prop) (s : Step σ α) (s' : Step τ α) : Prop where
  result : s.result = s'.result
  events : s.events = s'.events
  table : R s.table s'.table

namespace Step.Related

variable {α β : Type} {R : σ → τ → Prop} {t : σ} {u : τ}

theorem done (h : R t u) (a : α) : Related R (Step.done a t) (Step.done a u) := ⟨rfl, rfl, h⟩

theorem fail (h : R t u) (e : CompileError) :
    Related R (Step.fail e t : Step σ α) (Step.fail e u) := ⟨rfl, rfl, h⟩

theorem andThen {s : Step σ α} {s' : Step τ α} {f : α → σ → Step σ β} {g : α → τ → Step τ β}
    (hs : Related R s s') (hf : ∀ a {t u}, R t u → Related R (f a t) (g a u)) :
    Related R (s.andThen f) (s'.andThen g) := by
  unfold Step.andThen
  rw [← hs.result]
  cases s.result with
  | error e => exact ⟨rfl, hs.events, hs.table⟩
  | ok a =>
    have hnext := hf a hs.table
    refine ⟨hnext.result, ?_, hnext.table⟩
    show s.events ++ _ = s'.events ++ _
    rw [hs.events, hnext.events]

theorem check (h : R t u) (r : Except CompileError α) {f : α → Step σ β} {g : α → Step τ β}
    (hf : ∀ a, Related R (f a) (g a)) : Related R (Step.check r t f) (Step.check r u g) := by
  cases r with
  | error e => exact fail h e
  | ok a => exact hf a

theorem report {s : Step σ α} {s' : Step τ α} (hs : Related R s s') (event : Event) :
    Related R (s.report event) (s'.report event) :=
  ⟨hs.result, congrArg (event :: ·) hs.events, hs.table⟩

end Step.Related

/-! ## Related registries -/

variable [Registry σ] [Registry τ]

/-- Two attempts to add an entry go the same way. -/
def SameOutcome (R : σ → τ → Prop) (a : Except TableError σ) (b : Except TableError τ) : Prop :=
  (∃ t u, a = .ok t ∧ b = .ok u ∧ R t u) ∨ ∃ e, a = .error e ∧ b = .error e

/-- Related registries answer alike, and stay related as entries are added. -/
structure Registry.Alike (R : σ → τ → Prop) : Prop where
  register : ∀ {t u}, R t u → ∀ e, SameOutcome R (Registry.register t e) (Registry.register u e)
  hasName : ∀ {t u}, R t u → ∀ name, Registry.hasName t name = Registry.hasName u name
  entries : ∀ {t u}, R t u → Registry.entries t = Registry.entries u

/-- Registries stay related when both are cut back. -/
def Registry.AlikeCut (R : σ → τ → Prop) : Prop :=
  ∀ {t u}, R t u → ∀ n, R (Registry.truncate t n) (Registry.truncate u n)

theorem Registry.Alike.size {R : σ → τ → Prop} (h : Registry.Alike R) {t : σ} {u : τ} (htu : R t u) :
    Registry.size t = Registry.size u := by
  rw [Registry.size, h.entries htu, Registry.size]

/-- A program gives the same value on related registries and leaves related registries. -/
def Script.Respects {α : Type} (R : σ → τ → Prop) (p : Script α) : Prop :=
  ∀ {t u}, R t u → (p.run t).1 = (p.run u).1 ∧ R (p.run t).2 (p.run u).2

/-- Every program respects a relation that all operations keep. -/
theorem Registry.Alike.respects {α : Type} {R : σ → τ → Prop} (h : Registry.Alike R)
    (hcut : Registry.AlikeCut R) (p : Script α) : p.Respects R := by
  induction p with
  | done a => exact fun htu => ⟨rfl, htu⟩
  | register e next ih =>
    intro t u htu
    rw [Script.run, Script.run]
    rcases h.register htu e with ⟨t', u', ht, hu, htu'⟩ | ⟨err, ht, hu⟩ <;> rw [ht, hu]
    · exact ih _ htu'
    · exact ih _ htu
  | hasName name next ih =>
    intro t u htu
    rw [Script.run, Script.run, h.hasName htu]
    exact ih _ htu
  | size next ih =>
    intro t u htu
    rw [Script.run, Script.run, h.size htu]
    exact ih _ htu
  | since start next ih =>
    intro t u htu
    rw [Script.run, Script.run, Registry.since, h.entries htu]
    exact ih _ htu
  | truncate n next ih => exact fun htu => ih (hcut htu n)

/-! ## Related compilations -/

section Compile

variable {R : σ → τ → Prop} {t : σ} {u : τ}

theorem Initializer.invokeAll_cons (i : Initializer) (rest : List Initializer) (t : σ) :
    invokeAll (i :: rest) t =
      match (i.callback.run t).1 with
      | .error e => .fail (.initializerFailed i.owner i.name e) (i.callback.run t).2
      | .ok () => (invokeAll rest (i.callback.run t).2).report
        (.initializerRan i.owner i.name (Registry.size (i.callback.run t).2 - Registry.size t)) :=
  rfl

theorem Initializer.invokeAll_related (h : Registry.Alike R) (is : List Initializer)
    (hcall : ∀ i ∈ is, i.callback.Respects R) (htu : R t u) :
    Step.Related R (invokeAll is t) (invokeAll is u) := by
  induction is generalizing t u with
  | nil => exact .done htu ()
  | cons i rest ih =>
    obtain ⟨hvalue, hafter⟩ := hcall i List.mem_cons_self htu
    rw [invokeAll_cons, invokeAll_cons, hvalue]
    cases (i.callback.run u).1 with
    | error e => exact .fail hafter _
    | ok _ =>
      dsimp only
      rw [h.size hafter, h.size htu]
      exact (ih (fun j hj => hcall j (List.mem_cons_of_mem i hj)) hafter).report _

theorem Initializer.runAll_related (h : Registry.Alike R) (is : List Initializer)
    (hcall : ∀ i ∈ is, i.callback.Respects R) (htu : R t u) :
    Step.Related R (runAll is t) (runAll is u) :=
  .check htu _ fun _ => invokeAll_related h is hcall htu

theorem Handler.registerEntry_related (h : Registry.Alike R) (owner : String) (hd : Handler)
    (e : Entry) (htu : R t u) :
    Step.Related R (hd.registerEntry owner e t) (hd.registerEntry owner e u) := by
  rw [registerEntry, registerEntry, h.hasName htu]
  split
  · exact .fail htu _
  · rcases h.register htu e with ⟨t', u', ht, hu, htu'⟩ | ⟨err, ht, hu⟩ <;> rw [ht, hu]
    · exact .done htu' ()
    · exact .fail htu _

theorem Handler.compile_related (h : Registry.Alike R) (c : Config) (owner : String) (hd : Handler)
    (htu : R t u) : Step.Related R (hd.compile c owner t) (hd.compile c owner u) := by
  refine .check htu _ fun d => ?_
  cases d with
  | none => exact .done htu true
  | some d =>
    refine .check htu _ fun verbs => .check htu _ fun e => ?_
    exact ((registerEntry_related h owner hd e htu).andThen fun _ _ _ htu' => .done htu' false).report _

theorem Scope.compileHandlers_related (h : Registry.Alike R) (c : Config) (owner : String)
    (hs : List Handler) (htu : R t u) :
    Step.Related R (compileHandlers c owner hs t) (compileHandlers c owner hs u) := by
  induction hs generalizing t u with
  | nil => exact .done htu 0
  | cons hd rest ih =>
    refine (hd.compile_related h c owner htu).andThen fun skipped _ _ htu' => ?_
    exact (ih htu').andThen fun n _ _ htu'' => .done htu'' _

theorem Scope.compile_related (h : Registry.Alike R) (c : Config) (s : Scope)
    (hcall : ∀ i ∈ s.initializers, i.callback.Respects R) (htu : R t u) :
    Step.Related R (s.compile c t) (s.compile c u) := by
  refine (Initializer.runAll_related h _ hcall htu).andThen fun _ _ _ htu' => ?_
  refine (compileHandlers_related h c _ _ htu').andThen fun skipped _ _ htu'' => ?_
  rw [h.size htu'', h.size htu]
  exact ⟨rfl, rfl, htu''⟩

theorem Scope.compileEach_related (h : Registry.Alike R) (c : Config) (scopes : List Scope)
    (hcall : ∀ s ∈ scopes, ∀ i ∈ s.initializers, i.callback.Respects R) (htu : R t u) :
    Step.Related R (compileEach c scopes t) (compileEach c scopes u) := by
  induction scopes generalizing t u with
  | nil => exact .done htu ()
  | cons s rest ih =>
    refine (s.compile_related h c (hcall s List.mem_cons_self) htu).andThen fun _ _ _ htu' => ?_
    exact ih (fun s' hs' => hcall s' (List.mem_cons_of_mem s hs')) htu'

theorem Step.atomically_related (h : Registry.Alike R) (hcut : Registry.AlikeCut R)
    {body : σ → Step σ Unit} {body' : τ → Step τ Unit} (hbody : Step.Related R (body t) (body' u))
    (htu : R t u) : Step.Related R (Step.atomically body t) (Step.atomically body' u) := by
  have hmark := h.size htu
  rcases Step.atomically_cases body t with ⟨hok, heq⟩ | ⟨e, herr, heq⟩ <;>
    rcases Step.atomically_cases body' u with ⟨hok', heq'⟩ | ⟨e', herr', heq'⟩
  · rw [heq, heq', Registry.since, h.entries hbody.table, hmark]
    exact ⟨rfl, hbody.events, hbody.table⟩
  · cases hok.symm.trans (hbody.result.trans herr')
  · cases herr.symm.trans (hbody.result.trans hok')
  · cases herr.symm.trans (hbody.result.trans herr')
    rw [heq, heq', hbody.events, h.size hbody.table, hmark]
    exact ⟨rfl, rfl, hcut hbody.table _⟩

/-- A compilation does the same on registries that no operation tells apart. -/
theorem Catalog.compileExtent_related (h : Registry.Alike R) (hcut : Registry.AlikeCut R)
    (catalog : Catalog) (c : Config) (x : Catalog.Extent) (htu : R t u) :
    Step.Related R (catalog.compileExtent c t x) (catalog.compileExtent c u x) := by
  rw [compileExtent_eq, compileExtent_eq]
  refine Step.atomically_related h hcut ?_ htu
  exact Scope.compileEach_related h c _ (fun s _ i _ => h.respects hcut i.callback) htu

end Compile

/-! ## What a compilation keeps -/

/-- A property of registries that adding an entry keeps. -/
def Registry.KeptByRegister (P : σ → Prop) : Prop :=
  ∀ {t u e}, P t → Registry.register t e = .ok u → P u

/-- A program keeps a property. -/
def Script.Keeps {α : Type} (P : σ → Prop) (p : Script α) : Prop := ∀ {t}, P t → P (p.run t).2

theorem Registry.KeptByRegister.alike {P : σ → Prop} (h : Registry.KeptByRegister P) :
    Registry.Alike fun t u => t = u ∧ P t where
  register := by
    rintro t _ ⟨rfl, ht⟩ e
    cases hr : Registry.register t e with
    | ok u => exact .inl ⟨u, u, rfl, rfl, rfl, h ht hr⟩
    | error err => exact .inr ⟨err, rfl, rfl⟩
  hasName := by
    rintro t _ ⟨rfl, -⟩ name
    rfl
  entries := by
    rintro t _ ⟨rfl, -⟩
    rfl

theorem Registry.KeptByRegister.registerAll {P : σ → Prop} (h : Registry.KeptByRegister P)
    (es : List Entry) : (Script.registerAll es).Keeps P := by
  induction es with
  | nil => exact fun ht => ht
  | cons e rest ih =>
    intro t ht
    rw [Script.registerAll, Script.run]
    cases hr : Registry.register t e with
    | error err => exact ht
    | ok u => exact ih (h ht hr)

theorem Scope.compileEach_keeps {P : σ → Prop} (h : Registry.KeptByRegister P) (c : Config)
    (scopes : List Scope) (hcall : ∀ s ∈ scopes, ∀ i ∈ s.initializers, i.callback.Keeps P) {t : σ}
    (ht : P t) : P (compileEach c scopes t).table := by
  refine (compileEach_related h.alike c scopes (fun s hs i hi => ?_) ⟨rfl, ht⟩).table.2
  rintro t _ ⟨rfl, ht⟩
  exact ⟨rfl, rfl, hcall s hs i hi ht⟩

/-- What every operation keeps, a program keeps. -/
theorem Script.keeps {α : Type} {P : σ → Prop} (h : Registry.KeptByRegister P)
    (hcut : ∀ {t}, P t → ∀ n, P (Registry.truncate t n)) (p : Script α) : p.Keeps P := by
  refine fun ht => (h.alike.respects ?_ p ⟨rfl, ht⟩).2.2
  rintro t _ ⟨rfl, ht⟩ n
  exact ⟨rfl, hcut ht n⟩

/-- What every operation keeps, a compilation keeps, whatever the callbacks are. -/
theorem Catalog.compileExtent_keeps {P : σ → Prop} (h : Registry.KeptByRegister P)
    (hcut : ∀ {t}, P t → ∀ n, P (Registry.truncate t n)) (catalog : Catalog) (c : Config)
    (x : Catalog.Extent) {t : σ} (ht : P t) : P (catalog.compileExtent c t x).table := by
  refine (compileExtent_related h.alike ?_ catalog c x ⟨rfl, ht⟩).table.2
  rintro t _ ⟨rfl, ht⟩ n
  exact ⟨rfl, hcut ht n⟩

end Routebook
