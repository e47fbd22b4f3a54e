import Mathlib.Algebra.Ring.Nat
import Routebook.Proofs.Catalog.Loading
import Routebook.Proofs.Compile.Stages
import Routebook.Proofs.Compile.Transaction
import Routebook.Proofs.Compile.Validation

/-!
# What the reports add up to

The reports of a compilation count entries: each initializer what it has added, each scope what was added in
all, and a failure what is cut off again. The counts are taken at different points, as differences of lengths.

* `Initializer.GrowInTurn`, `Scope.GrowInTurn` : no callback that is run leaves a shorter table than it found;
* `Account` : the reports of a scope that compiles; `Account.Balanced` : they add up;
* `Handler.compile_cases`, `Scope.compileHandlers_cases`, `Scope.compile_cases`, `Scope.compileEach_cases` :
  the parts of a compilation, each of which is accounted for or fails;
* `Catalog.compile_accounts` : so is the whole.
-/

namespace Routebook

open RouteTable (Reachable WellFormed registry_size)

/-! ## Reports about items -/

namespace Event

/-- How many entries were added according to the report. -/
def routesAdded : Event → Nat
  | .initializerRan _ _ n | .scopeCompiled _ _ _ _ n => n
  | _ => 0

/-- The report is about an item of a scope: an initializer or a handler. -/
def IsItem : Event → Prop
  | .initializerRan .. | .routeCompiled .. => True
  | _ => False

end Event

namespace Step

variable {α β : Type} {t : RouteTable} {s : Step RouteTable α} {f : α → RouteTable → Step RouteTable β}

theorem andThen_of_ok {a : α} (h : s.result = .ok a) (f : α → RouteTable → Step RouteTable β) :
    s.andThen f = ⟨(f a s.table).result, (f a s.table).table, s.events ++ (f a s.table).events⟩ := by
  rw [andThen, h]

theorem andThen_of_error {err : CompileError} (h : s.result = .error err) (f : α → RouteTable → Step RouteTable β) :
    s.andThen f = ⟨.error err, s.table, s.events⟩ := by
  rw [andThen, h]

/-- The step fails. Its reports are about items, and it has not made the table shorter. -/
def BreaksOff (t : RouteTable) (s : Step RouteTable α) : Prop :=
  ∃ err, s.result = .error err ∧ (∀ e ∈ s.events, e.IsItem) ∧ t.size ≤ s.table.size

theorem breaksOff_fail (err : CompileError) (t : RouteTable) : (fail err t : Step RouteTable α).BreaksOff t :=
  ⟨err, rfl, List.forall_mem_nil _, Nat.le_refl _⟩

theorem BreaksOff.andThen (h : s.BreaksOff t) (f : α → RouteTable → Step RouteTable β) :
    (s.andThen f).BreaksOff t := by
  obtain ⟨err, herror, h⟩ := h
  rw [andThen_of_error herror]
  exact ⟨err, rfl, h⟩

theorem BreaksOff.behind {a : α} (hok : s.result = .ok a) (h : (f a s.table).BreaksOff s.table)
    (hitems : ∀ e ∈ s.events, e.IsItem) (hle : t.size ≤ s.table.size) : (s.andThen f).BreaksOff t := by
  obtain ⟨err, herror, hrest, hgrows⟩ := h
  rw [andThen_of_ok hok]
  exact ⟨err, herror, List.forall_mem_append.2 ⟨hitems, hrest⟩, Nat.le_trans hle hgrows⟩

end Step

/-! ## Initializers -/

namespace Initializer

/-- No callback that is run leaves a shorter table than it found. They are run in order, each on the table that
the one before it left, up to the first that fails. -/
def GrowInTurn : List Initializer → RouteTable → Prop
  | [], _ => True
  | i :: rest, t => t.size ≤ (i.callback.run t).2.size ∧
      ((i.callback.run t).1 = .ok () → GrowInTurn rest (i.callback.run t).2)

/-- The report that an initializer ran. -/
def RanAs (i : Initializer) (e : Event) : Prop := ∃ n, e = .initializerRan i.owner i.name n

variable {is before after : List Initializer} {i : Initializer} {t u v : RouteTable} {reports : List Event}

theorem growInTurn_append (h : RunInTurn before t reports u) :
    GrowInTurn (before ++ after) t ↔ GrowInTurn before t ∧ GrowInTurn after u := by
  induction before generalizing t reports with
  | nil =>
    obtain ⟨-, rfl⟩ := h
    exact (and_iff_right trivial).symm
  | cons j rest ih =>
    obtain ⟨w, more, hrun, -, hrest⟩ := h
    simp only [List.cons_append, GrowInTurn, hrun, true_implies, ih hrest, and_assoc]

theorem growInTurn_of_forall (h : ∀ i ∈ is, ∀ u : RouteTable, u.size ≤ (i.callback.run u).2.size) :
    GrowInTurn is t := by
  induction is generalizing t with
  | nil => trivial
  | cons i rest ih =>
    rw [List.forall_mem_cons] at h
    exact ⟨h.1 t, fun _ => ih h.2⟩

/-- Each callback is reported, and together the reports say how much longer the table has become. -/
theorem RunInTurn.account (h : RunInTurn is t reports u) (hgrow : GrowInTurn is t) :
    List.Forall₂ RanAs is reports ∧ u.size = t.size + (reports.map Event.routesAdded).sum := by
  induction is generalizing t reports with
  | nil =>
    obtain ⟨rfl, rfl⟩ := h
    exact ⟨.nil, rfl⟩
  | cons i rest ih =>
    obtain ⟨w, more, hrun, rfl, hrest⟩ := h
    rw [GrowInTurn, hrun] at hgrow
    obtain ⟨hran, hsize⟩ := ih hrest (hgrow.2 rfl)
    refine ⟨.cons ⟨_, rfl⟩ hran, ?_⟩
    have hle : t.size ≤ w.size := hgrow.1
    rw [hsize, List.map_cons, List.sum_cons, Event.routesAdded, registry_size, registry_size]
    omega

theorem RanAs.isItem {e : Event} (h : i.RanAs e) : e.IsItem := by
  obtain ⟨n, rfl⟩ := h
  trivial

/-- Initializers that are checked and run either all run, and their reports say how much longer the table has
become; or something fails, and the table is at least not shorter. -/
theorem runAll_cases (hgrow : (∀ i ∈ is, i.signature = .expected) → GrowInTurn is t) :
    (runAll is t).BreaksOff t ∨
    ∃ reports u, runAll is t = ⟨.ok (), u, reports⟩ ∧ List.Forall₂ RanAs is reports ∧
      u.size = t.size + (reports.map Event.routesAdded).sum := by
  cases hcheck : checkAll is with
  | error err =>
    rw [runAll, hcheck]
    exact .inl (Step.breaksOff_fail err t)
  | ok _ =>
    have hsignatures := checkAll_eq_ok_iff.1 hcheck
    replace hgrow := hgrow hsignatures
    rw [runAll_of_expected hsignatures]
    rcases runInTurn_or_fails is t with
      ⟨reports, u, hrun⟩ | ⟨before, i, after, reports, u, err, v, rfl, hrun, hi⟩
    · exact .inr ⟨reports, u, invokeAll_of_runInTurn hrun, hrun.account hgrow⟩
    · obtain ⟨hfront, hrest⟩ := (growInTurn_append hrun).1 hgrow
      obtain ⟨hran, hsize⟩ := hrun.account hfront
      have hle : u.size ≤ v.size := by
        have hlast := hrest.1
        rwa [hi] at hlast
      rw [invokeAll_of_fails hrun hi]
      exact .inl ⟨_, rfl, forall_mem_of_forall₂ hran fun _ _ h => h.isItem, by show t.size ≤ v.size; omega⟩

end Initializer

/-! ## Handlers -/

namespace Handler

variable {c : Config} {owner : String} {t : RouteTable}

def declares (h : Handler) : Bool := !h.declarations.isEmpty

/-- The report that the route of a handler was made. -/
def CompiledAs (h : Handler) (owner : String) (e : Event) : Prop :=
  ∃ name url verbs, e = .routeCompiled owner h.name name url verbs

theorem CompiledAs.isItem {h : Handler} {e : Event} (he : h.CompiledAs owner e) : e.IsItem := by
  obtain ⟨name, url, verbs, rfl⟩ := he
  trivial

/-- A handler fails, though its route may have been reported; or it declares nothing and is skipped; or its
route is reported and registered. -/
theorem compile_cases (c : Config) (owner : String) (h : Handler) (t : RouteTable) :
    (h.compile c owner t).BreaksOff t ∨
    (h.declares = false ∧ h.compile c owner t = .done true t) ∨
    ∃ report u, h.declares = true ∧ h.CompiledAs owner report ∧
      h.compile c owner t = ⟨.ok false, u, [report]⟩ ∧ u.size = t.size + 1 := by
  rw [compile_eq_prepare]
  cases hprepare : h.prepare c with
  | error err => exact .inl (Step.breaksOff_fail err t)
  | ok made =>
    cases made with
    | none =>
      have hnone := prepare_eq_none_iff.1 hprepare
      exact .inr (.inl ⟨by rw [declares, hnone]; rfl, rfl⟩)
    | some made =>
      obtain ⟨verbs, e⟩ := made
      obtain ⟨d, hr, -, -⟩ := prepare_eq_some_iff.1 hprepare
      have hdeclares : h.declares = true := by rw [declares, hr.declarations]; rfl
      have hitem : ∀ r ∈ [Event.routeCompiled owner h.name e.name e.url verbs.label], r.IsItem :=
        List.forall_mem_singleton.2 trivial
      dsimp only [Step.check, registerEntry]
      cases Registry.hasName t e.name with
      | true => exact .inl ⟨_, rfl, hitem, Nat.le_refl _⟩
      | false =>
        cases hregister : Registry.register t e with
        | error err => exact .inl ⟨_, rfl, hitem, Nat.le_refl _⟩
        | ok u =>
          exact .inr (.inr ⟨_, u, hdeclares, ⟨_, _, _, rfl⟩, rfl, RouteTable.size_of_register hregister⟩)

end Handler

/-! ## Scopes -/

/-- What a scope that compiles reports: its initializers, its handlers, how many of these were skipped, and how
many entries were added in all. -/
structure Account where
  scope : Scope
  ran : List Event
  compiled : List Event
  skipped : Nat
  added : Nat

namespace Account

/-- The report about the scope as a whole. -/
def total (a : Account) : Event :=
  .scopeCompiled a.scope.owner a.scope.initializers.length a.scope.handlers.length a.skipped a.added

def reports (a : Account) : List Event := a.ran ++ a.compiled ++ [a.total]

/-- Every initializer ran, and every handler either had its route compiled or was skipped. The entries added
are one for each compiled route and those that the initializers have added. -/
structure Balanced (a : Account) : Prop where
  ran : List.Forall₂ Initializer.RanAs a.scope.initializers a.ran
  compiled : List.Forall₂ (fun h e => h.CompiledAs a.scope.owner e) (a.scope.handlers.filter Handler.declares)
    a.compiled
  handlers : a.compiled.length + a.skipped = a.scope.handlers.length
  added : a.added = a.compiled.length + (a.ran.map Event.routesAdded).sum

end Account

namespace Scope

variable {c : Config} {t : RouteTable}

/-- Handlers fail, or each of them has its route reported and registered or is skipped. -/
theorem compileHandlers_cases (c : Config) (owner : String) (hs : List Handler) (t : RouteTable) :
    (compileHandlers c owner hs t).BreaksOff t ∨
    ∃ skipped u reports, compileHandlers c owner hs t = ⟨.ok skipped, u, reports⟩ ∧
      List.Forall₂ (fun h e => h.CompiledAs owner e) (hs.filter Handler.declares) reports ∧
      reports.length + skipped = hs.length ∧ u.size = t.size + reports.length := by
  induction hs generalizing t with
  | nil => exact .inr ⟨0, t, [], rfl, .nil, rfl, rfl⟩
  | cons h rest ih =>
    rw [compileHandlers]
    rcases h.compile_cases c owner t with
      hbreaks | ⟨hnone, hskip⟩ | ⟨report, u, hdeclares, hreport, hcompile, hsize⟩
    · exact .inl (hbreaks.andThen _)
    · rw [hskip, List.filter_cons_of_neg (by simp [hnone])]
      rcases ih t with hbreaks | ⟨skipped, v, reports, hrest, heach, hlength, hsizeRest⟩
      · exact .inl (.behind rfl (hbreaks.andThen _) (List.forall_mem_nil _) (Nat.le_refl _))
      · rw [Step.andThen_of_ok rfl]
        dsimp only [Step.done]
        rw [hrest, Step.andThen_of_ok rfl]
        refine .inr ⟨skipped + 1, v, reports, by simp, heach, ?_, hsizeRest⟩
        rw [List.length_cons, ← hlength, Nat.add_assoc]
    · rw [hcompile, List.filter_cons_of_pos hdeclares]
      rcases ih u with hbreaks | ⟨skipped, v, reports, hrest, heach, hlength, hsizeRest⟩
      · have hle : t.size ≤ u.size := by omega
        exact .inl (.behind rfl (hbreaks.andThen _) (List.forall_mem_singleton.2 hreport.isItem) hle)
      · rw [Step.andThen_of_ok rfl]
        dsimp only
        rw [hrest, Step.andThen_of_ok rfl]
        refine .inr ⟨skipped, v, report :: reports, by simp [Step.done], .cons hreport heach, ?_, ?_⟩
        · rw [List.length_cons, List.length_cons]
          omega
        · rw [List.length_cons]
          omega

/-- A scope fails, or it has an account that is balanced and says how much longer the table has become. -/
theorem compile_cases {s : Scope}
    (hgrow : (∀ i ∈ s.initializers, i.signature = .expected) → Initializer.GrowInTurn s.initializers t) :
    (s.compile c t).BreaksOff t ∨
    ∃ (a : Account) (u : RouteTable), s.compile c t = ⟨.ok (), u, a.reports⟩ ∧ a.scope = s ∧ a.Balanced ∧
      u.size = t.size + a.added := by
  rw [compile]
  rcases Initializer.runAll_cases hgrow with hbreaks | ⟨ran, u, hrun, hran, hsize⟩
  · exact .inl (hbreaks.andThen _)
  · rw [hrun]
    have hle : t.size ≤ u.size := by omega
    have hitems : ∀ e ∈ ran, e.IsItem := forall_mem_of_forall₂ hran fun _ _ h => h.isItem
    rcases compileHandlers_cases c s.owner s.handlers u with
      hbreaks | ⟨skipped, v, compiled, hcompiled, heach, hlength, hsizeHandlers⟩
    · exact .inl (.behind rfl (hbreaks.andThen _) hitems hle)
    · rw [Step.andThen_of_ok rfl]
      dsimp only
      rw [hcompiled, Step.andThen_of_ok rfl]
      refine .inr ⟨⟨s, ran, compiled, skipped, v.size - t.size⟩, v, ?_, rfl, ⟨hran, heach, hlength, ?_⟩, ?_⟩
      · simp only [Account.reports, Account.total, registry_size, List.append_assoc]
      · show v.size - t.size = compiled.length + (ran.map Event.routesAdded).sum
        omega
      · show v.size = t.size + (v.size - t.size)
        omega

/-- No callback that is run leaves a shorter table than it found. Scopes are compiled in order, up to the first
that fails, and run their callbacks only if all of these have the expected shape. -/
def GrowInTurn (c : Config) : List Scope → RouteTable → Prop
  | [], _ => True
  | s :: rest, t =>
    ((∀ i ∈ s.initializers, i.signature = .expected) → Initializer.GrowInTurn s.initializers t) ∧
      ((s.compile c t).result = .ok () → GrowInTurn c rest (s.compile c t).table)

/-- Scopes compile one after the other; each has its account, and together these say how much longer the table
has become. -/
structure Settled (c : Config) (scopes : List Scope) (t : RouteTable) (accounts : List Account) (u : RouteTable) :
    Prop where
  compiled : compileEach c scopes t = ⟨.ok (), u, accounts.flatMap Account.reports⟩
  scopes : accounts.map Account.scope = scopes
  balanced : ∀ a ∈ accounts, a.Balanced
  size : u.size = t.size + (accounts.map Account.added).sum

theorem Settled.nil : Settled c [] t [] t := ⟨rfl, rfl, nofun, rfl⟩

theorem compileEach_cons_of_ok {s : Scope} {u : RouteTable} {reports : List Event}
    (h : s.compile c t = ⟨.ok (), u, reports⟩) (rest : List Scope) : compileEach c (s :: rest) t =
      ⟨(compileEach c rest u).result, (compileEach c rest u).table, reports ++ (compileEach c rest u).events⟩ := by
  rw [compileEach, h, Step.andThen_of_ok rfl]

theorem Settled.cons {a : Account} {u v : RouteTable} {rest : List Scope} {accounts : List Account}
    (ha : a.Balanced) (hcompile : a.scope.compile c t = ⟨.ok (), u, a.reports⟩) (hsize : u.size = t.size + a.added)
    (h : Settled c rest u accounts v) : Settled c (a.scope :: rest) t (a :: accounts) v where
  compiled := by
    rw [compileEach_cons_of_ok hcompile, h.compiled]
    rfl
  scopes := by rw [List.map_cons, h.scopes]
  balanced := List.forall_mem_cons.2 ⟨ha, h.balanced⟩
  size := by rw [List.map_cons, List.sum_cons, h.size, hsize, Nat.add_assoc]

/-- Either all scopes have their accounts, or one of them fails behind others that have theirs. -/
theorem compileEach_cases {scopes : List Scope} (hgrow : GrowInTurn c scopes t) :
    (∃ accounts u, Settled c scopes t accounts u) ∨
    ∃ before s after accounts u err w reports, scopes = before ++ s :: after ∧ Settled c before t accounts u ∧
      s.compile c u = ⟨.error err, w, reports⟩ ∧ (∀ e ∈ reports, e.IsItem) ∧ u.size ≤ w.size ∧
      compileEach c scopes t = ⟨.error err, w, accounts.flatMap Account.reports ++ reports⟩ := by
  induction scopes generalizing t with
  | nil => exact .inl ⟨[], t, .nil⟩
  | cons s rest ih =>
    rcases compile_cases (c := c) hgrow.1 with ⟨err, herror, hitems, hle⟩ | ⟨a, u, hcompile, rfl, ha, hsize⟩
    · refine .inr ⟨[], s, rest, [], t, err, _, _, rfl, .nil, ?_, hitems, hle, ?_⟩
      · rw [← herror]
      · rw [compileEach, Step.andThen_of_error herror]
        rfl
    · have hrest := hgrow.2
      rw [hcompile] at hrest
      rcases ih (hrest rfl) with ⟨accounts, v, hsettled⟩ |
        ⟨before, s, after, accounts, v, err, w, reports, rfl, hsettled, hs, hitems, hle, hall⟩
      · exact .inl ⟨a :: accounts, v, hsettled.cons ha hcompile hsize⟩
      · refine .inr ⟨_, s, after, _, v, err, w, reports, rfl, hsettled.cons ha hcompile hsize, hs, hitems, hle, ?_⟩
        rw [compileEach_cons_of_ok hcompile, hall, List.flatMap_cons, List.append_assoc]

theorem growInTurn_of_forall {scopes : List Scope}
    (h : ∀ s ∈ scopes, ∀ i ∈ s.initializers, ∀ u : RouteTable, u.size ≤ (i.callback.run u).2.size) :
    GrowInTurn c scopes t := by
  induction scopes generalizing t with
  | nil => trivial
  | cons s rest ih =>
    rw [List.forall_mem_cons] at h
    exact ⟨fun _ => Initializer.growInTurn_of_forall h.1, fun _ => ih h.2⟩

end Scope

/-! ## Catalogs -/

namespace Account

variable {p : Event → Bool}

theorem filter_items (hp : ∀ e : Event, e.IsItem → p e = false) {reports : List Event}
    (h : ∀ e ∈ reports, e.IsItem) : reports.filter p = [] :=
  List.filter_eq_nil_iff.2 fun e he => by rw [hp e (h e he)]; exact Bool.false_ne_true

/-- Of the reports of a scope, only the last one is not about an item. -/
theorem Balanced.filter_reports {a : Account} (h : a.Balanced) (hp : ∀ e : Event, e.IsItem → p e = false) :
    a.reports.filter p = [a.total].filter p := by
  have hran := filter_items hp (forall_mem_of_forall₂ h.ran fun _ _ h => h.isItem)
  have hcompiled := filter_items hp (forall_mem_of_forall₂ h.compiled fun _ _ h => h.isItem)
  rw [reports, List.filter_append, List.filter_append, hran, hcompiled, List.nil_append, List.nil_append]

theorem filter_flatMap_reports {accounts : List Account} (h : ∀ a ∈ accounts, a.Balanced)
    (hp : ∀ e : Event, e.IsItem → p e = false) :
    (accounts.flatMap reports).filter p = (accounts.map total).filter p := by
  induction accounts with
  | nil => rfl
  | cons a rest ih =>
    rw [List.forall_mem_cons] at h
    rw [List.flatMap_cons, List.filter_append, h.1.filter_reports hp, ih h.2, ← List.filter_append]
    rfl

end Account

namespace Catalog

/-- Where no callback leaves a shorter table than it found, the reports of a compilation account for every
entry. If it succeeds, each scope has its account, and together they add up to the entries that are given. If it
fails, the scopes in front of the one that fails have their accounts, and the last report, the only one of its
kind, says how much longer the table had become: by what was added in those scopes and by what was added in the
one that fails. These are the entries that had been appended, if the table was never shorter than at first. -/
theorem compile_accounts (catalog : Catalog) (c : Config) (x : Extent) {t : RouteTable} (ht : Reachable t)
    (hgrow : Scope.GrowInTurn c (catalog.scopesOf x) t) :
    (∀ es, (catalog.compileExtent c t x).result = .ok es →
      ∃ accounts, Scope.Settled c (catalog.scopesOf x) t accounts (catalog.compileExtent c t x).table ∧
        (catalog.compileExtent c t x).events = accounts.flatMap Account.reports ∧
        (catalog.compileExtent c t x).events.filter (·.message = "Compiled owner scope") =
          accounts.map Account.total ∧
        (accounts.map Account.added).sum = es.length) ∧
    ∀ err, (catalog.compileExtent c t x).result = .error err →
      ∃ before s after accounts u w reports discarded, catalog.scopesOf x = before ++ s :: after ∧
        Scope.Settled c before t accounts u ∧ s.compile c u = ⟨.error err, w, reports⟩ ∧
        (∀ e ∈ reports, e.IsItem) ∧ u.size ≤ w.size ∧
        (catalog.compileExtent c t x).events = accounts.flatMap Account.reports ++ reports ++
          [.compileFailed err.kind err.owner err.message discarded] ∧
        (catalog.compileExtent c t x).events.filter (·.message = "Route compilation failed; table rolled back") =
          [.compileFailed err.kind err.owner err.message discarded] ∧
        w.size = t.size + discarded ∧ discarded = (accounts.map Account.added).sum + (w.size - u.size) ∧
        ((∀ v ∈ catalog.moments c t x, t.size ≤ v.size) →
          ∃ appended, w.entries = t.entries ++ appended ∧ appended.length = discarded) := by
  rw [compileExtent_eq]
  rcases Scope.compileEach_cases hgrow with ⟨accounts, u, hsettled⟩ |
    ⟨before, s, after, accounts, u, err, w, reports, hsplit, hsettled, hs, hitems, hle, hbody⟩
  · have hwhole : Step.atomically (Scope.compileEach c (catalog.scopesOf x)) t =
        ⟨.ok (Registry.since u (Registry.size t)), u, accounts.flatMap Account.reports⟩ := by
      rw [Step.atomically, hsettled.compiled]
    rw [hwhole]
    refine ⟨fun es hes => ⟨accounts, hsettled, rfl, ?_, ?_⟩, nofun⟩
    · rw [Account.filter_flatMap_reports hsettled.balanced (by rintro ⟨⟩ ⟨⟩ <;> rfl), List.filter_eq_self.2]
      exact List.forall_mem_map.2 fun _ _ => rfl
    · cases hes
      show _ = (u.entries.drop _).length
      rw [List.length_drop, registry_size, RouteTable.length_entries, hsettled.size, Nat.add_sub_cancel_left]
  · have hsize := hsettled.size
    have hwhole : Step.atomically (Scope.compileEach c (catalog.scopesOf x)) t =
        ⟨.error err, Registry.truncate w t.size, accounts.flatMap Account.reports ++ reports ++
          [.compileFailed err.kind err.owner err.message (w.size - t.size)]⟩ := by
      simp only [Step.atomically, hbody, registry_size]
    rw [hwhole]
    refine ⟨nofun, fun err' herr => ?_⟩
    cases herr
    refine ⟨before, s, after, accounts, u, w, reports, w.size - t.size, hsplit, hsettled, hs, hitems, hle, rfl,
      ?_, by omega, by omega, fun hlong => ?_⟩
    · rw [List.filter_append, List.filter_append,
        Account.filter_flatMap_reports hsettled.balanced (by rintro ⟨⟩ ⟨⟩ <;> rfl),
        Account.filter_items (by rintro ⟨⟩ ⟨⟩ <;> rfl) hitems, List.filter_eq_nil_iff.2]
      · rfl
      · exact List.forall_mem_map.2 fun _ _ => Bool.false_ne_true
    · obtain ⟨-, hkeep⟩ := catalog.moments_intact c x ht.wellFormed (List.prefix_refl t.entries)
      have hmoment := catalog.compileEach_mem_moments c t x
      rw [RouteTable.length_entries] at hkeep
      rw [hbody] at hmoment
      obtain ⟨appended, happended⟩ := hkeep hlong w hmoment
      refine ⟨appended, happended.symm, ?_⟩
      rw [← RouteTable.length_entries, ← RouteTable.length_entries, ← happended, List.length_append,
        Nat.add_sub_cancel_left]

/-- An initializer and a handler of one owner, and the same with another owner whose handler clashes behind an
initializer of its own. -/
theorem compile_accounts_two :
    let t := RouteTable.empty.replay [.register { name := "home", url := "" }]
    let fine := ((Catalog.empty.addInitializer (.ofEntries "A" "i" [{ name := "a", url := "a" },
      { name := "b", url := "b" }])).addHandler ⟨"A", "h", [.route { url := "c" }]⟩).addHandler (.plain "A" "p")
    let clash := (fine.addInitializer (.ofEntries "B" "i" [{ name := "d", url := "d" }])).addHandler
      ⟨"B", "h", [.route { url := "e", name := some "HOME" }]⟩
    Reachable t ∧ Scope.GrowInTurn {} (fine.scopesOf .all) t ∧ Scope.GrowInTurn {} (clash.scopesOf .all) t ∧
      (∃ es accounts, (fine.compileExtent {} t .all).result = .ok es ∧
        Scope.Settled {} (fine.scopesOf .all) t accounts (fine.compileExtent {} t .all).table ∧
        accounts.map Account.total = [.scopeCompiled "A" 1 2 1 3] ∧ (accounts.map Account.added).sum = es.length) ∧
      ∃ before s after accounts u, ∃ w : RouteTable, clash.scopesOf .all = before ++ s :: after ∧
        Scope.Settled {} before t accounts u ∧ w.size = t.size + 4 ∧
        4 = (accounts.map Account.added).sum + (w.size - u.size) := by
  intro t fine clash
  have ht : Reachable t := ⟨_, rfl⟩
  have hgrows : ∀ (es : List Entry) (u : RouteTable), u.size ≤ ((Script.registerAll es).run u).2.size := by
    intro es u
    have hkept : Registry.KeptByRegister fun v : RouteTable => u.size ≤ v.size := by
      intro v w e hv hr
      rw [RouteTable.size_of_register hr]
      exact Nat.le_succ_of_le hv
    exact hkept.registerAll es (Nat.le_refl _)
  have hfine : Scope.GrowInTurn {} (fine.scopesOf .all) t := by
    refine Scope.growInTurn_of_forall fun s hs i hi => ?_
    obtain rfl := List.mem_singleton.1 hs
    obtain rfl := List.mem_singleton.1 hi
    exact hgrows _
  have hclash : Scope.GrowInTurn {} (clash.scopesOf .all) t := by
    refine Scope.growInTurn_of_forall fun s hs i hi => ?_
    rcases List.mem_pair.1 hs with rfl | rfl <;> obtain rfl := List.mem_singleton.1 hi <;> exact hgrows _
  have hok : (fine.compileExtent {} t .all).result.isOk = true := by
    dsimp only [fine, t]
    decide +kernel
  have htotal : (fine.compileExtent {} t .all).events.filter (·.message = "Compiled owner scope") =
      [.scopeCompiled "A" 1 2 1 3] := by
    dsimp only [fine, t]
    with_unfolding_all rfl
  have herror : (clash.compileExtent {} t .all).result = .error (.registration "B" "h" (.duplicateName "HOME")) := by
    dsimp only [clash, fine, t]
    with_unfolding_all rfl
  have hlast : (clash.compileExtent {} t .all).events.getLast? = some (.compileFailed "Registration" "B"
      (CompileError.registration "B" "h" (.duplicateName "HOME")).message 4) := by
    dsimp only [clash, fine, t]
    with_unfolding_all rfl
  refine ⟨ht, hfine, hclash, ?_, ?_⟩
  · cases hr : (fine.compileExtent {} t .all).result with
    | error err =>
      rw [hr] at hok
      cases hok
    | ok es =>
      obtain ⟨accounts, hsettled, -, hreports, hsum⟩ := (compile_accounts fine {} .all ht hfine).1 es hr
      exact ⟨es, accounts, rfl, hsettled, hreports.symm.trans htotal, hsum⟩
  · obtain ⟨before, s, after, accounts, u, w, reports, discarded, hsplit, hsettled, -, -, -, hevents, -, hsize,
      hdiscarded, -⟩ := (compile_accounts clash {} .all ht hclash).2 _ herror
    rw [hevents, List.getLast?_append] at hlast
    obtain rfl : discarded = 4 := by simpa [CompileError.kind, CompileError.owner] using hlast
    exact ⟨before, s, after, accounts, u, w, hsplit, hsettled, hsize, hdiscarded⟩

end Catalog

end Routebook
