import Routebook.Proofs.Catalog.Grouping
import Routebook.Proofs.Compile.InTurn
import Routebook.Proofs.Compile.Stages
import Routebook.Proofs.Compile.Validation

/-!
# What a failed compilation reports

A compilation ends at the first thing that is wrong. Which this is can be said without running the compiler:
first all shapes of the initializers count, then their callbacks in order, then the handlers in order, each of
them stage by stage.

* `Handler.Offends` : what is wrong with a handler that is compiled on a table
  (`Handler.compile_error_iff`);
* `Scope.FirstOffence` : the first thing that is wrong in a scope (`Scope.compile_error_iff`);
* `Scope.FirstOffence.attributed` : the error names an item of the owner whose scope it is;
* `Catalog.compile_reports_first` : all this for catalogs.
-/

namespace Routebook

open RouteTable (Reachable Registers WellFormed registers_append)

variable {c : Config} {t u : RouteTable} {err : CompileError}

/-! ## Handlers -/

namespace Handler

variable {h : Handler} {owner : String}

/-- What is wrong with a handler that is compiled on a table in the scope of an owner: something about the
handler by itself, or else what the table refuses its entry for. -/
inductive Offends (c : Config) (owner : String) (t : RouteTable) (h : Handler) : CompileError → Prop
  | flaw {err : CompileError} (hflaw : h.Flaw c err) : h.Offends c owner t err
  | entry {d : Declaration} {e : Entry} {cause : TableError} (hr : h.Routable d)
      (he : c.entry h d h.union = .ok e) (hrefused : e.Refused t.entries cause) :
      h.Offends c owner t (.registration owner h.name cause)

/-- The name that is looked up first is reported as the table would report it. -/
theorem registerEntry_error_iff {e : Entry} : (h.registerEntry owner e t).result = .error err ↔
    ∃ cause, t.register e = .error cause ∧ err = .registration owner h.name cause := by
  unfold registerEntry
  rw [RouteTable.registry_register, RouteTable.registry_hasName]
  cases hname : t.hasName e.name with
  | true =>
    have hrefused : t.register e = .error (.duplicateName e.name) :=
      RouteTable.register_eq_error_iff.2 (.inl ⟨hname, rfl⟩)
    simp [hrefused, Step.fail, eq_comm]
  | false => cases t.register e <;> simp [Step.fail, Step.done, eq_comm]

theorem compile_error_iff (ht : WellFormed t) :
    (h.compile c owner t).result = .error err ↔ h.Offends c owner t err := by
  rw [compile_eq_prepare, Step.check_error_iff, prepare_eq_error_iff]
  constructor
  · rintro (hflaw | ⟨_ | ⟨verbs, e⟩, hmade, herror⟩)
    · exact .flaw hflaw
    · cases herror
    · obtain ⟨d, hr, rfl, he⟩ := prepare_eq_some_iff.1 hmade
      rcases Step.andThen_error_iff.1 herror with herror | ⟨_, _, ⟨⟩⟩
      obtain ⟨cause, hcause, rfl⟩ := registerEntry_error_iff.1 herror
      exact .entry hr he (ht.register_refused_iff.1 hcause)
  · rintro (hflaw | ⟨hr, he, hrefused⟩)
    · exact .inl hflaw
    · refine .inr ⟨_, prepare_eq_some_iff.2 ⟨_, hr, rfl, he⟩, Step.andThen_error_iff.2 (.inl ?_)⟩
      exact registerEntry_error_iff.2 ⟨_, ht.register_refused_iff.2 hrefused, rfl⟩

end Handler

/-! ## Scopes -/

theorem Initializer.RunInTurn.wellFormed {is : List Initializer} {reports : List Event}
    (h : RunInTurn is t reports u) (ht : WellFormed t) : WellFormed u := by
  induction is generalizing t reports with
  | nil => exact h.2 ▸ ht
  | cons i rest ih =>
    obtain ⟨w, more, hrun, -, hrest⟩ := h
    have hw : WellFormed (i.callback.run t).2 :=
      Script.keeps (P := WellFormed) (fun h hr => h.register hr) (fun h n => h.truncate n) i.callback ht
    rw [hrun] at hw
    exact ih hrest hw

namespace Scope

/-- Handlers fail to compile just when one of them does on the table that those in front of it have filled. -/
theorem compileHandlers_error_iff {owner : String} {hs : List Handler} (ht : WellFormed t) :
    (compileHandlers c owner hs t).result = .error err ↔ ∃ before h after, hs = before ++ h :: after ∧
      ∃ u, ((∀ g ∈ before, g.Ready c) ∧ Registers (before.filterMap (Handler.declared c)) t u) ∧
        h.Offends c owner u err := by
  induction hs generalizing t with
  | nil => exact iff_of_false (by rintro ⟨⟩) not_exists_split_nil
  | cons h rest ih =>
    have hcons : (compileHandlers c owner (h :: rest) t).result = .error err ↔ h.Offends c owner t err ∨
        ∃ w, (h.Ready c ∧ Registers (h.declared c).toList t w) ∧
          (compileHandlers c owner rest w).result = .error err := by
      rw [compileHandlers, Step.andThen_error_iff, Handler.compile_error_iff ht]
      refine or_congr_right ⟨?_, ?_⟩
      · rintro ⟨skipped, hok, hrest⟩
        rcases Step.andThen_error_iff.1 hrest with hrest | ⟨_, _, ⟨⟩⟩
        exact ⟨_, Handler.exists_compile_yields_iff.1 ⟨skipped, hok, rfl⟩, hrest⟩
      · rintro ⟨w, hw, hrest⟩
        obtain ⟨skipped, hok, rfl⟩ : ∃ skipped, (h.compile c owner t).Yields skipped w :=
          Handler.exists_compile_yields_iff.2 hw
        exact ⟨skipped, hok, Step.andThen_error_iff.2 (.inl hrest)⟩
    rw [hcons, exists_split_cons]
    simp only [Handler.filterMap_declared_cons, registers_append, List.forall_mem_cons]
    constructor
    · rintro (hhead | ⟨w, ⟨hready, hw⟩, hrest⟩)
      · exact .inl ⟨t, ⟨List.forall_mem_nil _, rfl⟩, hhead⟩
      · obtain ⟨before, g, after, hsplit, u, ⟨hbefore, hu⟩, hg⟩ := (ih (hw.wellFormed ht)).1 hrest
        exact .inr ⟨before, g, after, hsplit, u, ⟨⟨hready, hbefore⟩, w, hw, hu⟩, hg⟩
    · rintro (⟨u, ⟨-, rfl⟩, hhead⟩ | ⟨before, g, after, hsplit, u, ⟨⟨hready, hbefore⟩, w, hw, hu⟩, hg⟩)
      · exact .inl hhead
      · exact .inr ⟨w, ⟨hready, hw⟩, (ih (hw.wellFormed ht)).2 ⟨before, g, after, hsplit, u, ⟨hbefore, hu⟩, hg⟩⟩

/-- The first thing that is wrong when a scope is compiled on a table. -/
inductive FirstOffence (c : Config) (s : Scope) (t : RouteTable) : CompileError → Prop
  /-- An initializer has a wrong shape; the first of them counts, before any callback is run. -/
  | signature {before after : List Initializer} {i : Initializer} {v : Violation}
      (hsplit : s.initializers = before ++ i :: after) (hbefore : ∀ j ∈ before, j.signature = .expected)
      (hv : i.signature.Violates v) : s.FirstOffence c t (.invalidInitializer i.owner i.name v)
  /-- A callback fails on the table that those in front of it have left. -/
  | callback {before after : List Initializer} {i : Initializer} {reports : List Event} {u v : RouteTable}
      {cause : TableError} (hsignatures : ∀ i ∈ s.initializers, i.signature = .expected)
      (hsplit : s.initializers = before ++ i :: after) (hbefore : Initializer.RunInTurn before t reports u)
      (hi : i.callback.run u = (.error cause, v)) :
      s.FirstOffence c t (.initializerFailed i.owner i.name cause)
  /-- A handler is wrong, once all callbacks have run and the handlers in front of it are compiled. -/
  | handler {before after : List Handler} {h : Handler} {reports : List Event} {u w : RouteTable}
      {err : CompileError} (hsignatures : ∀ i ∈ s.initializers, i.signature = .expected)
      (hcallbacks : Initializer.RunInTurn s.initializers t reports u)
      (hsplit : s.handlers = before ++ h :: after) (hready : ∀ g ∈ before, g.Ready c)
      (hbefore : Registers (before.filterMap (Handler.declared c)) u w) (hh : h.Offends c s.owner w err) :
      s.FirstOffence c t err

theorem compile_error_iff {s : Scope} (ht : WellFormed t) :
    (s.compile c t).result = .error err ↔ s.FirstOffence c t err := by
  rw [compile, Step.andThen_error_iff, Initializer.runAll_error_iff, Initializer.checkAll_eq_error_iff,
    Initializer.invokeAll_error_iff]
  constructor
  · rintro ((⟨before, i, after, hsplit, hbefore, v, hv, rfl⟩ |
      ⟨hsignatures, before, i, after, reports, u, cause, v, hsplit, hbefore, hi, rfl⟩) | ⟨⟨⟩, hok, herror⟩)
    · exact .signature hsplit hbefore hv
    · exact .callback hsignatures hsplit hbefore hi
    · obtain ⟨hsignatures, reports, hcallbacks⟩ := Initializer.runAll_iff_inTurn.1 ⟨hok, rfl⟩
      rcases Step.andThen_error_iff.1 herror with herror | ⟨_, _, ⟨⟩⟩
      obtain ⟨before, h, after, hsplit, w, ⟨hready, hbefore⟩, hh⟩ :=
        (compileHandlers_error_iff (hcallbacks.wellFormed ht)).1 herror
      exact .handler hsignatures hcallbacks hsplit hready hbefore hh
  · rintro (⟨hsplit, hbefore, hv⟩ | ⟨hsignatures, hsplit, hbefore, hi⟩ |
      ⟨hsignatures, hcallbacks, hsplit, hready, hbefore, hh⟩)
    · exact .inl (.inl ⟨_, _, _, hsplit, hbefore, _, hv, rfl⟩)
    · exact .inl (.inr ⟨hsignatures, _, _, _, _, _, _, _, hsplit, hbefore, hi, rfl⟩)
    · obtain ⟨hok, htable⟩ := Initializer.runAll_iff_inTurn.2 ⟨hsignatures, _, hcallbacks⟩
      refine .inr ⟨(), hok, Step.andThen_error_iff.2 (.inl ?_)⟩
      rw [htable, compileHandlers_error_iff (hcallbacks.wellFormed ht)]
      exact ⟨_, _, _, hsplit, _, ⟨hready, hbefore⟩, hh⟩

end Scope

/-! ## Names -/

namespace CompileError

/-- The handler that the error is about. -/
def handler? : CompileError → Option String
  | .ambiguousDeclaration _ h _ | .conflictingExclusion _ h _ | .unsupportedVerb _ h _
  | .duplicateDefault _ h _ | .duplicateConstraint _ h _ | .registration _ h _ => some h
  | _ => none

/-- The initializer that the error is about. -/
def initializer? : CompileError → Option String
  | .invalidInitializer _ i _ | .initializerFailed _ i _ => some i
  | _ => none

end CompileError

theorem Handler.Flaw.attributed {h : Handler} (hflaw : h.Flaw c err) :
    err.owner = h.owner ∧ err.handler? = some h.name := by
  cases hflaw <;> exact ⟨rfl, rfl⟩

/-- The error names the owner and an item that is filed under it. -/
theorem Scope.FirstOffence.attributed {catalog : Catalog} (hfiled : catalog.Filed) {o : String}
    (h : (catalog.scope o).FirstOffence c t err) : err.owner = o ∧
      ((∃ i ∈ catalog.initializers o, err.initializer? = some i.name) ∨
        ∃ h ∈ catalog.handlers o, err.handler? = some h.name) := by
  cases h with
  | @signature before after i v hsplit _ _ =>
    have hi : i ∈ (catalog.scope o).initializers := hsplit ▸ List.mem_append_cons_self
    exact ⟨hfiled.initializers o i hi, .inl ⟨i, hi, rfl⟩⟩
  | @callback before after i _ _ _ _ _ hsplit _ _ =>
    have hi : i ∈ (catalog.scope o).initializers := hsplit ▸ List.mem_append_cons_self
    exact ⟨hfiled.initializers o i hi, .inl ⟨i, hi, rfl⟩⟩
  | @handler before after h _ _ _ _ _ _ hsplit _ _ hh =>
    have hmem : h ∈ (catalog.scope o).handlers := hsplit ▸ List.mem_append_cons_self
    cases hh with
    | flaw hflaw =>
      obtain ⟨howner, hname⟩ := hflaw.attributed
      exact ⟨howner.trans (hfiled.handlers o h hmem), .inr ⟨h, hmem, hname⟩⟩
    | entry => exact ⟨catalog.scope_owner o, .inr ⟨h, hmem, rfl⟩⟩

/-! ## Catalogs -/

namespace Catalog

/-- Whatever has been added to a catalog, compiling one owner fails just with the first offence in the scope
of this owner, and compiling all of them just with that in the first scope that does not compile on the table
which those in front of it left. An offence in the scope of an owner names this owner, and an initializer or a
handler that is filed under it. -/
theorem compile_reports_first (additions : List Addition) (c : Config) {t : RouteTable} (ht : Reachable t) :
    let catalog := ofAdditions additions
    (∀ o err, (catalog.compileOnly c o t).result = .error err ↔ (catalog.scope o).FirstOffence c t err) ∧
    (∀ err, (catalog.compile c t).result = .error err ↔ ∃ before o after added u,
      catalog.owners = before ++ o :: after ∧ catalog.CompilesInTurn c before t added u ∧
      (catalog.scope o).FirstOffence c u err) ∧
    ∀ o u err, (catalog.scope o).FirstOffence c u err → err.owner = o ∧
      ((∃ i ∈ catalog.initializers o, err.initializer? = some i.name) ∨
        ∃ h ∈ catalog.handlers o, err.handler? = some h.name) := by
  intro catalog
  have honly : ∀ {u : RouteTable}, WellFormed u → ∀ o err,
      (catalog.compileOnly c o u).result = .error err ↔ (catalog.scope o).FirstOffence c u err := by
    intro u hu o err
    rw [compileOnly, Step.atomically_error_iff, Scope.compile_error_iff hu]
  refine ⟨honly ht.wellFormed, fun err => ?_, fun o u err h => h.attributed (Filed.ofAdditions additions)⟩
  rw [compile, Step.atomically_error_iff, compileEach_error_iff_inTurn]
  constructor
  · rintro ⟨before, o, after, added, u, hsplit, hturn, herror⟩
    have hu := wellFormed_of_compilesInTurn ht.wellFormed hturn
    exact ⟨before, o, after, added, u, hsplit, hturn, (honly hu o err).1 herror⟩
  · rintro ⟨before, o, after, added, u, hsplit, hturn, hfirst⟩
    have hu := wellFormed_of_compilesInTurn ht.wellFormed hturn
    exact ⟨before, o, after, added, u, hsplit, hturn, (honly hu o err).2 hfirst⟩

/-- Behind an owner that compiles, a handler with an unknown token, a default that is there already and a URL
that is no pattern, in front of one that is excluded; and a route that clashes, in front of a wrong shape. -/
theorem compile_reports_first_several :
    let t := RouteTable.empty.replay [.register { name := "home", url := "" }]
    let additions : List Addition := [
      .handler ⟨"A", "fine", [.route { url := "a" }]⟩,
      .handler ⟨"B", "bad", [.optional "owner", .route { url := "\x7b" }, .acceptVerbs ["put", " zap"]]⟩,
      .handler ⟨"B", "worse", [.nonAction, .route { url := "x" }]⟩,
      .initializer (.ofEntries "C" "clash" [{ name := "HOME", url := "x" }]),
      .initializer { owner := "C", name := "shape", signature := ⟨.onInstance, []⟩, callback := .done (.ok ()) }]
    let catalog := ofAdditions additions
    Reachable t ∧ (catalog.scope "B").FirstOffence {} t (.unsupportedVerb "B" "bad" " zap") ∧
      (catalog.scope "C").FirstOffence {} t (.invalidInitializer "C" "shape" (.wrongArity 0)) ∧
      ∃ added u, catalog.CompilesInTurn {} ["A"] t added u ∧
        (catalog.scope "B").FirstOffence {} u (.unsupportedVerb "B" "bad" " zap") := by
  intro t additions catalog
  have ht : Reachable t := ⟨_, rfl⟩
  have hbad : (catalog.compileOnly {} "B" t).result = .error (.unsupportedVerb "B" "bad" " zap") := by
    dsimp only [catalog, additions, t]
    with_unfolding_all rfl
  have hshape : (catalog.compileOnly {} "C" t).result = .error (.invalidInitializer "C" "shape" (.wrongArity 0)) :=
    rfl
  have hcompile : (catalog.compile {} t).result = .error (.unsupportedVerb "B" "bad" " zap") := by
    dsimp only [catalog, additions, t]
    with_unfolding_all rfl
  obtain ⟨honly, hall, hattributed⟩ := compile_reports_first additions {} ht
  obtain ⟨before, o, after, added, u, hsplit, hturn, hfirst⟩ := (hall _).1 hcompile
  obtain ⟨howner, -⟩ := hattributed o u _ hfirst
  obtain rfl : "B" = o := howner
  have howners : catalog.owners = ["A", "B", "C"] := rfl
  obtain rfl : before = ["A"] := by
    rw [howners] at hsplit
    rcases before with _ | ⟨_, _ | ⟨_, _ | ⟨_, before⟩⟩⟩ <;> simp at hsplit ⊢
    exact hsplit.1.symm
  exact ⟨ht, (honly _ _).1 hbad, (honly _ _).1 hshape, added, u, hturn, hfirst⟩

end Catalog

end Routebook
