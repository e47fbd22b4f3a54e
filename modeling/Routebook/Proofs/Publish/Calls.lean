import Mathlib.Data.List.Induction
import Routebook.Proofs.Compile.InTurn
import Routebook.Publish.Basic

/-!
# Calls that publish

A call loads a catalog, compiles it from the empty table, and puts the table in the place of the shared
one. It does so whatever was published before.

* `PublishCall` : what is published; `PublishCall.Builds` : the table that this gives from the empty
  table, and `PublishCall.outcome_eq_ok_iff` : when it succeeds;
* `SharedTable.publishAll_built` : calls one after the other leave what the last successful one builds;
* `Scope.compileEach_append`, `Scope.exists_of_compileEach_error` : a compilation cut between two scopes,
  and at the one that fails.
-/

namespace Routebook

/-! ## Calls -/

/-- A call that publishes a catalog, or a catalog file as the files are when it is read. -/
inductive PublishCall where
  | catalog (c : Catalog) (config : Config)
  | file (files : Files) (path : String) (config : Config) (ms : Matchers)

namespace PublishCall

/-- The configuration of the call. -/
def config : PublishCall → Config
  | catalog _ config => config
  | file _ _ config _ => config

/-- The catalog of the call, which a file may fail to give. -/
def loaded : PublishCall → Except Failure Catalog
  | catalog c _ => .ok c
  | file files path _ ms => Catalog.load files path ms

/-- What the call gives. -/
def outcome : PublishCall → Outcome RouteTable
  | catalog c config => c.publication config
  | file files path config ms => publicationOfFile files path config ms

/-- The catalog of the call compiles from the empty table, to this table. -/
def Builds (p : PublishCall) (t : RouteTable) : Prop :=
  ∃ c added, p.loaded = .ok c ∧ (c.compile p.config RouteTable.empty).Yields added t

/-- The compilation of the catalog's scopes from the empty table. -/
def compilation (p : PublishCall) (c : Catalog) : Step RouteTable Unit :=
  Scope.compileEach p.config (c.owners.map c.scope) RouteTable.empty

variable {p : PublishCall} {c : Catalog} {t : RouteTable} {f : Failure}

theorem builds_iff_compilation (h : p.loaded = .ok c) :
    p.Builds t ↔ (p.compilation c).Yields () t := by
  constructor
  · rintro ⟨c', added, hc', hyields⟩
    obtain rfl := Except.ok.inj (h.symm.trans hc')
    exact (Step.atomically_yields_iff.1 hyields).1
  · intro hyields
    exact ⟨c, _, h, Step.atomically_yields_iff.2 ⟨hyields, rfl⟩⟩

theorem publication_eq_ok_iff {config : Config} : (c.publication config).result = .ok t ↔
    ∃ added, (c.compile config RouteTable.empty).Yields added t := by
  unfold Catalog.publication Catalog.freshTable Outcome.andThen Step.Yields
  cases h : (c.compile config RouteTable.empty).result <;> simp [h]

theorem publication_eq_error_iff {config : Config} : (c.publication config).result = .error f ↔
    ∃ e, (c.compile config RouteTable.empty).result = .error e ∧ f = ⟨[.publishing], .compile e⟩ := by
  unfold Catalog.publication Catalog.freshTable Outcome.andThen
  cases h : (c.compile config RouteTable.empty).result <;> simp [h, eq_comm]

theorem outcome_of_loaded (h : p.loaded = .ok c) : p.outcome = c.publication p.config := by
  cases p with
  | catalog c' config =>
    obtain rfl := Except.ok.inj h
    rfl
  | file files path config ms =>
    show publicationOfFile files path config ms = _
    rw [publicationOfFile, show Catalog.load files path ms = .ok c from h]
    rfl

theorem outcome_of_not_loaded (h : p.loaded = .error f) : p.outcome.result = .error f := by
  cases p with
  | catalog c config => cases h
  | file files path config ms =>
    show (publicationOfFile files path config ms).result = _
    rw [publicationOfFile, show Catalog.load files path ms = .error f from h]
    rfl

theorem outcome_eq_ok_iff : p.outcome.result = .ok t ↔ p.Builds t := by
  cases h : p.loaded with
  | error f =>
    rw [outcome_of_not_loaded h]
    constructor
    · rintro ⟨⟩
    · rintro ⟨c, _, hc, -⟩
      cases h.symm.trans hc
  | ok c =>
    rw [outcome_of_loaded h, publication_eq_ok_iff]
    constructor
    · rintro ⟨added, hyields⟩
      exact ⟨c, added, h, hyields⟩
    · rintro ⟨c', added, hc', hyields⟩
      obtain rfl := Except.ok.inj (h.symm.trans hc')
      exact ⟨added, hyields⟩

theorem outcome_of_compilation_error {e : CompileError} (h : p.loaded = .ok c)
    (he : (p.compilation c).result = .error e) :
    p.outcome.result = .error ⟨[.publishing], .compile e⟩ := by
  rw [outcome_of_loaded h, publication_eq_error_iff]
  exact ⟨e, Step.atomically_error_iff.2 he, rfl⟩

end PublishCall

namespace SharedTable

/-- The shared table after calls that were made one after the other. -/
def publishAll (shared : SharedTable) (calls : List PublishCall) : SharedTable :=
  calls.foldl (fun shared p => shared.publish p.outcome) shared

variable {shared : SharedTable} {p : PublishCall} {t : RouteTable} {f : Failure}

theorem publish_of_ok (h : p.outcome.result = .ok t) : shared.publish p.outcome = ⟨t⟩ := by
  rw [publish, h]

theorem publish_of_error (h : p.outcome.result = .error f) : shared.publish p.outcome = shared := by
  rw [publish, h]

theorem publish_of_builds (h : p.Builds t) : shared.publish p.outcome = ⟨t⟩ :=
  publish_of_ok (PublishCall.outcome_eq_ok_iff.2 h)

theorem publish_of_not_builds (h : ∀ t, ¬ p.Builds t) : shared.publish p.outcome = shared := by
  cases hr : p.outcome.result with
  | ok t => exact absurd (PublishCall.outcome_eq_ok_iff.1 hr) (h t)
  | error f => exact publish_of_error hr

theorem publishAll_concat (shared : SharedTable) (calls : List PublishCall) (p : PublishCall) :
    shared.publishAll (calls ++ [p]) = (shared.publishAll calls).publish p.outcome :=
  List.foldl_append

/-- The table is as it was if no call builds one, and else the one that the last call builds that builds
one. -/
theorem publishAll_built (shared : SharedTable) (calls : List PublishCall) :
    (shared.publishAll calls = shared ∧ ∀ p ∈ calls, ∀ t, ¬ p.Builds t) ∨
    ∃ before p after, calls = before ++ p :: after ∧ (∀ q ∈ after, ∀ t, ¬ q.Builds t) ∧
      p.Builds (shared.publishAll calls).current := by
  induction calls using List.reverseRecOn with
  | nil => exact .inl ⟨rfl, List.forall_mem_nil _⟩
  | append_singleton calls p ih =>
    rw [publishAll_concat]
    by_cases hp : ∃ t, p.Builds t
    · obtain ⟨t, ht⟩ := hp
      rw [publish_of_builds ht]
      exact .inr ⟨calls, p, [], rfl, List.forall_mem_nil _, ht⟩
    · have hnone := not_exists.1 hp
      rw [publish_of_not_builds hnone]
      rcases ih with ⟨hsame, hall⟩ | ⟨before, q, after, rfl, hafter, hbuilds⟩
      · exact .inl ⟨hsame, List.forall_mem_append.2 ⟨hall, List.forall_mem_singleton.2 hnone⟩⟩
      · refine .inr ⟨before, q, after ++ [p], ?_, ?_, hbuilds⟩
        · rw [List.append_assoc, List.cons_append]
        · exact List.forall_mem_append.2 ⟨hafter, List.forall_mem_singleton.2 hnone⟩

end SharedTable

/-! ## Compiling scope by scope -/

namespace Step

variable {σ α β : Type}

/-- Two steps have the same result and leave the same table. -/
def SameEffect (a b : Step σ α) : Prop := a.result = b.result ∧ a.table = b.table

theorem SameEffect.trans {a b c : Step σ α} (hab : a.SameEffect b) (hbc : b.SameEffect c) :
    a.SameEffect c := ⟨hab.1.trans hbc.1, hab.2.trans hbc.2⟩

/-- What comes behind a step that succeeded is left to be done. -/
theorem andThen_of_yields {s : Step σ α} {f : α → σ → Step σ β} {a : α} {u : σ}
    (h : s.Yields a u) : (s.andThen f).SameEffect (f a u) := by
  obtain ⟨hok, rfl⟩ := h
  unfold andThen
  rw [hok]
  exact ⟨rfl, rfl⟩

theorem SameEffect.yields_iff {a b : Step σ α} (h : a.SameEffect b) {x : α} {u : σ} :
    a.Yields x u ↔ b.Yields x u := by
  rw [Yields, Yields, h.1, h.2]

end Step

namespace Scope

variable {c : Config} {before after : List Scope} {t u : RouteTable}

theorem compileEach_append (h : (compileEach c before t).Yields () u) (after : List Scope) :
    (compileEach c (before ++ after) t).SameEffect (compileEach c after u) := by
  induction before generalizing t with
  | nil =>
    obtain ⟨-, rfl⟩ := Step.yields_done.1 h
    exact ⟨rfl, rfl⟩
  | cons s rest ih =>
    obtain ⟨_, w, hw, hrest⟩ := Step.yields_andThen.1 h
    exact (Step.andThen_of_yields hw).trans (ih hrest)

theorem compileEach_concat_yields {s : Scope} {v : RouteTable} (h : (compileEach c before t).Yields () u)
    (hs : (s.compile c u).Yields () v) : (compileEach c (before ++ [s]) t).Yields () v :=
  (compileEach_append h [s]).yields_iff.2 (Step.yields_andThen.2 ⟨(), v, hs, rfl, rfl⟩)

/-- Scopes that do not compile do so up to one that fails. -/
theorem exists_of_compileEach_error {scopes : List Scope} {e : CompileError}
    (h : (compileEach c scopes t).result = .error e) :
    ∃ before s after u, scopes = before ++ s :: after ∧ (compileEach c before t).Yields () u ∧
      (s.compile c u).result = .error e := by
  induction scopes generalizing t with
  | nil => cases h
  | cons s rest ih =>
    rcases Step.andThen_error_iff.1 h with hfirst | ⟨_, hok, hrest⟩
    · exact ⟨[], s, rest, t, rfl, ⟨rfl, rfl⟩, hfirst⟩
    · obtain ⟨before, s', after, u, rfl, hu, he⟩ := ih hrest
      exact ⟨s :: before, s', after, u, rfl, Step.yields_andThen.2 ⟨(), _, ⟨hok, rfl⟩, hu⟩, he⟩

end Scope

end Routebook
