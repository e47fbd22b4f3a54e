import Mathlib.Data.List.Forall2
import Mathlib.Logic.Function.Basic
import Routebook.Proofs.Publish.Calls

/-!
# Several publishers

Publishers share one table. Each of them loads a catalog, compiles it scope by scope into a table of
its own, and puts this table in the place of the shared one at the end; between these steps the
others make theirs. What a publisher has built depends on its own catalog only, and only finished
tables are shared.

* `Publishers.Step`, `Publishers.Run` : a step of one publisher, and steps of all in any order;
* `Publishers.Acts` : the steps of one call, the last of which stores a table or fails;
* `Publishers.Sound` : what is known of every publisher and of the shared table, kept by each step
  (`Sound.step`);
* `Publishers.steps_publishAll` : a publisher that is not interrupted takes the steps of its calls, and
  these do what `SharedTable.publish` does;
* `Publishers.shared_complete` : the shared table is empty or one complete table at every moment.
-/

namespace Routebook

/-! ## Publishers -/

/-- How far a publisher is. -/
inductive Progress where
  | idle
  /-- the scopes that are to be compiled yet, and the publisher's own table -/
  | compiling (call : PublishCall) (rest : List Scope) (table : RouteTable)

/-- Publishers and the table that they share. -/
structure Publishers (ι : Type) where
  shared : SharedTable := {}
  progress : ι → Progress := fun _ => .idle

/-- What a publisher does. -/
inductive PublishAction (ι : Type) where
  | load (publisher : ι) (call : PublishCall)
  | compile (publisher : ι) (call : PublishCall)
  | store (publisher : ι) (call : PublishCall)
  | fail (publisher : ι) (call : PublishCall) (failure : Failure)

namespace PublishAction

variable {ι : Type}

/-- The publisher that does it. -/
def publisher : PublishAction ι → ι
  | load i _ | compile i _ | store i _ | fail i _ _ => i

def isStore : PublishAction ι → Bool
  | store _ _ => true
  | _ => false

/-- Loading the catalog of a call, and compiling scopes of it. -/
def begun (i : ι) (p : PublishCall) (scopes : List Scope) : List (PublishAction ι) :=
  .load i p :: scopes.map fun _ => .compile i p

theorem begun_concat (i : ι) (p : PublishCall) (scopes : List Scope) (s : Scope) :
    begun i p (scopes ++ [s]) = begun i p scopes ++ [.compile i p] := by
  rw [begun, begun, List.map_append, List.cons_append, List.map_singleton]

theorem begun_append (i : ι) (p : PublishCall) (scopes more : List Scope) :
    begun i p (scopes ++ more) = begun i p scopes ++ more.map fun _ => .compile i p := by
  rw [begun, begun, List.map_append, List.cons_append]

end PublishAction

open PublishAction (begun begun_append begun_concat)

namespace Publishers

variable {ι : Type}

/-- The steps of a call. The catalog is loaded and its scopes are compiled one after the other, from the
empty table; the last step stores a table or fails. -/
inductive Acts (i : ι) (p : PublishCall) : List (PublishAction ι) → Prop
  | notLoaded {f} (hf : p.loaded = .error f) : Acts i p [.fail i p f]
  | notCompiled {c before scope after u e} (hc : p.loaded = .ok c)
      (hscopes : c.owners.map c.scope = before ++ scope :: after)
      (hu : (Scope.compileEach p.config before RouteTable.empty).Yields () u)
      (he : (scope.compile p.config u).result = .error e) :
    Acts i p (begun i p before ++ [.fail i p ⟨[.publishing], .compile e⟩])
  | stored {c t} (hc : p.loaded = .ok c) (ht : p.outcome.result = .ok t) :
    Acts i p (begun i p (c.owners.map c.scope) ++ [.store i p])

/-! ## What every publisher has built -/

/-- The shared table is empty and nothing was stored, or it is the one that the last call that was
stored builds from the empty table. -/
def Complete (actions : List (PublishAction ι)) (t : RouteTable) : Prop :=
  (t = .empty ∧ ∀ a ∈ actions, a.isStore = false) ∨
  ∃ before i p after, actions = before ++ .store i p :: after ∧ .load i p ∈ before ∧
    (∀ a ∈ after, a.isStore = false) ∧ p.Builds t

/-- A publisher has taken the steps of some calls, and those of the call that it is at. Its table is what
the scopes that are done give from the empty table. -/
def Follows (i : ι) (own : List (PublishAction ι)) : Progress → Prop
  | .idle => ∃ calls taken, List.Forall₂ (Acts i) calls taken ∧ own = taken.flatten
  | .compiling p rest t => ∃ calls taken c before, List.Forall₂ (Acts i) calls taken ∧
      own = taken.flatten ++ begun i p before ∧ p.loaded = .ok c ∧
      c.owners.map c.scope = before ++ rest ∧ (Scope.compileEach p.config before RouteTable.empty).Yields () t

section

variable {i : ι} {own : List (PublishAction ι)} {p : PublishCall} {rest : List Scope} {t : RouteTable}

/-- A publisher that has compiled all scopes has built the table of its call. -/
theorem Follows.builds (h : Follows i own (.compiling p [] t)) : p.Builds t := by
  obtain ⟨-, -, c, before, -, -, hc, hscopes, ht⟩ := h
  rw [List.append_nil] at hscopes
  refine (PublishCall.builds_iff_compilation hc).2 ?_
  rwa [PublishCall.compilation, hscopes]

/-- A scope that fails makes the call fail. -/
theorem Follows.outcome_of_error {scope : Scope} {e : CompileError}
    (h : Follows i own (.compiling p (scope :: rest) t)) (he : (scope.compile p.config t).result = .error e) :
    p.outcome.result = .error ⟨[.publishing], .compile e⟩ := by
  obtain ⟨-, -, c, before, -, -, hc, hscopes, ht⟩ := h
  apply PublishCall.outcome_of_compilation_error hc
  rw [PublishCall.compilation, hscopes, (Scope.compileEach_append ht _).1, Scope.compileEach,
    Step.andThen_error_iff]
  exact .inl he

theorem Follows.compiled {scope : Scope} {u : RouteTable} (h : Follows i own (.compiling p (scope :: rest) t))
    (hu : (scope.compile p.config t).Yields () u) :
    Follows i (own ++ [.compile i p]) (.compiling p rest u) := by
  obtain ⟨calls, taken, c, before, htaken, rfl, hc, hscopes, ht⟩ := h
  refine ⟨calls, taken, c, before ++ [scope], htaken, ?_, hc, ?_, Scope.compileEach_concat_yields ht hu⟩
  · rw [begun_concat, List.append_assoc]
  · rw [hscopes, List.append_assoc, List.singleton_append]

/-- Behind the last step of a call a publisher is idle again. -/
theorem follows_idle {calls : List PublishCall} {taken : List (List (PublishAction ι))}
    {last : List (PublishAction ι)} (htaken : List.Forall₂ (Acts i) calls taken) (hlast : Acts i p last) :
    Follows i (taken.flatten ++ last) .idle := by
  refine ⟨calls ++ [p], taken ++ [last], List.rel_append htaken (.cons hlast .nil), ?_⟩
  rw [List.flatten_append, List.flatten_singleton]

theorem Follows.failed {scope : Scope} {e : CompileError} (h : Follows i own (.compiling p (scope :: rest) t))
    (he : (scope.compile p.config t).result = .error e) :
    Follows i (own ++ [.fail i p ⟨[.publishing], .compile e⟩]) .idle := by
  obtain ⟨calls, taken, c, before, htaken, rfl, hc, hscopes, ht⟩ := h
  rw [List.append_assoc]
  exact follows_idle htaken (.notCompiled hc hscopes ht he)

theorem Follows.stored (h : Follows i own (.compiling p [] t)) : Follows i (own ++ [.store i p]) .idle := by
  have hbuilds := h.builds
  obtain ⟨calls, taken, c, before, htaken, rfl, hc, hscopes, -⟩ := h
  rw [List.append_nil] at hscopes
  rw [List.append_assoc, ← hscopes]
  exact follows_idle htaken (.stored hc (PublishCall.outcome_eq_ok_iff.2 hbuilds))

/-- What is left of a call is determined: a call that is begun has steps that go on like this. -/
theorem Follows.exists_taken {progress : Progress} (h : Follows i own progress) :
    ∃ calls taken, List.Forall₂ (Acts i) calls taken ∧ own <+: taken.flatten := by
  cases progress with
  | idle =>
    obtain ⟨calls, taken, htaken, rfl⟩ := h
    exact ⟨calls, taken, htaken, List.prefix_refl _⟩
  | compiling p rest t =>
    obtain ⟨calls, taken, c, before, htaken, rfl, hc, hscopes, ht⟩ := h
    -- Compiling what is left, by itself, tells with which step the call will end.
    have hlast : ∃ last, Acts i p last ∧ begun i p before <+: last := by
      cases hrest : (Scope.compileEach p.config rest t).result with
      | ok _ =>
        have hall : (p.compilation c).Yields () (Scope.compileEach p.config rest t).table := by
          rw [PublishCall.compilation, hscopes]
          exact (Scope.compileEach_append ht rest).yields_iff.2 ⟨hrest, rfl⟩
        have hok := PublishCall.outcome_eq_ok_iff.2 ((PublishCall.builds_iff_compilation hc).2 hall)
        refine ⟨_, .stored hc hok, ?_⟩
        rw [hscopes, begun_append, List.append_assoc]
        exact List.prefix_append ..
      | error e =>
        obtain ⟨more, scope, after, u, rfl, hu, he⟩ := Scope.exists_of_compileEach_error hrest
        refine ⟨_, .notCompiled hc (hscopes.trans (List.append_assoc ..).symm)
          ((Scope.compileEach_append ht more).yields_iff.2 hu) he, ?_⟩
        rw [begun_append, List.append_assoc]
        exact List.prefix_append ..
    obtain ⟨last, hacts, hprefix⟩ := hlast
    refine ⟨calls ++ [p], taken ++ [last], List.rel_append htaken (.cons hacts .nil), ?_⟩
    rw [List.flatten_append, List.flatten_singleton]
    exact (List.prefix_append_right_inj _).2 hprefix

theorem Complete.concat {actions : List (PublishAction ι)} {a : PublishAction ι} (h : Complete actions t)
    (ha : a.isStore = false) : Complete (actions ++ [a]) t := by
  rcases h with ⟨ht, hnone⟩ | ⟨before, i, p, after, rfl, hload, hnone, ht⟩
  · exact .inl ⟨ht, List.forall_mem_append.2 ⟨hnone, List.forall_mem_singleton.2 ha⟩⟩
  · refine .inr ⟨before, i, p, after ++ [a], ?_, hload, ?_, ht⟩
    · rw [List.append_assoc, List.cons_append]
    · exact List.forall_mem_append.2 ⟨hnone, List.forall_mem_singleton.2 ha⟩

end

/-! ## Steps -/

variable [DecidableEq ι]

/-- The steps of one publisher. -/
def actionsOf (i : ι) (actions : List (PublishAction ι)) : List (PublishAction ι) :=
  actions.filter fun a => a.publisher = i

@[simp] theorem actionsOf_append (i : ι) (actions more : List (PublishAction ι)) :
    actionsOf i (actions ++ more) = actionsOf i actions ++ actionsOf i more := List.filter_append ..

theorem actionsOf_self {i : ι} {a : PublishAction ι} (h : i = a.publisher) : actionsOf i [a] = [a] := by
  simp [actionsOf, h]

theorem actionsOf_other {i : ι} {a : PublishAction ι} (h : i ≠ a.publisher) : actionsOf i [a] = [] := by
  simp [actionsOf, h.symm]

/-- The publishers after one of them has gone on. -/
def progressed (s : Publishers ι) (i : ι) (p : Progress) : Publishers ι :=
  ⟨s.shared, Function.update s.progress i p⟩

/-- The publishers after one of them has shared its table. -/
def stored (s : Publishers ι) (i : ι) (t : RouteTable) : Publishers ι :=
  ⟨⟨t⟩, Function.update s.progress i .idle⟩

/-- One step of one publisher. -/
inductive Step (s : Publishers ι) : PublishAction ι → Publishers ι → Prop
  | load {i p c} (hidle : s.progress i = .idle) (hc : p.loaded = .ok c) :
    Step s (.load i p) (s.progressed i (.compiling p (c.owners.map c.scope) .empty))
  | loadFails {i p f} (hidle : s.progress i = .idle) (hf : p.loaded = .error f) :
    Step s (.fail i p f) s
  | compile {i p scope rest t u} (hat : s.progress i = .compiling p (scope :: rest) t)
      (hu : (scope.compile p.config t).Yields () u) :
    Step s (.compile i p) (s.progressed i (.compiling p rest u))
  | compileFails {i p scope rest t e} (hat : s.progress i = .compiling p (scope :: rest) t)
      (he : (scope.compile p.config t).result = .error e) :
    Step s (.fail i p ⟨[.publishing], .compile e⟩) (s.progressed i .idle)
  | store {i p t} (hat : s.progress i = .compiling p [] t) : Step s (.store i p) (s.stored i t)

/-- Steps of any publishers, one after the other. -/
inductive Steps (s : Publishers ι) : List (PublishAction ι) → Publishers ι → Prop
  | none : Steps s [] s
  | snoc {actions u a v} (h : Steps s actions u) (hstep : Step u a v) : Steps s (actions ++ [a]) v

/-- Steps from the beginning, where the shared table is empty and nothing is published. -/
def Run (actions : List (PublishAction ι)) (s : Publishers ι) : Prop := Steps {} actions s

/-- What is known of the publishers: each of them takes the steps of its calls, and the shared table is
complete. -/
structure Sound (actions : List (PublishAction ι)) (s : Publishers ι) : Prop where
  own : ∀ i, Follows i (actionsOf i actions) (s.progress i)
  shared : Complete actions s.shared.current

variable {actions : List (PublishAction ι)} {s s' : Publishers ι} {a : PublishAction ι}

theorem sound_start : Sound [] ({} : Publishers ι) where
  own _ := ⟨[], [], .nil, rfl⟩
  shared := .inl ⟨rfl, fun _ h => nomatch h⟩

theorem Sound.load_mem {i : ι} {p : PublishCall} {rest : List Scope} {t : RouteTable} (h : Sound actions s)
    (hat : s.progress i = .compiling p rest t) : .load i p ∈ actions := by
  have hown := h.own i
  rw [hat] at hown
  obtain ⟨calls, taken, c, before, -, hfilter, -⟩ := hown
  have hmem : .load i p ∈ actionsOf i actions := by
    rw [hfilter]
    exact List.mem_append_right _ List.mem_cons_self
  exact List.mem_of_mem_filter hmem

theorem Step.shared_eq (h : Step s a s') (ha : a.isStore = false) : s'.shared = s.shared := by
  cases h with
  | load hidle hc => rfl
  | loadFails hidle hf => rfl
  | compile hat hu => rfl
  | compileFails hat he => rfl
  | store hat => cases ha

theorem Step.progress_eq (h : Step s a s') {j : ι} (hj : j ≠ a.publisher) :
    s'.progress j = s.progress j := by
  cases h with
  | load hidle hc => exact Function.update_of_ne hj _ _
  | loadFails hidle hf => rfl
  | compile hat hu => exact Function.update_of_ne hj _ _
  | compileFails hat he => exact Function.update_of_ne hj _ _
  | store hat => exact Function.update_of_ne hj _ _

/-- A publisher fails only when its call does, and with the same failure. -/
theorem Sound.outcome_of_fail {i : ι} {p : PublishCall} {f : Failure} (h : Sound actions s)
    (hstep : Step s (.fail i p f) s') : p.outcome.result = .error f := by
  cases hstep with
  | loadFails hidle hf => exact PublishCall.outcome_of_not_loaded hf
  | compileFails hat he =>
    have hown := h.own i
    rw [hat] at hown
    exact hown.outcome_of_error he

/-- A publisher stores only what its call builds. -/
theorem Sound.builds_of_store {i : ι} {p : PublishCall} (h : Sound actions s)
    (hstep : Step s (.store i p) s') : p.Builds s'.shared.current := by
  cases hstep with
  | store hat =>
    have hown := h.own i
    rw [hat] at hown
    exact hown.builds

theorem Sound.own_step (h : Sound actions s) (hstep : Step s a s') :
    Follows a.publisher (actionsOf a.publisher actions ++ [a]) (s'.progress a.publisher) := by
  have hown := h.own a.publisher
  cases hstep with
  | load hidle hc =>
    simp only [PublishAction.publisher, hidle, progressed, Function.update_self] at hown ⊢
    obtain ⟨calls, taken, htaken, hfilter⟩ := hown
    exact ⟨calls, taken, _, [], htaken, by rw [hfilter]; rfl, hc, rfl, rfl, rfl⟩
  | loadFails hidle hf =>
    simp only [PublishAction.publisher, hidle] at hown ⊢
    obtain ⟨calls, taken, htaken, hfilter⟩ := hown
    rw [hfilter]
    exact follows_idle htaken (.notLoaded hf)
  | compile hat hu =>
    simp only [PublishAction.publisher, hat, progressed, Function.update_self] at hown ⊢
    exact hown.compiled hu
  | compileFails hat he =>
    simp only [PublishAction.publisher, hat, progressed, Function.update_self] at hown ⊢
    exact hown.failed he
  | store hat =>
    simp only [PublishAction.publisher, hat, stored, Function.update_self] at hown ⊢
    exact hown.stored

/-- The shared table stays complete. -/
theorem Sound.shared_step (h : Sound actions s) (hstep : Step s a s') :
    Complete (actions ++ [a]) s'.shared.current := by
  cases hstore : a.isStore with
  | false =>
    rw [hstep.shared_eq hstore]
    exact h.shared.concat hstore
  | true =>
    cases hstep with
    | load hidle hc => cases hstore
    | loadFails hidle hf => cases hstore
    | compile hat hu => cases hstore
    | compileFails hat he => cases hstore
    | store hat =>
      exact .inr ⟨actions, _, _, [], rfl, h.load_mem hat, List.forall_mem_nil _,
        h.builds_of_store (.store hat)⟩

/-- Every step keeps what is known of the publishers. -/
theorem Sound.step (h : Sound actions s) (hstep : Step s a s') : Sound (actions ++ [a]) s' where
  own j := by
    rw [actionsOf_append]
    by_cases hj : j = a.publisher
    · rw [actionsOf_self hj, hj]
      exact h.own_step hstep
    · rw [actionsOf_other hj, List.append_nil, hstep.progress_eq hj]
      exact h.own j
  shared := h.shared_step hstep

theorem Run.sound (h : Run actions s) : Sound actions s := by
  unfold Run at h
  induction h with
  | none => exact sound_start
  | snoc _ hstep ih => exact ih.step hstep

/-! ## A publisher by itself -/

theorem Steps.cons {u v : Publishers ι} (hstep : Step s a u) (h : Steps u actions v) :
    Steps s (a :: actions) v := by
  induction h with
  | none => exact .snoc .none hstep
  | snoc _ hlast ih => exact .snoc ih hlast

theorem Steps.append {u v : Publishers ι} {more : List (PublishAction ι)} (h : Steps s actions u)
    (hmore : Steps u more v) : Steps s (actions ++ more) v := by
  induction hmore with
  | none =>
    rw [List.append_nil]
    exact h
  | snoc _ hstep ih =>
    rw [← List.append_assoc]
    exact .snoc ih hstep

@[simp] theorem progress_progressed (s : Publishers ι) (i : ι) (p : Progress) :
    (s.progressed i p).progress i = p := Function.update_self ..

theorem progressed_progressed (s : Publishers ι) (i : ι) (p q : Progress) :
    (s.progressed i p).progressed i q = s.progressed i q := by
  rw [progressed, progressed, progressed, Function.update_idem]

theorem progressed_idle {i : ι} (hidle : s.progress i = .idle) : s.progressed i .idle = s := by
  rw [progressed, ← hidle, Function.update_eq_self]

theorem stored_progressed {i : ι} (hidle : s.progress i = .idle) (p : Progress) (t : RouteTable) :
    (s.progressed i p).stored i t = ⟨⟨t⟩, s.progress⟩ := by
  rw [stored, progressed, Function.update_idem, ← hidle, Function.update_eq_self]

theorem steps_compile {i : ι} {p : PublishCall} {before : List Scope} (rest : List Scope) {t u : RouteTable}
    (hu : (Scope.compileEach p.config before t).Yields () u) :
    Steps (s.progressed i (.compiling p (before ++ rest) t)) (before.map fun _ => .compile i p)
      (s.progressed i (.compiling p rest u)) := by
  induction before generalizing t with
  | nil =>
    obtain ⟨-, rfl⟩ := Step.yields_done.1 hu
    exact .none
  | cons scope before ih =>
    obtain ⟨_, w, hw, hbefore⟩ := Step.yields_andThen.1 hu
    refine .cons ?_ (ih hbefore)
    -- Where the publisher was before does not show behind the step, which writes over it.
    rw [← progressed_progressed s i (.compiling p (scope :: before ++ rest) t) (.compiling p (before ++ rest) w)]
    exact .compile (progress_progressed ..) hw

theorem steps_begun {i : ι} (hidle : s.progress i = .idle) {p : PublishCall} {c : Catalog}
    (hc : p.loaded = .ok c) {before rest : List Scope} (hscopes : c.owners.map c.scope = before ++ rest)
    {u : RouteTable} (hu : (Scope.compileEach p.config before RouteTable.empty).Yields () u) :
    Steps s (begun i p before) (s.progressed i (.compiling p rest u)) := by
  refine .cons (.load hidle hc) ?_
  rw [hscopes]
  exact steps_compile rest hu

/-- The steps of a call that is not interrupted do what publishing does. -/
theorem steps_publish {i : ι} (hidle : s.progress i = .idle) (p : PublishCall) :
    ∃ own, Acts i p own ∧ Steps s own ⟨s.shared.publish p.outcome, s.progress⟩ := by
  cases hc : p.loaded with
  | error f =>
    refine ⟨_, .notLoaded hc, .cons ?_ .none⟩
    rw [SharedTable.publish_of_error (PublishCall.outcome_of_not_loaded hc)]
    exact .loadFails hidle hc
  | ok c =>
    cases he : (p.compilation c).result with
    | ok _ =>
      have hyields : (p.compilation c).Yields () (p.compilation c).table := ⟨he, rfl⟩
      have hok := PublishCall.outcome_eq_ok_iff.2 ((PublishCall.builds_iff_compilation hc).2 hyields)
      refine ⟨_, .stored hc hok, (steps_begun hidle hc (List.append_nil _).symm hyields).append (.cons ?_ .none)⟩
      rw [SharedTable.publish_of_ok hok, ← stored_progressed hidle (.compiling p [] (p.compilation c).table)]
      exact .store (progress_progressed ..)
    | error e =>
      obtain ⟨before, scope, after, u, hscopes, hu, hscope⟩ := Scope.exists_of_compileEach_error he
      have hlast : Step (s.progressed i (.compiling p (scope :: after) u))
          (.fail i p ⟨[.publishing], .compile e⟩) _ := .compileFails (progress_progressed ..) hscope
      rw [progressed_progressed, progressed_idle hidle] at hlast
      rw [SharedTable.publish_of_error (PublishCall.outcome_of_compilation_error hc he)]
      exact ⟨_, .notCompiled hc hscopes hu hscope, (steps_begun hidle hc hscopes hu).append (.cons hlast .none)⟩

/-- Calls that a publisher makes one after the other, without being interrupted. -/
theorem steps_publishAll {i : ι} (hidle : s.progress i = .idle) (calls : List PublishCall) :
    ∃ taken, List.Forall₂ (Acts i) calls taken ∧
      Steps s taken.flatten ⟨s.shared.publishAll calls, s.progress⟩ := by
  induction calls generalizing s with
  | nil => exact ⟨[], .nil, .none⟩
  | cons p rest ih =>
    obtain ⟨own, hown, hsteps⟩ := steps_publish hidle p
    obtain ⟨taken, htaken, hrest⟩ := ih (s := ⟨s.shared.publish p.outcome, s.progress⟩) hidle
    exact ⟨own :: taken, .cons hown htaken, hsteps.append hrest⟩

/-- Whatever publishers do in any order, the shared table is the empty one as long as nothing is
stored, and then the one that the last stored call builds from the empty table. Steps that store
nothing leave it as it was, those of a call that fails among them; what is stored is what the call
builds by itself, and the last step of a call does to the shared table what publishing does.

The steps of every publisher are those of its calls, the last of which may not be finished; and a
publisher that is not interrupted takes them for any calls. Publishing itself puts the table that a call
builds in the place of any other, or leaves that if the call builds none, so that calls one after the
other leave what the last of them builds that does build a table. -/
theorem shared_complete (h : Run actions s) :
    ((s.shared.current = .empty ∧ ∀ a ∈ actions, a.isStore = false) ∨
      ∃ before i p after, actions = before ++ .store i p :: after ∧ .load i p ∈ before ∧
        (∀ a ∈ after, a.isStore = false) ∧ p.Builds s.shared.current) ∧
    (∀ a s', Step s a s' → a.isStore = false → s'.shared = s.shared) ∧
    (∀ i (p : PublishCall) f s', Step s (.fail i p f) s' →
      p.outcome.result = .error f ∧ s'.shared = s.shared ∧ s'.shared = s.shared.publish p.outcome) ∧
    (∀ i (p : PublishCall) s', Step s (.store i p) s' →
      p.outcome.result = .ok s'.shared.current ∧ s'.shared = s.shared.publish p.outcome) ∧
    (∀ i, ∃ calls taken, List.Forall₂ (Acts i) calls taken ∧ actionsOf i actions <+: taken.flatten) ∧
    (∀ i, s.progress i = .idle → ∀ calls : List PublishCall, ∃ taken, List.Forall₂ (Acts i) calls taken ∧
      Steps s taken.flatten ⟨s.shared.publishAll calls, s.progress⟩) ∧
    (∀ (shared : SharedTable) (p : PublishCall), (∀ t, p.outcome.result = .ok t ↔ p.Builds t) ∧
      (∀ t, p.Builds t → shared.publish p.outcome = ⟨t⟩) ∧
      ((∀ t, ¬ p.Builds t) → shared.publish p.outcome = shared)) ∧
    ∀ calls : List PublishCall,
      (({} : SharedTable).publishAll calls = {} ∧ ∀ p ∈ calls, ∀ t, ¬ p.Builds t) ∨
      ∃ before p after, calls = before ++ p :: after ∧ (∀ q ∈ after, ∀ t, ¬ q.Builds t) ∧
        p.Builds (({} : SharedTable).publishAll calls).current := by
  have hsound := h.sound
  refine ⟨hsound.shared, fun a s' hstep => hstep.shared_eq, fun i p f s' hstep => ?_,
    fun i p s' hstep => ?_, fun i => (hsound.own i).exists_taken,
    fun i hidle calls => steps_publishAll hidle calls, fun shared p => ?_, SharedTable.publishAll_built {}⟩
  · have herror := hsound.outcome_of_fail hstep
    rw [SharedTable.publish_of_error herror]
    exact ⟨herror, hstep.shared_eq rfl, hstep.shared_eq rfl⟩
  · have hok := PublishCall.outcome_eq_ok_iff.2 (hsound.builds_of_store hstep)
    exact ⟨hok, (SharedTable.publish_of_ok hok).symm⟩
  · exact ⟨fun t => PublishCall.outcome_eq_ok_iff, fun t => SharedTable.publish_of_builds,
      SharedTable.publish_of_not_builds⟩

/-- Two publishers at once, the second of which stores first; a third call then fails at a handler. The
same calls one after the other leave the same table. -/
theorem shared_complete_interleaved :
    let a : PublishCall := .catalog (Catalog.empty.addHandler ⟨"A", "h", [.route { url := "a" }]⟩) {}
    let b : PublishCall := .catalog (Catalog.empty.addHandler ⟨"B", "k", [.route { url := "b" }]⟩) {}
    let faulty : PublishCall :=
      .catalog (Catalog.empty.addHandler ⟨"C", "x", [.nonAction, .route { url := "c" }]⟩) {}
    ∃ f s, Run [.load 1 a, .load 2 b, .compile 2 b, .compile 1 a, .store 2 b, .store 1 a,
        .load 2 faulty, .fail 2 faulty f] s ∧
      faulty.outcome.result = .error f ∧ a.outcome.result = .ok s.shared.current ∧
      ({} : SharedTable).publishAll [b, a, faulty] = s.shared := by
  intro a b faulty
  have ha : (Scope.compile {} { owner := "A", handlers := [⟨"A", "h", [.route { url := "a" }]⟩] }
    RouteTable.empty).result = .ok () := rfl
  have hb : (Scope.compile {} { owner := "B", handlers := [⟨"B", "k", [.route { url := "b" }]⟩] }
    RouteTable.empty).result = .ok () := rfl
  have hcompiled : Run [.load 1 a, .load 2 b, .compile 2 b, .compile 1 a, .store 2 b] _ :=
    .cons (.load rfl rfl) (.cons (.load rfl rfl) (.cons (.compile rfl ⟨hb, rfl⟩)
      (.cons (.compile rfl ⟨ha, rfl⟩) (.cons (.store rfl) .none))))
  obtain ⟨-, -, -, hstored, -⟩ := shared_complete hcompiled
  have hshared := hstored 1 a _ (.store rfl)
  have hloaded : Run [.load 1 a, .load 2 b, .compile 2 b, .compile 1 a, .store 2 b, .store 1 a,
      .load 2 faulty] _ := hcompiled.append (.cons (.store rfl) (.cons (.load rfl rfl) .none))
  obtain ⟨-, -, hfailed, -⟩ := shared_complete hloaded
  have hfault := hfailed 2 faulty _ _ (.compileFails rfl rfl)
  have hsequence : ({} : SharedTable).publishAll [b, a, faulty] =
      ((({} : SharedTable).publish b.outcome).publish a.outcome).publish faulty.outcome := rfl
  refine ⟨_, _, hloaded.append (.cons (.compileFails rfl rfl) .none), hfault.1, hshared.1, ?_⟩
  rw [hsequence, SharedTable.publish_of_error hfault.1, SharedTable.publish_of_ok hshared.1]
  rfl

end Publishers

end Routebook
