import Routebook.Proofs.Compile.Reference

/-!
# Initializers are checked before any runs

The initializers of a scope are first checked, all of them, and then run in order on the live registry.

* `Signature.Violates` : how a shape differs from the expected one; `Signature.check` finds just this
  (`Signature.check_eq_error_iff`);
* `Initializer.RunInTurn` : callbacks run in order and none fails; `Initializer.runInTurn_or_fails` : or one
  of them is the first to fail;
* `Initializer.runAll_iff_inTurn`, `Initializer.runAll_error_iff` : when all goes well, and where it ends
  otherwise;
* `Initializer.runAll_validates_first` : a wrong shape ends everything before any callback is run, and a
  callback that fails keeps those behind it from running.
-/

namespace Routebook

/-! ## Shapes -/

namespace Signature

/-- How a shape differs from the expected one. The number of parameters comes first, then the type of the
one parameter, then the receiver. -/
inductive Violates (s : Signature) : Violation → Prop
  | arity (h : s.parameters.length ≠ 1) : s.Violates (.wrongArity s.parameters.length)
  | parameter {p : Parameter} (h : s.parameters = [p]) (hp : p ≠ .routeTable) :
      s.Violates (.wrongParameterType p.name)
  | receiver (h : s.parameters = [.routeTable]) (hr : s.receiver ≠ .static) :
      s.Violates .requiresInstance

theorem check_eq_error_iff {s : Signature} {v : Violation} : s.check = .error v ↔ s.Violates v := by
  obtain ⟨receiver, parameters⟩ := s
  constructor
  · intro h
    unfold check at h
    split at h
    case h_1 hparameters =>
      cases receiver with
      | static => cases h
      | onInstance =>
        cases h
        exact .receiver hparameters nofun
    case h_2 t hparameters =>
      cases h
      exact .parameter hparameters nofun
    case h_3 htable hother =>
      cases h
      refine .arity fun hlength => ?_
      obtain ⟨p, hp⟩ := List.length_eq_one_iff.1 hlength
      cases p with
      | routeTable => exact htable hp
      | other t => exact hother t hp
  · rintro (hlength | ⟨hparameters, hp⟩ | ⟨hparameters, hr⟩)
    · cases parameters with
      | nil => rfl
      | cons p rest =>
        cases rest with
        | nil => exact absurd rfl hlength
        | cons p' rest => cases p <;> rfl
    · cases hparameters
      rename_i p
      cases p with
      | routeTable => exact absurd rfl hp
      | other t => rfl
    · cases hparameters
      cases receiver with
      | static => exact absurd rfl hr
      | onInstance => rfl

theorem exists_violates_iff {s : Signature} : (∃ v, s.Violates v) ↔ s ≠ .expected := by
  simp only [← check_eq_error_iff, ne_eq, ← check_eq_ok_iff]
  cases s.check <;> simp

end Signature

namespace Initializer

variable {σ : Type} [Registry σ] {is : List Initializer} {t u : σ}

/-! ## The check -/

theorem checkAll_eq_error_iff {e : CompileError} : checkAll is = .error e ↔
    ∃ before i after, is = before ++ i :: after ∧ (∀ j ∈ before, j.signature = .expected) ∧
      ∃ v, i.signature.Violates v ∧ e = .invalidInitializer i.owner i.name v := by
  induction is with
  | nil => exact iff_of_false (by rintro ⟨⟩) not_exists_split_nil
  | cons i rest ih =>
    rw [exists_split_cons, checkAll]
    cases hcheck : i.signature.check with
    | error v =>
      have hviolates := Signature.check_eq_error_iff.1 hcheck
      have hne := Signature.exists_violates_iff.1 ⟨v, hviolates⟩
      constructor
      · rintro ⟨⟩
        exact .inl ⟨List.forall_mem_nil _, v, hviolates, rfl⟩
      · rintro (⟨-, v', hv', rfl⟩ | ⟨before, j, after, -, hbefore, -⟩)
        · rw [← Signature.check_eq_error_iff, hcheck] at hv'
          cases hv'
          rfl
        · exact absurd (hbefore i List.mem_cons_self) hne
    | ok _ =>
      have hexpected := Signature.check_eq_ok_iff.1 hcheck
      show checkAll rest = .error e ↔ _
      rw [ih]
      constructor
      · rintro ⟨before, j, after, hsplit, hbefore, hv⟩
        exact .inr ⟨before, j, after, hsplit, List.forall_mem_cons.2 ⟨hexpected, hbefore⟩, hv⟩
      · rintro (⟨-, v, hv, -⟩ | ⟨before, j, after, hsplit, hbefore, hv⟩)
        · exact absurd hexpected (Signature.exists_violates_iff.1 ⟨v, hv⟩)
        · exact ⟨before, j, after, hsplit, (List.forall_mem_cons.1 hbefore).2, hv⟩

/-! ## The runs -/

/-- The callbacks are run in order, each on the registry that the one before it left. None of them fails, and
each is reported. -/
def RunInTurn : List Initializer → σ → List Event → σ → Prop
  | [], t, reports, u => reports = [] ∧ u = t
  | i :: rest, t, reports, v => ∃ u more, i.callback.run t = (.ok (), u) ∧
      reports = .initializerRan i.owner i.name (Registry.size u - Registry.size t) :: more ∧
      RunInTurn rest u more v

theorem invokeAll_of_runInTurn {reports : List Event} (h : RunInTurn is t reports u) :
    invokeAll is t = ⟨.ok (), u, reports⟩ := by
  induction is generalizing t reports with
  | nil =>
    obtain ⟨rfl, rfl⟩ := h
    rfl
  | cons i rest ih =>
    obtain ⟨w, more, hrun, rfl, hrest⟩ := h
    rw [invokeAll_cons, hrun]
    dsimp only
    rw [ih hrest]
    rfl

theorem invokeAll_of_fails {before : List Initializer} {i : Initializer} {reports : List Event}
    {err : TableError} {v : σ} (h : RunInTurn before t reports u) (hi : i.callback.run u = (.error err, v))
    (after : List Initializer) :
    invokeAll (before ++ i :: after) t = ⟨.error (.initializerFailed i.owner i.name err), v, reports⟩ := by
  induction before generalizing t reports with
  | nil =>
    obtain ⟨rfl, rfl⟩ := h
    rw [List.nil_append, invokeAll_cons, hi]
    rfl
  | cons j rest ih =>
    obtain ⟨w, more, hrun, rfl, hrest⟩ := h
    rw [List.cons_append, invokeAll_cons, hrun]
    dsimp only
    rw [ih hrest]
    rfl

/-- Either none of the callbacks fails, or one of them is the first to fail. -/
theorem runInTurn_or_fails (is : List Initializer) (t : σ) :
    (∃ reports u, RunInTurn is t reports u) ∨
    ∃ before i after reports u err v, is = before ++ i :: after ∧ RunInTurn before t reports u ∧
      i.callback.run u = (.error err, v) := by
  induction is generalizing t with
  | nil => exact .inl ⟨[], t, rfl, rfl⟩
  | cons i rest ih =>
    cases hrun : i.callback.run t with
    | mk result w =>
      cases result with
      | error err => exact .inr ⟨[], i, rest, [], t, err, w, rfl, ⟨rfl, rfl⟩, hrun⟩
      | ok _ =>
        rcases ih w with ⟨reports, u, hrest⟩ | ⟨before, j, after, reports, u, err, v, rfl, hrest, hj⟩
        · exact .inl ⟨_, u, w, reports, hrun, rfl, hrest⟩
        · exact .inr ⟨i :: before, j, after, _, u, err, v, rfl, ⟨w, reports, hrun, rfl, hrest⟩, hj⟩

theorem invokeAll_iff_inTurn : (invokeAll is t).Yields () u ↔ ∃ reports, RunInTurn is t reports u := by
  constructor
  · rintro ⟨hok, rfl⟩
    rcases runInTurn_or_fails is t with ⟨reports, w, hrun⟩ | ⟨before, i, after, reports, w, err, v, rfl, hrun, hi⟩
    · rw [invokeAll_of_runInTurn hrun]
      exact ⟨reports, hrun⟩
    · rw [invokeAll_of_fails hrun hi] at hok
      cases hok
  · rintro ⟨reports, hrun⟩
    rw [invokeAll_of_runInTurn hrun]
    exact ⟨rfl, rfl⟩

theorem invokeAll_error_iff {e : CompileError} : (invokeAll is t).result = .error e ↔
    ∃ before i after reports u err v, is = before ++ i :: after ∧ RunInTurn before t reports u ∧
      i.callback.run u = (.error err, v) ∧ e = .initializerFailed i.owner i.name err := by
  constructor
  · intro herror
    rcases runInTurn_or_fails is t with ⟨reports, w, hrun⟩ | ⟨before, i, after, reports, w, err, v, rfl, hrun, hi⟩
    · rw [invokeAll_of_runInTurn hrun] at herror
      cases herror
    · rw [invokeAll_of_fails hrun hi] at herror
      cases herror
      exact ⟨before, i, after, reports, w, err, v, rfl, hrun, hi, rfl⟩
  · rintro ⟨before, i, after, reports, w, err, v, rfl, hrun, hi, rfl⟩
    rw [invokeAll_of_fails hrun hi]

/-! ## Both -/

theorem runAll_of_expected (h : ∀ i ∈ is, i.signature = .expected) (t : σ) : runAll is t = invokeAll is t := by
  rw [runAll, checkAll_eq_ok_iff.2 h]
  rfl

theorem runAll_iff_inTurn : (runAll is t).Yields () u ↔
    (∀ i ∈ is, i.signature = .expected) ∧ ∃ reports, RunInTurn is t reports u := by
  rw [runAll, Step.yields_check, ← checkAll_eq_ok_iff]
  simp only [invokeAll_iff_inTurn]
  constructor
  · rintro ⟨⟨⟩, hcheck, hrun⟩
    exact ⟨hcheck, hrun⟩
  · rintro ⟨hcheck, hrun⟩
    exact ⟨(), hcheck, hrun⟩

theorem runAll_error_iff {e : CompileError} : (runAll is t).result = .error e ↔ checkAll is = .error e ∨
    (∀ i ∈ is, i.signature = .expected) ∧ (invokeAll is t).result = .error e := by
  rw [runAll, ← checkAll_eq_ok_iff]
  cases checkAll is <;> simp [Step.check, Step.fail]

/-- What is known of an initializer without running it. -/
def shape (i : Initializer) : String × String × Signature := (i.owner, i.name, i.signature)

/-- The check does not look at callbacks. -/
theorem checkAll_congr {is js : List Initializer} (h : js.map shape = is.map shape) :
    checkAll js = checkAll is := by
  induction is generalizing js with
  | nil => rw [List.map_eq_nil_iff.1 h]
  | cons i rest ih =>
    obtain ⟨j, rest', rfl, hshape, hrest⟩ := List.map_eq_cons_iff.1 h
    obtain ⟨howner, hname, hsignature⟩ : j.owner = i.owner ∧ j.name = i.name ∧ j.signature = i.signature := by
      simpa [shape] using hshape
    rw [checkAll, checkAll, howner, hname, hsignature, ih hrest]

/-- If some shape is not the expected one, the first such initializer is reported with the way in which its
shape differs, and the registry is as it was. All this does not depend on the callbacks: none is run. If all
shapes are the expected one, the callbacks run in order, each on the registry that the one before it left.
Either none of them fails, or the first that fails is reported with its error; it leaves the registry at that,
and what comes behind it makes no difference. -/
theorem runAll_validates_first (is : List Initializer) (t : σ) :
    ((∃ i ∈ is, i.signature ≠ .expected) →
      ∃ before i after, is = before ++ i :: after ∧ (∀ j ∈ before, j.signature = .expected) ∧
        ∃ v, i.signature.Violates v ∧ ∀ js : List Initializer, js.map shape = is.map shape →
          runAll js t = .fail (.invalidInitializer i.owner i.name v) t) ∧
    ((∀ i ∈ is, i.signature = .expected) →
      (∃ reports u, RunInTurn is t reports u ∧ runAll is t = ⟨.ok (), u, reports⟩) ∨
      ∃ before i after reports u err v, is = before ++ i :: after ∧ RunInTurn before t reports u ∧
        i.callback.run u = (.error err, v) ∧
        ∀ rest : List Initializer, (∀ j ∈ rest, j.signature = .expected) →
          runAll (before ++ i :: rest) t =
            ⟨.error (.initializerFailed i.owner i.name err), v, reports⟩) := by
  refine ⟨fun hsome => ?_, fun hall => ?_⟩
  · cases hcheck : checkAll is with
    | ok _ =>
      obtain ⟨i, hi, hne⟩ := hsome
      exact absurd (checkAll_eq_ok_iff.1 hcheck i hi) hne
    | error e =>
      obtain ⟨before, i, after, hsplit, hbefore, v, hv, rfl⟩ := checkAll_eq_error_iff.1 hcheck
      refine ⟨before, i, after, hsplit, hbefore, v, hv, fun js hshape => ?_⟩
      rw [runAll, checkAll_congr hshape, hcheck]
      rfl
  · rcases runInTurn_or_fails is t with ⟨reports, u, hrun⟩ | ⟨before, i, after, reports, u, err, v, rfl, hrun, hi⟩
    · refine .inl ⟨reports, u, hrun, ?_⟩
      rw [runAll_of_expected hall, invokeAll_of_runInTurn hrun]
    · refine .inr ⟨before, i, after, reports, u, err, v, rfl, hrun, hi, fun rest hrest => ?_⟩
      have hexpected : ∀ j ∈ before ++ i :: rest, j.signature = .expected := by
        rw [List.forall_mem_append, List.forall_mem_cons] at hall ⊢
        exact ⟨hall.1, hall.2.1, hrest⟩
      rw [runAll_of_expected hexpected, invokeAll_of_fails hrun hi]

/-- A route clashes with one of those that were registered in front. With a further initializer whose shape is
wrong in every way, nothing is registered, whatever the callbacks. -/
theorem runAll_validates_first_clash :
    let good := Initializer.ofEntries "T" "good" [{ name := "a", url := "a" }, { name := "b", url := "b" }]
    let clash := Initializer.ofEntries "T" "clash" [{ name := "A", url := "c" }]
    let wrong : Initializer := { good with name := "wrong", signature := ⟨.onInstance, []⟩ }
    let t := RouteTable.empty
    (∀ js : List Initializer, js.map shape = [good, wrong, clash].map shape →
      runAll js t = .fail (.invalidInitializer "T" "wrong" (.wrongArity 0)) t) ∧
    ∃ before i after reports u v, [good, clash, good] = before ++ i :: after ∧ i.name = "clash" ∧
      RunInTurn before t reports u ∧ i.callback.run u = (.error (.duplicateName "A"), v) ∧
      runAll [good, clash, good] t =
        ⟨.error (.initializerFailed "T" "clash" (.duplicateName "A")), v, reports⟩ ∧
      v.entries.map Entry.name = ["a", "b"] := by
  intro good clash wrong t
  refine ⟨fun js hjs => ?_, ?_⟩
  · obtain ⟨before, i, after, -, -, v, -, hfail⟩ :=
      (runAll_validates_first [good, wrong, clash] t).1 ⟨wrong, by simp, by decide⟩
    rw [hfail js hjs, ← hfail _ rfl]
    rfl
  · have hall : ∀ i ∈ [good, clash, good], i.signature = .expected := by decide
    have hend : (runAll [good, clash, good] t).result =
        .error (.initializerFailed "T" "clash" (.duplicateName "A")) := rfl
    have hnames : (runAll [good, clash, good] t).table.entries.map Entry.name = ["a", "b"] := rfl
    rcases (runAll_validates_first [good, clash, good] t).2 hall with
      ⟨reports, u, -, hok⟩ | ⟨before, i, after, reports, u, err, v, hsplit, hrun, hi, hfail⟩
    · rw [hok] at hend
      cases hend
    · have hstep := hfail after fun j hj => hall j (by rw [hsplit]; simp [hj])
      rw [← hsplit] at hstep
      rw [hstep] at hend hnames
      obtain ⟨howner, hname, rfl⟩ : i.owner = "T" ∧ i.name = "clash" ∧ err = .duplicateName "A" := by
        simpa using hend
      rw [howner, hname] at hstep
      exact ⟨before, i, after, reports, u, v, hsplit, hname, hrun, hi, hstep, hnames⟩

end Initializer

end Routebook
