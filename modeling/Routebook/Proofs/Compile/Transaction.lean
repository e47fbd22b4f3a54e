import Routebook.Proofs.Compile.Lockstep
import Routebook.Proofs.Table.History

/-!
# Compilations as transactions

A compilation remembers the length that the table had and cuts it back to that length when it
fails. Callbacks hold the live table in the meantime and may cut it themselves.

* `Traced` : a registry that remembers its states; a compilation does the same on it
  (`compileExtent_traced`), which gives the states that a table goes through, `Catalog.moments`;
* `Catalog.moments_intact` : entries that are never cut off stay where they are.

So a failed compilation leaves the table as it was, and a successful one adds behind what was there,
unless a callback cuts the table below its first length.
-/

namespace Routebook

/-! ## States of a registry -/

section Traced

variable {σ : Type} [Registry σ]

/-- A registry that remembers the states it has been in. -/
structure Traced (σ : Type) where
  now : σ
  /-- the states before, the last one first -/
  past : List σ := []

namespace Traced

def states (w : Traced σ) : List σ := w.now :: w.past

/-- Goes on to a state. -/
def enter (w : Traced σ) (t : σ) : Traced σ := ⟨t, w.states⟩

instance : Registry (Traced σ) where
  register w e := (Registry.register w.now e).map w.enter
  hasName w := Registry.hasName w.now
  entries w := Registry.entries w.now
  truncate w n := w.enter (Registry.truncate w.now n)

theorem register_eq_ok_iff {w v : Traced σ} {e : Entry} :
    Registry.register w e = .ok v ↔ ∃ u, Registry.register w.now e = .ok u ∧ v = w.enter u := by
  show (Registry.register w.now e).map w.enter = .ok v ↔ _
  cases Registry.register w.now e <;> simp [Except.map, eq_comm]

/-- Remembering states does not show in the answers. -/
theorem alike : Registry.Alike fun (w : Traced σ) (t : σ) => w.now = t where
  register := by
    rintro w _ rfl e
    cases hr : Registry.register w.now e with
    | ok u => exact .inl ⟨w.enter u, u, register_eq_ok_iff.2 ⟨u, hr, rfl⟩, rfl, rfl⟩
    | error err =>
      refine .inr ⟨err, ?_, rfl⟩
      show (Registry.register w.now e).map w.enter = _
      rw [hr, Except.map]
  hasName := by
    rintro w _ rfl name
    rfl
  entries := by
    rintro w _ rfl
    rfl

theorem alikeCut : Registry.AlikeCut fun (w : Traced σ) (t : σ) => w.now = t := by
  rintro w _ rfl n
  rfl

end Traced

namespace Catalog

/-- A compilation does the same with and without remembering the states. -/
theorem compileExtent_traced (catalog : Catalog) (c : Config) (t : σ) (x : Extent) :
    Step.Related (fun w u => w.now = u) (catalog.compileExtent c (⟨t, []⟩ : Traced σ) x)
      (catalog.compileExtent c t x) :=
  compileExtent_related Traced.alike Traced.alikeCut catalog c x rfl

/-- The states that a registry goes through in a compilation, the last one first. -/
def moments (catalog : Catalog) (c : Config) (t : σ) (x : Extent) : List σ :=
  (catalog.compileExtent c (⟨t, []⟩ : Traced σ) x).table.states

theorem table_mem_moments (catalog : Catalog) (c : Config) (t : σ) (x : Extent) :
    (catalog.compileExtent c t x).table ∈ catalog.moments c t x := by
  rw [← (catalog.compileExtent_traced c t x).table]
  exact List.mem_cons_self

/-- What the scopes leave is one of these states, also when it is cut off afterwards. -/
theorem compileEach_mem_moments (catalog : Catalog) (c : Config) (t : σ) (x : Extent) :
    (Scope.compileEach c (catalog.scopesOf x) t).table ∈ catalog.moments c t x := by
  have hnow : (Scope.compileEach c (catalog.scopesOf x) (⟨t, []⟩ : Traced σ)).table.now =
      (Scope.compileEach c (catalog.scopesOf x) t).table :=
    (Scope.compileEach_related Traced.alike c (catalog.scopesOf x)
      (fun _ _ i _ => Traced.alike.respects Traced.alikeCut i.callback) rfl).table
  rw [moments, compileExtent_eq, ← hnow]
  rcases Step.atomically_cases (Scope.compileEach c (catalog.scopesOf x)) (⟨t, []⟩ : Traced σ) with
    ⟨-, heq⟩ | ⟨err, -, heq⟩ <;> rw [heq]
  · exact List.mem_cons_self
  · exact List.mem_cons_of_mem _ List.mem_cons_self

end Catalog

end Traced

/-! ## Entries that are never cut off -/

open RouteTable (WellFormed Reachable)

/-- Every state is well-formed, and begins with some entries as long as none is shorter. -/
def Intact (first : List Entry) (w : Traced RouteTable) : Prop :=
  (∀ u ∈ w.states, WellFormed u) ∧
    ((∀ u ∈ w.states, first.length ≤ u.size) → ∀ u ∈ w.states, first <+: u.entries)

namespace Intact

variable {first : List Entry} {w : Traced RouteTable}

theorem enter (h : Intact first w) {u : RouteTable} (hu : WellFormed u)
    (hnext : first <+: w.now.entries → first.length ≤ u.size → first <+: u.entries) :
    Intact first (w.enter u) := by
  refine ⟨List.forall_mem_cons.2 ⟨hu, h.1⟩, fun hlong => ?_⟩
  obtain ⟨hlast, hbefore⟩ := List.forall_mem_cons.1 hlong
  have hfront := h.2 hbefore
  exact List.forall_mem_cons.2 ⟨hnext (hfront w.now List.mem_cons_self) hlast, hfront⟩

theorem register (h : Intact first w) {v : Traced RouteTable} {e : Entry}
    (hr : Registry.register w e = .ok v) : Intact first v := by
  obtain ⟨u, hu, rfl⟩ := Traced.register_eq_ok_iff.1 hr
  refine h.enter ((h.1 w.now List.mem_cons_self).register hu) fun hfront _ => ?_
  exact hfront.trans (RouteTable.entries_prefix_of_register hu)

theorem truncate (h : Intact first w) (n : Nat) : Intact first (Registry.truncate w n) := by
  refine h.enter ((h.1 w.now List.mem_cons_self).truncate n) fun hfront hlong => ?_
  rw [← RouteTable.length_entries] at hlong
  exact List.prefix_of_prefix_length_le hfront
    (RouteTable.entries_truncate w.now n ▸ List.take_prefix n _) hlong

end Intact

namespace Catalog

variable (catalog : Catalog) (c : Config) (x : Extent) {t : RouteTable}

/-- The states of a compilation are well-formed and keep the first entries of the table, if none of
them is shorter than these. -/
theorem moments_intact (ht : WellFormed t) {first : List Entry} (hfirst : first <+: t.entries) :
    (∀ u ∈ catalog.moments c t x, WellFormed u) ∧
      ((∀ u ∈ catalog.moments c t x, first.length ≤ u.size) →
        ∀ u ∈ catalog.moments c t x, first <+: u.entries) := by
  have hstart : Intact first ⟨t, []⟩ :=
    ⟨List.forall_mem_cons.2 ⟨ht, fun _ h => nomatch h⟩,
      fun _ => List.forall_mem_cons.2 ⟨hfirst, fun _ h => nomatch h⟩⟩
  exact compileExtent_keeps (fun h hr => h.register hr) (fun h n => h.truncate n) catalog c x hstart

/-- A failed compilation leaves no more entries than there were. -/
theorem size_le_of_error {e : CompileError} (he : (catalog.compileExtent c t x).result = .error e) :
    (catalog.compileExtent c t x).table.size ≤ t.size := by
  rw [compileExtent_eq] at he ⊢
  rcases Step.atomically_cases (Scope.compileEach c (catalog.scopesOf x)) t with
    ⟨-, heq⟩ | ⟨e', -, heq⟩ <;> rw [heq] at he ⊢
  · cases he
  · rw [← RouteTable.registry_size t, ← RouteTable.length_entries]
    exact (RouteTable.entries_truncate _ _).symm ▸ List.length_take_le _ _

theorem since_of_ok {es : List Entry} (hes : (catalog.compileExtent c t x).result = .ok es) :
    es = (catalog.compileExtent c t x).table.entries.drop t.size := by
  rw [compileExtent_eq] at hes ⊢
  rcases Step.atomically_cases (Scope.compileEach c (catalog.scopesOf x)) t with
    ⟨-, heq⟩ | ⟨e, -, heq⟩ <;> rw [heq] at hes ⊢
  · rw [← RouteTable.registry_size t]
    exact (Except.ok.inj hes).symm
  · cases hes

/-- A compilation that fails leaves the table as it was before the call, and so every answer that it
gives, provided that no callback has cut it below the length it had then. -/
theorem compileExtent_error_restores (ht : Reachable t)
    (hlong : ∀ u ∈ catalog.moments c t x, t.size ≤ u.size) {e : CompileError}
    (he : (catalog.compileExtent c t x).result = .error e) :
    (catalog.compileExtent c t x).table = t := by
  have hmem := catalog.table_mem_moments c t x
  obtain ⟨hwell, hkeep⟩ := catalog.moments_intact c x ht.wellFormed (List.prefix_refl t.entries)
  rw [RouteTable.length_entries] at hkeep
  have hfront := hkeep hlong _ hmem
  have hlength : t.entries.length = (catalog.compileExtent c t x).table.entries.length := by
    rw [RouteTable.length_entries, RouteTable.length_entries]
    have hle := catalog.size_le_of_error c x he
    have hge := hlong _ hmem
    omega
  exact (hwell _ hmem).ext ht.wellFormed (hfront.eq_of_length hlength).symm

/-- A callback that adds a route, goes back to the first length and then clashes with the route that
was there. -/
theorem compileExtent_error_restores_clash :
    let t := RouteTable.empty.replay [.register { name := "home", url := "" }]
    let catalog := Catalog.empty.addInitializer {
      owner := "T", name := "i"
      callback := .register { name := "a", url := "" } fun _ => .truncate 1
        (.register { name := "HOME", url := "" } .done) }
    Reachable t ∧ (∀ u ∈ catalog.moments {} t .all, t.size ≤ u.size) ∧
      (catalog.compileExtent {} t .all).result =
        .error (.initializerFailed "T" "i" (.duplicateName "HOME")) ∧
      (catalog.compileExtent {} t .all).table = t :=
  ⟨⟨_, rfl⟩, by decide, rfl, compileExtent_error_restores _ _ _ ⟨_, rfl⟩ (by decide) rfl⟩

/-- The first entries of a table are in place throughout a compilation just when it is never cut
below them. Afterwards every entry is where it was and is found by its name just when those that
were cut off have been put back in order. So it is when the table was never shorter than at first,
whether the compilation succeeds or fails, and then the entries that a success gives are those that
follow. -/
theorem moments_keep_iff (ht : Reachable t) :
    (∀ n ≤ t.size, (∀ u ∈ catalog.moments c t x, n ≤ u.size) ↔
      ∀ u ∈ catalog.moments c t x, t.entries.take n <+: u.entries) ∧
    (∀ n ≤ t.size, (∀ u ∈ catalog.moments c t x, n ≤ u.size) →
      ((∀ (i : Nat) e, t.entries[i]? = some e →
        (catalog.compileExtent c t x).table.entries[i]? = some e ∧
        (catalog.compileExtent c t x).table.find? e.name = some e) ↔
      t.entries.drop n <+: (catalog.compileExtent c t x).table.entries.drop n)) ∧
    ((∀ u ∈ catalog.moments c t x, t.size ≤ u.size) →
      (∀ (i : Nat) e, t.entries[i]? = some e →
        (catalog.compileExtent c t x).table.entries[i]? = some e ∧
        (catalog.compileExtent c t x).table.find? e.name = some e) ∧
      ∀ es, (catalog.compileExtent c t x).result = .ok es →
        (catalog.compileExtent c t x).table.entries = t.entries ++ es) := by
  have hmem := catalog.table_mem_moments c t x
  have hmoments := fun {first} => @moments_intact catalog c x t ht.wellFormed first
  have hwell : WellFormed (catalog.compileExtent c t x).table :=
    (hmoments (List.prefix_refl t.entries)).1 _ hmem
  have hlength : ∀ n ≤ t.size, (t.entries.take n).length = n := fun n hn => by
    rw [List.length_take, RouteTable.length_entries, Nat.min_eq_left hn]
  have hkeep : ∀ n ≤ t.size, (∀ u ∈ catalog.moments c t x, n ≤ u.size) →
      ∀ u ∈ catalog.moments c t x, t.entries.take n <+: u.entries := fun n hn hlong =>
    (hmoments (List.take_prefix n _)).2 (by rwa [hlength n hn])
  refine ⟨fun n hn => ⟨hkeep n hn, fun hfront u hu => ?_⟩, fun n hn hlong => ?_, fun hlong => ?_⟩
  · have hle := (hfront u hu).length_le
    rwa [hlength n hn, RouteTable.length_entries] at hle
  · obtain ⟨rest, hrest⟩ := hkeep n hn hlong _ hmem
    have hdrop : (catalog.compileExtent c t x).table.entries.drop n = rest := by
      rw [← hrest, List.drop_left' (hlength n hn)]
    have hsplit : t.entries.take n ++ t.entries.drop n <+: t.entries.take n ++ rest ↔
        t.entries.drop n <+: rest := List.prefix_append_right_inj _
    rw [List.take_append_drop] at hsplit
    rw [hwell.forall_getElem?_iff, hdrop, ← hrest, hsplit]
  · have hfront := hkeep t.size (Nat.le_refl _) hlong _ hmem
    rw [List.take_of_length_le (by simp)] at hfront
    refine ⟨hwell.forall_getElem?_iff.2 hfront, fun es hes => ?_⟩
    obtain ⟨rest, hrest⟩ := hfront
    rw [catalog.since_of_ok c x hes, ← hrest, ← RouteTable.length_entries, List.drop_left]

/-- A callback that adds a route, takes it back and adds another one. -/
theorem moments_keep_iff_replaced :
    let t := RouteTable.empty.replay [.register { name := "home", url := "" }]
    let catalog := Catalog.empty.addInitializer {
      owner := "T", name := "i"
      callback := .register { name := "a", url := "" } fun _ => .truncate 1
        (.register { name := "b", url := "" } .done) }
    Reachable t ∧ (∀ u ∈ catalog.moments {} t .all, t.size ≤ u.size) ∧
      (catalog.compileExtent {} t .all).table.find? "home" = some { name := "home", url := "" } ∧
      (catalog.compileExtent {} t .all).table.entries = t.entries ++ [{ name := "b", url := "" }] := by
  intro t catalog
  have ht : Reachable t := ⟨_, rfl⟩
  have hlong : ∀ u ∈ catalog.moments {} t .all, t.size ≤ u.size := by decide
  obtain ⟨-, -, hkeep⟩ := catalog.moments_keep_iff {} .all ht
  obtain ⟨hplaces, hadded⟩ := hkeep hlong
  exact ⟨ht, hlong, (hplaces 0 _ rfl).2, hadded _ rfl⟩

/-- A callback that cuts the table to nothing takes away a route that was there before: the
compilation succeeds and gives nothing, and the table is empty. -/
theorem not_compileExtent_keeps :
    let t := RouteTable.empty.replay [.register { name := "home", url := "" }]
    let catalog := Catalog.empty.addInitializer {
      owner := "T", name := "i"
      callback := .truncate 0 (.done (.ok ())) }
    Reachable t ∧ t.entries[0]? = some { name := "home", url := "" } ∧
      (catalog.compileExtent {} t .all).result = .ok [] ∧
      (catalog.compileExtent {} t .all).table.entries[0]? = none ∧
      (catalog.compileExtent {} t .all).table.find? "home" = none :=
  ⟨⟨_, rfl⟩, rfl, rfl, rfl, rfl⟩

end Catalog

end Routebook
