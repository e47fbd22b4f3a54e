import Routebook.Proofs.Compile.Merging
import Routebook.Proofs.Compile.Reference
import Routebook.Proofs.Compile.Transaction
import Routebook.Proofs.Table.Dispatch

/-!
# Enforcing the verbs of a handler

The verbs of a handler become a constraint of its entry, written as names under a key of the
configuration, and are read again when the entry is registered.

* `Constraint.accepts_ofVerbs` : the names say what the set says;
* `Config.constraint_of_entry` : the constraint under the key is the one to the handler's verbs,
  whatever else is contributed;
* `Catalog.compile_enforces_verbs` : after a compilation, the entry of a handler answers the methods
  that its verbs allow and no others, as far as the constraint goes.
-/

namespace Routebook

open Text (sameText)
open RouteTable (Reachable WellFormed)

/-- The constraint to a set of verbs accepts the methods that the set allows. -/
theorem Constraint.accepts_ofVerbs {verbs : VerbSet} {request : Request} {values : RouteValues}
    {key : String} : (ofVerbs verbs).Accepts request values key ↔ verbs.allows request.method = true := by
  rw [VerbSet.allows_iff]
  simp only [ofVerbs, Accepts, ← Verb.parse?_eq_some_iff, VerbSet.names, List.mem_map,
    VerbSet.mem_toList]
  constructor
  · rintro ⟨_, ⟨w, hw, rfl⟩, v, hv, hmethod⟩
    rw [Verb.parse?_name, Option.some.injEq] at hv
    exact ⟨w, hw, hv ▸ hmethod⟩
  · rintro ⟨v, hv, hmethod⟩
    exact ⟨v.name, ⟨v, hv, rfl⟩, v, Verb.parse?_name v, hmethod⟩

namespace Config

variable {c : Config} {h : Handler} {d : Declaration} {verbs : VerbSet} {e : Entry}

theorem verbs_mem_of_entry (he : c.entry h d verbs = .ok e) :
    (c.verbKey, .ofVerbs verbs) ∈ e.constraints.entries := by
  obtain ⟨defaults, constraints, -, hconstraints, rfl⟩ := entry_eq_ok_iff.1 he
  show _ ∈ constraints.entries
  rw [entries_of_constraints hconstraints]
  exact List.mem_cons_self

/-- The constraint under the key of the verbs, in any case, is the one to the verbs. -/
theorem constraint_of_entry (he : c.entry h d verbs = .ok e) {key : String} {k : Constraint}
    (hk : (key, k) ∈ e.constraints.entries) (hsame : sameText key c.verbKey = true) :
    k = .ofVerbs verbs :=
  (CaselessMap.eq_of_mem hk (verbs_mem_of_entry he) hsame).2

end Config

namespace Scope

theorem ready_of_compileEach_yields {c : Config} {scopes : List Scope} {t u : RouteTable}
    (hyields : (compileEach c scopes t).Yields () u) : ∀ s ∈ scopes, ∀ h ∈ s.handlers, h.Ready c := by
  induction scopes generalizing t with
  | nil => exact fun _ hs => nomatch hs
  | cons s rest ih =>
    rw [compileEach, Step.yields_andThen] at hyields
    obtain ⟨⟨⟩, w, hfirst, hrest⟩ := hyields
    rw [compile] at hfirst
    simp only [Step.yields_andThen] at hfirst
    obtain ⟨⟨⟩, v, -, n, v', hhandlers, -⟩ := hfirst
    exact List.forall_mem_cons.2 ⟨(exists_compileHandlers_yields_iff.1 ⟨n, hhandlers⟩).1, ih hrest⟩

end Scope

namespace Catalog

variable {catalog : Catalog} {c : Config} {t : RouteTable}

theorem ready_of_compile {es : List Entry} (hes : (catalog.compile c t).result = .ok es) :
    ∀ o ∈ catalog.owners, ∀ h ∈ catalog.handlers o, h.Ready c := by
  rw [compile] at hes
  rcases Step.atomically_cases (Scope.compileEach c (catalog.owners.map catalog.scope)) t with
    ⟨hok, -⟩ | ⟨e, -, heq⟩
  · have hready := Scope.ready_of_compileEach_yields (t := t) ⟨hok, rfl⟩
    exact fun o ho => hready (catalog.scope o) (List.mem_map_of_mem ho)
  · rw [heq] at hes
    cases hes

/-- A compilation leaves a well-formed table, whatever the callbacks do. -/
theorem wellFormed_compile (ht : WellFormed t) : WellFormed (catalog.compile c t).table :=
  compileExtent_keeps (fun h hr => h.register hr) (fun h n => h.truncate n) catalog c .all ht

/-- After a compilation that succeeds, each handler declares no route, or just one; then its verbs
and its entry are made, this entry answers only methods that the verbs allow, on any path, and its
constraint under the key of the verbs, in any case, turns down just the methods that they do not
allow. -/
theorem compile_enforces_verbs (ht : Reachable t) {es : List Entry}
    (hes : (catalog.compile c t).result = .ok es) :
    ∀ o ∈ catalog.owners, ∀ h ∈ catalog.handlers o, h.declarations = [] ∨
      ∃ d verbs e, h.declarations = [d] ∧ h.verbs = .ok verbs ∧ c.entry h d verbs = .ok e ∧
        (∀ method path m, (catalog.compile c t).table.route method path = some m → m.entry = e →
          verbs.allows method = true) ∧
        (∃ key k, (key, k) ∈ e.constraints.entries ∧ sameText key c.verbKey = true) ∧
        ∀ key k check, (key, k) ∈ e.constraints.entries → sameText key c.verbKey = true →
          Check.ofConstraint e.name key k = .ok check → ∀ request values,
            check.holds request values = verbs.allows request.method := by
  intro o ho h hh
  refine (Handler.ready_iff.1 (ready_of_compile hes o ho h hh)).imp id ?_
  rintro ⟨d, verbs, e, hds, hverbs, he⟩
  have hverbKey := Config.verbs_mem_of_entry he
  refine ⟨d, verbs, e, hds, hverbs, he, ?_, ⟨_, _, hverbKey, Text.sameText_refl _⟩, ?_⟩
  · rintro method path m hm rfl
    obtain ⟨-, -, -, htakes, -⟩ := (wellFormed_compile ht.wellFormed).route_eq_some_iff.1 hm
    exact Constraint.accepts_ofVerbs.1 (htakes.accepts _ _ hverbKey)
  · intro key k check hk hsame hcheck request values
    -- No later contribution can have displaced the constraint under this key.
    rw [Config.constraint_of_entry he hk hsame] at hcheck
    rw [Bool.eq_iff_iff, Check.holds_iff_accepts hcheck, Constraint.accepts_ofVerbs]

/-- A handler for `PUT` alone, with a further constraint that lists methods. -/
theorem compile_enforces_verbs_put :
    let c : Config := { verbKey := "METHOD" }
    let h : Handler := ⟨"T", "h", [.acceptVerbs [" put"], .route { url := "x" },
      .constraint "verb" (.methods ["get", "Put"])]⟩
    let catalog := Catalog.empty.addHandler h
    let t := RouteTable.empty.replay [.register { name := "home", url := "" }]
    Reachable t ∧ (∃ es, (catalog.compile c t).result = .ok es) ∧
      ∃ verbs e, h.verbs = .ok verbs ∧ c.entry h { url := "x" } verbs = .ok e ∧
        (∃ m, (catalog.compile c t).table.route "PUT" "/X" = some m ∧ m.entry = e) ∧
        verbs.allows "PUT" = true := by
  intro c h catalog t
  have ht : Reachable t := ⟨_, rfl⟩
  have hcompiles : (catalog.compile c t).result.isOk = true := by
    dsimp only [catalog, c, h, t]
    decide +kernel
  obtain ⟨es, hes⟩ : ∃ es, (catalog.compile c t).result = .ok es := by
    cases hr : (catalog.compile c t).result with
    | error e => rw [hr] at hcompiles; cases hcompiles
    | ok es => exact ⟨es, rfl⟩
  obtain hds | ⟨d, verbs, e, hds, hverbs, he, henforced, -⟩ :=
    compile_enforces_verbs ht hes "T" List.mem_cons_self h List.mem_cons_self
  · cases hds
  · cases hds
    have hanswer : ((catalog.compile c t).table.route "PUT" "/X").map (fun m => m.entry) =
        h.verbs.toOption.bind fun verbs => (c.entry h { url := "x" } verbs).toOption := by
      dsimp only [catalog, c, h, t]
      with_unfolding_all rfl
    rw [hverbs, Except.toOption, Option.bind_some, he, Except.toOption, Option.map_eq_some_iff] at hanswer
    obtain ⟨m, hm, hme⟩ := hanswer
    exact ⟨ht, ⟨es, hes⟩, verbs, e, hverbs, he, ⟨m, hm, hme⟩, henforced "PUT" "/X" m hm hme⟩

end Catalog

end Routebook
