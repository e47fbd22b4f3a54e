import Routebook.Compile.Basic
import Routebook.Proofs.Compile.Merging
import Routebook.Proofs.Compile.VerbUnion

/-!
# A handler by itself

Before its entry is registered, a handler goes through stages that look at nothing but the handler and the
configuration: its declarations, its exclusion, its tokens, its defaults and its constraints.

* `Handler.prepare` : these stages together; what compiling does first (`Handler.compile_eq_prepare`);
* `Handler.Routable` : one declaration, no exclusion, and no unknown token;
* `Handler.Flaw` : the first stage at which a handler fails, and its error;
* `Handler.prepare_eq_none_iff`, `Handler.prepare_eq_some_iff`, `Handler.prepare_eq_error_iff` : what comes
  out of the stages.
-/

namespace Routebook

variable {taken keys : List String}

theorem exists_firstRepeat_iff : (∃ key, FirstRepeat taken keys key) ↔ ¬ Fresh taken keys := by
  induction keys generalizing taken with
  | nil => exact iff_of_false (fun ⟨_, h⟩ => not_firstRepeat_nil h) (not_not_intro .nil)
  | cons k rest ih =>
    simp only [firstRepeat_cons, fresh_cons, exists_or, exists_and_left, exists_eq', ih]
    by_cases htaken : Taken taken k <;> simp [htaken]

namespace Handler

/-- What is made of a handler before anything is registered: nothing if it declares no route, otherwise its
verbs and its entry. -/
def prepare (c : Config) (h : Handler) : Except CompileError (Option (VerbSet × Entry)) :=
  match h.singleDeclaration with
  | .error e => .error e
  | .ok none => .ok none
  | .ok (some d) =>
    match h.verbs with
    | .error e => .error e
    | .ok verbs =>
      match c.entry h d verbs with
      | .error e => .error e
      | .ok e => .ok (some (verbs, e))

/-- A handler is prepared first; then its entry is reported and registered. -/
theorem compile_eq_prepare {σ : Type} [Registry σ] (c : Config) (owner : String) (h : Handler) (t : σ) :
    h.compile c owner t = Step.check (h.prepare c) t fun
      | none => .done true t
      | some (verbs, e) => ((h.registerEntry owner e t).andThen fun () t => .done false t).report
          (.routeCompiled owner h.name e.name e.url verbs.label) := by
  unfold compile prepare
  cases h.singleDeclaration with
  | error err => rfl
  | ok d =>
    cases d with
    | none => rfl
    | some d =>
      cases h.verbs with
      | error err => rfl
      | ok verbs => cases hentry : c.entry h d verbs <;> simp [Step.check, hentry]

/-- The handler declares just one route, is not excluded, and its tokens are all known. -/
structure Routable (h : Handler) (d : Declaration) : Prop where
  declarations : h.declarations = [d]
  kept : h.isExcluded = false
  known : h.tokens.find? Verb.isUnknown = none

/-- What is wrong with a handler by itself, at the first stage at which it fails. -/
inductive Flaw (c : Config) (h : Handler) : CompileError → Prop
  /-- It declares several routes. -/
  | declarations (hmany : 1 < h.declarations.length) :
      h.Flaw c (.ambiguousDeclaration h.owner h.name h.declarations.length)
  /-- It declares a route and is excluded. -/
  | exclusion {d : Declaration} (hd : h.declarations = [d]) (hex : h.isExcluded = true) :
      h.Flaw c (.conflictingExclusion h.owner h.name d.url)
  /-- A token names no verb; the first of them is reported as it is written. -/
  | token {d : Declaration} {token : String} (hd : h.declarations = [d]) (hex : h.isExcluded = false)
      (htoken : h.tokens.find? Verb.isUnknown = some token) :
      h.Flaw c (.unsupportedVerb h.owner h.name token)
  /-- A default is given twice. -/
  | default {d : Declaration} {key : String} (hr : h.Routable d)
      (hkey : FirstRepeat [c.ownerKey, c.handlerKey] ((h.contributedDefaults d).map Prod.fst) key) :
      h.Flaw c (.duplicateDefault h.owner h.name key)
  /-- A constraint is given twice. -/
  | constraint {d : Declaration} {key : String} (hr : h.Routable d)
      (hfresh : Fresh [c.ownerKey, c.handlerKey] ((h.contributedDefaults d).map Prod.fst))
      (hkey : FirstRepeat [c.verbKey] ((h.contributedConstraints d).map Prod.fst) key) :
      h.Flaw c (.duplicateConstraint h.owner h.name key)

variable {c : Config} {h : Handler} {d : Declaration} {verbs : VerbSet} {e : Entry} {err : CompileError}

/-! ## Stage by stage -/

theorem prepare_of_nil (hds : h.declarations = []) : h.prepare c = .ok none := by
  rw [prepare, singleDeclaration, hds]

theorem prepare_of_many (hmany : 1 < h.declarations.length) :
    h.prepare c = .error (.ambiguousDeclaration h.owner h.name h.declarations.length) := by
  unfold prepare singleDeclaration
  cases hds : h.declarations with
  | nil => simp [hds] at hmany
  | cons d rest =>
    cases rest with
    | nil => simp [hds] at hmany
    | cons d' rest => rfl

theorem prepare_of_single (hd : h.declarations = [d]) : h.prepare c =
    match h.verbs with
    | .error e => .error e
    | .ok verbs => (c.entry h d verbs).map fun e => some (verbs, e) := by
  rw [prepare, singleDeclaration, hd]
  cases h.verbs with
  | error err => rfl
  | ok verbs => cases hentry : c.entry h d verbs <;> simp [hentry, Except.map]

theorem prepare_of_excluded (hd : h.declarations = [d]) (hex : h.isExcluded = true) :
    h.prepare c = .error (.conflictingExclusion h.owner h.name d.url) := by
  rw [prepare_of_single hd, verbs_of_conflict hex hd]

theorem prepare_of_unknown {token : String} (hd : h.declarations = [d]) (hex : h.isExcluded = false)
    (htoken : h.tokens.find? Verb.isUnknown = some token) :
    h.prepare c = .error (.unsupportedVerb h.owner h.name token) := by
  rw [prepare_of_single hd, verbs_of_routable (.inl hex), htoken]

theorem Routable.verbs_eq (hr : h.Routable d) : h.verbs = .ok h.union := by
  rw [verbs_of_routable (.inl hr.kept), hr.known]

theorem prepare_of_routable (hr : h.Routable d) :
    h.prepare c = (c.entry h d h.union).map fun e => some (h.union, e) := by
  rw [prepare_of_single hr.declarations, hr.verbs_eq]

/-- A handler declares no route, or fails before its entry is made, or is routable. -/
theorem routable_cases (c : Config) (h : Handler) :
    h.declarations = [] ∨ (∃ err, h.Flaw c err ∧ h.prepare c = .error err) ∨ ∃ d, h.Routable d := by
  cases hds : h.declarations with
  | nil => exact .inl rfl
  | cons d rest =>
    refine .inr ?_
    cases rest with
    | cons d' rest =>
      have hmany : 1 < h.declarations.length := by simp [hds]
      exact .inl ⟨_, .declarations hmany, prepare_of_many hmany⟩
    | nil =>
      cases hex : h.isExcluded with
      | true => exact .inl ⟨_, .exclusion hds hex, prepare_of_excluded hds hex⟩
      | false =>
        cases htoken : h.tokens.find? Verb.isUnknown with
        | some token => exact .inl ⟨_, .token hds hex htoken, prepare_of_unknown hds hex htoken⟩
        | none => exact .inr ⟨d, hds, hex, htoken⟩

/-! ## All stages -/

theorem prepare_eq_none_iff : h.prepare c = .ok none ↔ h.declarations = [] := by
  refine ⟨fun hnone => ?_, prepare_of_nil⟩
  rcases routable_cases c h with hds | ⟨err, -, herr⟩ | ⟨d, hr⟩
  · exact hds
  · cases herr.symm.trans hnone
  · rw [prepare_of_routable hr] at hnone
    cases hentry : c.entry h d h.union <;> simp [hentry, Except.map] at hnone

theorem prepare_eq_some_iff : h.prepare c = .ok (some (verbs, e)) ↔
    ∃ d, h.Routable d ∧ verbs = h.union ∧ c.entry h d verbs = .ok e := by
  constructor
  · intro hsome
    rcases routable_cases c h with hds | ⟨err, -, herr⟩ | ⟨d, hr⟩
    · cases (prepare_of_nil hds).symm.trans hsome
    · cases herr.symm.trans hsome
    · rw [prepare_of_routable hr] at hsome
      cases hentry : c.entry h d h.union with
      | error err => simp [hentry, Except.map] at hsome
      | ok e' =>
        simp only [hentry, Except.map, Except.ok.injEq, Option.some.injEq, Prod.mk.injEq] at hsome
        obtain ⟨rfl, rfl⟩ := hsome
        exact ⟨d, hr, rfl, hentry⟩
  · rintro ⟨d, hr, rfl, hentry⟩
    rw [prepare_of_routable hr, hentry]
    rfl

/-- Preparing a handler fails just with the error of the first stage at which it fails. -/
theorem prepare_eq_error_iff : h.prepare c = .error err ↔ h.Flaw c err := by
  have hmade : ∀ {d}, h.Routable d → (h.prepare c = .error err ↔ c.entry h d h.union = .error err) := by
    intro d hr
    rw [prepare_of_routable hr]
    cases c.entry h d h.union <;> simp [Except.map]
  constructor
  · intro herr
    rcases routable_cases c h with hds | ⟨err', hflaw, herr'⟩ | ⟨d, hr⟩
    · cases (prepare_of_nil hds).symm.trans herr
    · cases herr'.symm.trans herr
      exact hflaw
    · rw [hmade hr, Config.entry_eq_error_iff, Config.exists_defaults_iff, Config.defaults_eq_error_iff,
        Config.constraints_eq_error_iff] at herr
      rcases herr with ⟨key, hkey, rfl⟩ | ⟨hfresh, key, hkey, rfl⟩
      · exact .default hr hkey
      · exact .constraint hr hfresh hkey
  · intro hflaw
    cases hflaw with
    | declarations hmany => exact prepare_of_many hmany
    | exclusion hd hex => exact prepare_of_excluded hd hex
    | token hd hex htoken => exact prepare_of_unknown hd hex htoken
    | default hr hkey =>
      rw [hmade hr, Config.entry_eq_error_iff, Config.defaults_eq_error_iff]
      exact .inl ⟨_, hkey, rfl⟩
    | constraint hr hfresh hkey =>
      rw [hmade hr, Config.entry_eq_error_iff, Config.exists_defaults_iff, Config.constraints_eq_error_iff]
      exact .inr ⟨hfresh, _, hkey, rfl⟩

end Handler

end Routebook
