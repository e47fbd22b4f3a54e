import Routebook.Proofs.Compile.Merging

/-!
# What an entry says of its handler

Every entry names its handler under one key of the configuration and the owner, as it is shown, under
another. Both are written before anything is merged, and the second write goes over the first if the keys
are the same.

* `Config.get?_of_entry` : what is implied is found in every entry, whatever is contributed;
* `Config.entry_identifies_iff` : the owner is found in every entry just when the two keys differ, and
  just then every key that comes twice is reported;
* `Config.not_entry_identifies` : keys that differ in case only, set by the environment.
-/

namespace Routebook.Config

open Text (sameText)

variable {c : Config} {h : Handler} {d : Declaration} {verbs : VerbSet} {e : Entry}

theorem get?_of_entry (he : c.entry h d verbs = .ok e) {key : String} {value : RouteValue}
    (hmem : (key, value) ∈ c.impliedDefaults h) : e.defaults.get? key = some value := by
  rw [CaselessMap.get?_eq_some_iff, (entries_of_entry he).1]
  exact ⟨key, List.mem_append_left _ hmem, Text.sameText_refl key⟩

theorem impliedDefaults_same (hsame : sameText c.ownerKey c.handlerKey = true) (h : Handler) :
    c.impliedDefaults h = [(c.ownerKey, .ofText h.name)] := if_pos hsame

theorem impliedDefaults_different (hdiff : sameText c.ownerKey c.handlerKey = false) (h : Handler) :
    c.impliedDefaults h =
      [(c.ownerKey, .ofText (c.shownOwner h.owner)), (c.handlerKey, .ofText h.name)] := by
  rw [impliedDefaults, hdiff, if_neg Bool.false_ne_true]

theorem handler_of_entry (he : c.entry h d verbs = .ok e) :
    e.defaults.get? c.handlerKey = some (.ofText h.name) := by
  cases hkeys : sameText c.ownerKey c.handlerKey with
  | true =>
    rw [← CaselessMap.get?_congr _ hkeys]
    exact get?_of_entry he (by rw [impliedDefaults_same hkeys]; exact List.mem_cons_self)
  | false => exact get?_of_entry he (by rw [impliedDefaults_different hkeys]; simp)

theorem ofText_inj {s t : String} : RouteValue.ofText s = .ofText t ↔ s = t := by
  simp [RouteValue.ofText]

/-- The owner is under its key unless the handler's name has taken its place. -/
theorem owner_of_entry_iff (he : c.entry h d verbs = .ok e) :
    e.defaults.get? c.ownerKey = some (.ofText (c.shownOwner h.owner)) ↔
      sameText c.ownerKey c.handlerKey = false ∨ c.shownOwner h.owner = h.name := by
  cases hkeys : sameText c.ownerKey c.handlerKey with
  | true =>
    rw [CaselessMap.get?_congr _ hkeys, handler_of_entry he, Option.some.injEq, ofText_inj, eq_comm]
    simp
  | false =>
    have howner : (c.ownerKey, .ofText (c.shownOwner h.owner)) ∈ c.impliedDefaults h := by
      rw [impliedDefaults_different hkeys]
      exact List.mem_cons_self
    simp [get?_of_entry he howner]

theorem entry_eq_duplicateDefault_iff {key : String} :
    c.entry h d verbs = .error (.duplicateDefault h.owner h.name key) ↔
      FirstRepeat [c.ownerKey, c.handlerKey] ((h.contributedDefaults d).map Prod.fst) key := by
  rw [entry_eq_error_iff, defaults_eq_error_iff, constraints_eq_error_iff]
  simp

/-- A key that comes twice, the two implied ones counted in. -/
theorem firstRepeat_implied_iff {keys : List String} {key : String} :
    FirstRepeat [] (c.ownerKey :: c.handlerKey :: keys) key ↔
      (sameText c.ownerKey c.handlerKey = true ∧ c.handlerKey = key) ∨
      (sameText c.ownerKey c.handlerKey = false ∧ FirstRepeat [c.ownerKey, c.handlerKey] keys key) := by
  rw [firstRepeat_cons, firstRepeat_cons]
  simp [Taken]

/-- Every entry that is made has the handler's name under its key, and the owner under the other key unless
the two keys are the same up to case and the names are not. So the owner is there for all handlers just when
the keys are different, and just then it is always the first key that comes twice, the two counted in,
that is reported. -/
theorem entry_identifies_iff (c : Config) :
    (∀ h d verbs e, c.entry h d verbs = .ok e →
      e.defaults.get? c.handlerKey = some (.ofText h.name) ∧
      (e.defaults.get? c.ownerKey = some (.ofText (c.shownOwner h.owner)) ↔
        sameText c.ownerKey c.handlerKey = false ∨ c.shownOwner h.owner = h.name)) ∧
    ((∀ h d verbs e, c.entry h d verbs = .ok e →
        e.defaults.get? c.ownerKey = some (.ofText (c.shownOwner h.owner))) ↔
      sameText c.ownerKey c.handlerKey = false) ∧
    ((∀ h d verbs key, c.entry h d verbs = .error (.duplicateDefault h.owner h.name key) ↔
        FirstRepeat [] (c.ownerKey :: c.handlerKey :: (h.contributedDefaults d).map Prod.fst) key) ↔
      sameText c.ownerKey c.handlerKey = false) := by
  -- A handler with nothing but a route, named otherwise than its owner is shown.
  let h : Handler := ⟨"", c.shownOwner "" ++ "x", [.route { url := "" }]⟩
  obtain ⟨e, he⟩ : ∃ e, c.entry h { url := "" } .empty = .ok e := exists_entry_iff.2 ⟨.nil, .nil⟩
  refine ⟨fun h d verbs e he => ⟨handler_of_entry he, owner_of_entry_iff he⟩, ⟨fun howner => ?_, ?_⟩,
    ⟨fun hreport => ?_, ?_⟩⟩
  · rcases (owner_of_entry_iff he).1 (howner h _ _ e he) with hkeys | hnames
    · exact hkeys
    · have hlength := congrArg String.length hnames
      simp [h] at hlength
  · intro hkeys h d verbs e he
    exact (owner_of_entry_iff he).2 (.inl hkeys)
  · rw [← Bool.not_eq_true]
    intro hkeys
    have herror := (hreport h { url := "" } .empty c.handlerKey).2 (firstRepeat_implied_iff.2 (.inl ⟨hkeys, rfl⟩))
    cases herror.symm.trans he
  · intro hkeys h d verbs key
    rw [entry_eq_duplicateDefault_iff, firstRepeat_implied_iff, hkeys]
    simp

/-- The two keys are set, to different texts; another handler gives the key of its owner a second time. -/
theorem entry_identifies_iff_set :
    let c : Config := { ownerKey := "controller", handlerKey := "action", ownerSuffix := some "Controller" }
    let h (markers : List Marker) : Handler := ⟨"HomeController", "Index", markers⟩
    (∃ e, c.entry (h [.optional "owner"]) { url := "x" } (.single .get) = .ok e ∧
      e.defaults.get? "Controller" = some (.ofText "Home") ∧
      e.defaults.get? "ACTION" = some (.ofText "Index")) ∧
    c.entry (h [.optional "Action"]) { url := "x" } (.single .get) =
      .error (.duplicateDefault "HomeController" "Index" "Action") := by
  intro c h
  obtain ⟨hentry, howner, hreport⟩ := entry_identifies_iff c
  have hkeys : sameText c.ownerKey c.handlerKey = false := by decide
  have hshown : c.shownOwner "HomeController" = "Home" := by decide
  obtain ⟨e, he⟩ : ∃ e, c.entry (h [.optional "owner"]) { url := "x" } (.single .get) = .ok e := by
    have hgiven : ((h [.optional "owner"]).contributedDefaults { url := "x" }).map Prod.fst = ["owner"] := rfl
    rw [exists_entry_iff, hgiven]
    exact ⟨by decide, .nil⟩
  refine ⟨⟨e, he, ?_, ?_⟩, ?_⟩
  · rw [← CaselessMap.get?_congr _ (by decide : sameText c.ownerKey "Controller" = true),
      howner.2 hkeys _ _ _ e he]
    exact congrArg (fun s => some (RouteValue.ofText s)) hshown
  · rw [← CaselessMap.get?_congr _ (by decide : sameText c.handlerKey "ACTION" = true)]
    exact (hentry _ _ _ e he).1
  · exact (hreport.2 hkeys _ _ _ "Action").2 ⟨["controller", "action"], [], rfl, by decide, by decide⟩

/-- The environment sets the key of the owner to that of the handler, in another case: the entry is made
without the owner. -/
theorem not_entry_identifies :
    let c := Config.standard.withEnvironment fun name =>
      if name = "WAYMARK_OWNER_KEY" then some "Handler" else none
    let h : Handler := ⟨"T", "h", [.route { url := "x" }]⟩
    FirstRepeat [] [c.ownerKey, c.handlerKey] "handler" ∧ c.shownOwner h.owner = "T" ∧
      ∃ e, c.entry h { url := "x" } (.single .get) = .ok e ∧
        e.defaults.entries = [("Handler", .ofText "h")] ∧
        e.defaults.get? c.ownerKey ≠ some (.ofText (c.shownOwner h.owner)) := by
  intro c h
  have hkeys : c.ownerKey = "Handler" ∧ c.handlerKey = "handler" := by decide
  have hrepeat : FirstRepeat [] [c.ownerKey, c.handlerKey] "handler" := by
    rw [hkeys.1, hkeys.2]
    exact ⟨["Handler"], [], rfl, by decide, by decide⟩
  obtain ⟨e, he⟩ : ∃ e, c.entry h { url := "x" } (.single .get) = .ok e := exists_entry_iff.2 ⟨.nil, .nil⟩
  refine ⟨hrepeat, by decide, e, he, ?_, ?_⟩
  · rw [(entries_of_entry he).1, impliedDefaults_same (by decide), hkeys.1]
    rfl
  · rw [ne_eq, owner_of_entry_iff he]
    decide

end Routebook.Config
