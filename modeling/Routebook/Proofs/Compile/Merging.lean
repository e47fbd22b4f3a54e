import Routebook.Compile.Entry
import Routebook.Proofs.CaselessMap

/-!
# What an entry is made of

An entry gets its defaults and its constraints from several sources, one after the other. A key that is
there already ends the merging.

* `Fresh` : keys that can be merged; `FirstRepeat` : the key that ends the merging;
* `Config.exists_merge_iff`, `Config.merge_eq_error_iff` : when a list is merged, and where it ends;
* `Handler.contributedDefaults`, `Handler.contributedConstraints` : what the declaration and the markers
  give, in order; `Config.impliedDefaults` : what stands in front of it;
* `Config.entry_iff_fresh` : an entry is made just when both are fresh, and holds all of it.
-/

namespace Routebook

open Text (sameText)

/-! ## Keys -/

section Keys

variable {taken keys : List String} {key : String}

/-- The key is one of those taken, in some case. -/
def Taken (taken : List String) (key : String) : Prop := ∃ k ∈ taken, sameText k key = true

/-- No key is taken, and no two are the same. -/
structure Fresh (taken keys : List String) : Prop where
  distinct : keys.Pairwise fun a b => sameText a b = false
  untaken : ∀ key ∈ keys, ¬ Taken taken key

theorem fresh_iff : Fresh taken keys ↔
    (keys.Pairwise fun a b => sameText a b = false) ∧ ∀ key ∈ keys, ¬ Taken taken key :=
  ⟨fun h => ⟨h.1, h.2⟩, fun h => ⟨h.1, h.2⟩⟩

instance : Decidable (Taken taken key) :=
  inferInstanceAs (Decidable (∃ k ∈ taken, sameText k key = true))

instance : Decidable (Fresh taken keys) := decidable_of_iff _ fresh_iff.symm

/-- The first of the keys that is taken, or the same as one in front of it. -/
def FirstRepeat (taken keys : List String) (key : String) : Prop :=
  ∃ before after, keys = before ++ key :: after ∧ Fresh taken before ∧ Taken (taken ++ before) key

theorem taken_concat {k : String} : Taken (taken ++ [k]) key ↔ Taken taken key ∨ sameText k key = true := by
  simp [Taken, or_and_right, exists_or]

theorem Fresh.nil : Fresh taken [] := ⟨.nil, nofun⟩

theorem fresh_cons : Fresh taken (key :: keys) ↔ ¬ Taken taken key ∧ Fresh (taken ++ [key]) keys := by
  constructor
  · rintro ⟨hdistinct, huntaken⟩
    rw [List.pairwise_cons] at hdistinct
    refine ⟨huntaken key List.mem_cons_self, hdistinct.2, fun k hk htaken => ?_⟩
    rcases taken_concat.1 htaken with hold | hsame
    · exact huntaken k (List.mem_cons_of_mem key hk) hold
    · rw [hdistinct.1 k hk] at hsame
      cases hsame
  · rintro ⟨hkey, hdistinct, huntaken⟩
    refine ⟨List.pairwise_cons.2 ⟨fun k hk => ?_, hdistinct⟩,
      List.forall_mem_cons.2 ⟨hkey, fun k hk hold => ?_⟩⟩
    · rw [← Bool.not_eq_true]
      exact fun hsame => huntaken k hk (taken_concat.2 (.inr hsame))
    · exact huntaken k hk (taken_concat.2 (.inl hold))

theorem not_firstRepeat_nil : ¬ FirstRepeat taken [] key := by
  rintro ⟨before, after, hsplit, -⟩
  exact absurd hsplit.symm (by simp)

/-- Either the first key is the repeated one, or the search goes on behind it. -/
theorem firstRepeat_cons {k : String} : FirstRepeat taken (k :: keys) key ↔
    (Taken taken k ∧ k = key) ∨ (¬ Taken taken k ∧ FirstRepeat (taken ++ [k]) keys key) := by
  constructor
  · rintro ⟨_ | ⟨b, before⟩, after, hsplit, hfresh, htaken⟩
    · cases hsplit
      rw [List.append_nil] at htaken
      exact .inl ⟨htaken, rfl⟩
    · cases hsplit
      rw [fresh_cons] at hfresh
      rw [List.append_cons] at htaken
      exact .inr ⟨hfresh.1, before, after, rfl, hfresh.2, htaken⟩
  · rintro (⟨htaken, rfl⟩ | ⟨hk, before, after, rfl, hfresh, htaken⟩)
    · refine ⟨[], keys, rfl, .nil, ?_⟩
      rw [List.append_nil]
      exact htaken
    · rw [← List.append_cons] at htaken
      exact ⟨k :: before, after, rfl, fresh_cons.2 ⟨hk, hfresh⟩, htaken⟩

end Keys

/-! ## Merging -/

namespace Config

section Merge

variable {α : Type} {m : CaselessMap α} {l : List (String × α)} {taken : List String}

theorem merge_cons_old {e : String × α} (h : m.contains e.1 = true) : merge m (e :: l) = .error e.1 := by
  rw [merge, CaselessMap.insertIfNew?, dif_neg (by rw [h]; exact Bool.true_eq_false.mp)]

theorem merge_cons_new {e : String × α} (h : m.contains e.1 = false) :
    merge m (e :: l) = merge (m.append e.1 e.2 h) l := by
  rw [merge, CaselessMap.insertIfNew?, dif_pos h]

theorem contains_append_iff (htaken : ∀ k, m.contains k = true ↔ Taken taken k) {key : String} {value : α}
    (h : m.contains key = false) (k : String) :
    (m.append key value h).contains k = true ↔ Taken (taken ++ [key]) k := by
  rw [taken_concat, ← htaken k]
  simp [CaselessMap.contains, CaselessMap.append]

/-- A list is merged just when its keys are fresh. -/
theorem exists_merge_iff (htaken : ∀ k, m.contains k = true ↔ Taken taken k) :
    (∃ n, merge m l = .ok n) ↔ Fresh taken (l.map Prod.fst) := by
  induction l generalizing m taken with
  | nil => exact iff_of_true ⟨m, rfl⟩ .nil
  | cons e rest ih =>
    rw [List.map_cons, fresh_cons, ← htaken e.1]
    cases h : m.contains e.1 with
    | true => simp [merge_cons_old h]
    | false =>
      rw [merge_cons_new h, ih (contains_append_iff htaken h)]
      simp

/-- Merging ends at the first key that repeats another. -/
theorem merge_eq_error_iff (htaken : ∀ k, m.contains k = true ↔ Taken taken k) {key : String} :
    merge m l = .error key ↔ FirstRepeat taken (l.map Prod.fst) key := by
  induction l generalizing m taken with
  | nil => exact iff_of_false nofun not_firstRepeat_nil
  | cons e rest ih =>
    rw [List.map_cons, firstRepeat_cons, ← htaken e.1]
    cases h : m.contains e.1 with
    | true => simp [merge_cons_old h]
    | false =>
      rw [merge_cons_new h, ih (contains_append_iff htaken h)]
      simp

end Merge

end Config

/-! ## What is merged -/

namespace Handler

/-- The defaults that the declaration and the markers give, in order. -/
def contributedDefaults (h : Handler) (d : Declaration) : List (String × RouteValue) :=
  d.defaults.entries ++ h.markers.filterMap Marker.default?

/-- The constraints that the declaration and the markers give, in order. -/
def contributedConstraints (h : Handler) (d : Declaration) : List (String × Constraint) :=
  d.constraints.entries ++ h.markers.filterMap Marker.constraint?

end Handler

namespace Config

variable {c : Config} {h : Handler} {d : Declaration} {verbs : VerbSet} {e : Entry} {err : CompileError}

/-- The defaults that every entry of the handler has: the owner and the handler's name. If their keys are
the same, the name takes the owner's place. -/
def impliedDefaults (c : Config) (h : Handler) : List (String × RouteValue) :=
  if sameText c.ownerKey c.handlerKey = true then [(c.ownerKey, .ofText h.name)]
  else [(c.ownerKey, .ofText (c.shownOwner h.owner)), (c.handlerKey, .ofText h.name)]

/-- The map of these defaults. -/
def implied (c : Config) (h : Handler) : RouteValues :=
  (CaselessMap.empty.insert c.ownerKey (.ofText (c.shownOwner h.owner))).insert c.handlerKey (.ofText h.name)

theorem entries_implied (c : Config) (h : Handler) : (c.implied h).entries = c.impliedDefaults h := by
  unfold implied impliedDefaults CaselessMap.insert
  cases hsame : sameText c.ownerKey c.handlerKey <;>
    simp [CaselessMap.append, CaselessMap.overwrite, CaselessMap.contains, CaselessMap.empty, hsame]

theorem contains_implied (key : String) :
    (c.implied h).contains key = true ↔ Taken [c.ownerKey, c.handlerKey] key := by
  rw [implied, CaselessMap.contains_insert, CaselessMap.contains_insert]
  simp [Taken, CaselessMap.contains, CaselessMap.empty, or_comm]

theorem contains_verbs (key : String) :
    (CaselessMap.empty.insert c.verbKey (Constraint.ofVerbs verbs)).contains key = true ↔
      Taken [c.verbKey] key := by
  rw [CaselessMap.contains_insert]
  simp [Taken, CaselessMap.contains, CaselessMap.empty]

/-! ## Entries -/

section MapError

variable {ε α : Type} {x : Except ε α} {f : ε → CompileError}

@[simp] theorem mapError_ok (a : α) : (Except.ok a : Except ε α).mapError f = .ok a := rfl

@[simp] theorem mapError_error (key : ε) : (Except.error key : Except ε α).mapError f = .error (f key) := rfl

theorem mapError_eq_ok_iff {a : α} : x.mapError f = .ok a ↔ x = .ok a := by
  cases x <;> simp

theorem mapError_eq_error_iff : x.mapError f = .error err ↔ ∃ key, x = .error key ∧ err = f key := by
  cases x <;> simp [eq_comm]

end MapError

theorem defaults_eq (c : Config) (h : Handler) (d : Declaration) : c.defaults h d =
    (merge (c.implied h) (h.contributedDefaults d)).mapError (.duplicateDefault h.owner h.name) := by
  rw [defaults, ← Handler.contributedDefaults, ← implied]
  cases merge (c.implied h) (h.contributedDefaults d) <;> rfl

theorem constraints_eq (c : Config) (h : Handler) (d : Declaration) (verbs : VerbSet) :
    c.constraints h d verbs = (merge (CaselessMap.empty.insert c.verbKey (.ofVerbs verbs))
      (h.contributedConstraints d)).mapError (.duplicateConstraint h.owner h.name) := by
  rw [constraints, ← Handler.contributedConstraints]
  cases merge (CaselessMap.empty.insert c.verbKey (.ofVerbs verbs)) (h.contributedConstraints d) <;> rfl

theorem exists_defaults_iff : (∃ m, c.defaults h d = .ok m) ↔
    Fresh [c.ownerKey, c.handlerKey] ((h.contributedDefaults d).map Prod.fst) := by
  simp only [defaults_eq, mapError_eq_ok_iff]
  exact exists_merge_iff contains_implied

theorem exists_constraints_iff : (∃ m, c.constraints h d verbs = .ok m) ↔
    Fresh [c.verbKey] ((h.contributedConstraints d).map Prod.fst) := by
  simp only [constraints_eq, mapError_eq_ok_iff]
  exact exists_merge_iff contains_verbs

theorem defaults_eq_error_iff : c.defaults h d = .error err ↔ ∃ key,
    FirstRepeat [c.ownerKey, c.handlerKey] ((h.contributedDefaults d).map Prod.fst) key ∧
    err = .duplicateDefault h.owner h.name key := by
  simp only [defaults_eq, mapError_eq_error_iff, merge_eq_error_iff contains_implied]

theorem constraints_eq_error_iff : c.constraints h d verbs = .error err ↔ ∃ key,
    FirstRepeat [c.verbKey] ((h.contributedConstraints d).map Prod.fst) key ∧
    err = .duplicateConstraint h.owner h.name key := by
  simp only [constraints_eq, mapError_eq_error_iff, merge_eq_error_iff contains_verbs]

theorem entries_of_defaults {m : RouteValues} (hm : c.defaults h d = .ok m) :
    m.entries = c.impliedDefaults h ++ h.contributedDefaults d := by
  rw [defaults_eq, mapError_eq_ok_iff] at hm
  rw [entries_of_merge hm, entries_implied]

theorem entries_of_constraints {m : Constraints} (hm : c.constraints h d verbs = .ok m) :
    m.entries = (c.verbKey, .ofVerbs verbs) :: h.contributedConstraints d := by
  rw [constraints_eq, mapError_eq_ok_iff] at hm
  exact entries_of_merge hm

theorem entry_eq_ok_iff : c.entry h d verbs = .ok e ↔ ∃ defaults constraints,
    c.defaults h d = .ok defaults ∧ c.constraints h d verbs = .ok constraints ∧
    e = { name := c.nameOf h d verbs, url := d.url, defaults, constraints } := by
  unfold entry
  cases c.defaults h d with
  | error err => simp
  | ok defaults => cases c.constraints h d verbs <;> simp [eq_comm]

/-- An error about the constraints comes only after the defaults. -/
theorem entry_eq_error_iff : c.entry h d verbs = .error err ↔ c.defaults h d = .error err ∨
    (∃ m, c.defaults h d = .ok m) ∧ c.constraints h d verbs = .error err := by
  unfold entry
  cases c.defaults h d with
  | error err => simp
  | ok defaults => cases c.constraints h d verbs <;> simp

theorem exists_entry_iff : (∃ e, c.entry h d verbs = .ok e) ↔
    Fresh [c.ownerKey, c.handlerKey] ((h.contributedDefaults d).map Prod.fst) ∧
      Fresh [c.verbKey] ((h.contributedConstraints d).map Prod.fst) := by
  rw [← exists_defaults_iff, ← @exists_constraints_iff c h d verbs]
  simp only [entry_eq_ok_iff]
  constructor
  · rintro ⟨-, m, n, hm, hn, -⟩
    exact ⟨⟨m, hm⟩, n, hn⟩
  · rintro ⟨⟨m, hm⟩, n, hn⟩
    exact ⟨_, m, n, hm, hn, rfl⟩

/-- What is implied comes first among the defaults of an entry, and the verbs among its constraints. -/
theorem entries_of_entry (he : c.entry h d verbs = .ok e) :
    e.defaults.entries = c.impliedDefaults h ++ h.contributedDefaults d ∧
      e.constraints.entries = (c.verbKey, .ofVerbs verbs) :: h.contributedConstraints d := by
  obtain ⟨m, n, hm, hn, rfl⟩ := entry_eq_ok_iff.1 he
  exact ⟨entries_of_defaults hm, entries_of_constraints hn⟩

end Config

end Routebook
