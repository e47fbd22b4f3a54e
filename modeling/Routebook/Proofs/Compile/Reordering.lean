import Routebook.Proofs.CaselessMap
import Routebook.Proofs.Compile.Enforcement
import Routebook.Proofs.Compile.Stages

/-!
# The order of markers

The stages of a handler scan its markers and stop at the first that is wrong, and its entry lists what they
give in the order in which it was found. Nothing else depends on this order.

* `Entry.Rearranges` : the same entry, its defaults and constraints in another order; it answers the same
  requests (`RouteTable.route_rearranged`) unless a matcher of the host looks at the values;
* `Handler.Reorders` : the same handler, its markers in another order; it fails at the same stage
  (`Handler.Reorders.flaw`) or gives an entry that is rearranged (`Handler.Reorders.rearranges`);
* `Handler.prepare_perm` : so the order of markers shows only in the order of what they give.
-/

namespace Routebook

open RouteTable (WellFormed)

/-! ## Rearranged entries -/

/-- A pattern asks of the defaults only which keys they have. -/
theorem Segment.Captures.congr {defaults defaults' : RouteValues} {segments : List Segment}
    {pieces : List (List Char)} {captures : List (String × RouteValue)}
    (hkeys : ∀ key, defaults'.contains key = defaults.contains key)
    (h : Captures defaults segments pieces captures) : Captures defaults' segments pieces captures := by
  induction h with
  | done => exact .done
  | literal hsame _ ih => exact .literal hsame ih
  | param hpiece _ ih => exact .param hpiece ih
  | missing hdefault _ ih => exact .missing ((hkeys _).trans hdefault) ih
  | rest htail => exact .rest htail
  | leftOut htail hdefault => exact .leftOut htail ((hkeys _).trans hdefault)
  | default htail hdefault => exact .default htail ((hkeys _).trans hdefault)

/-- A constraint that is no matcher asks of the values only the one under its key. -/
theorem Constraint.Accepts.congr {k : Constraint} {request : Request} {values values' : RouteValues}
    {key : String} (hk : ∀ m, k ≠ .custom m) (hvalue : values'.get? key = values.get? key)
    (h : k.Accepts request values key) : k.Accepts request values' key := by
  cases k with
  | methods names => exact h
  | custom m => exact absurd rfl (hk m)
  | pattern source =>
    rw [Accepts, hvalue]
    exact h

/-- The same entry, with its defaults and its constraints in another order. -/
structure Entry.Rearranges (e' e : Entry) : Prop where
  name : e'.name = e.name
  url : e'.url = e.url
  defaults : e'.defaults.entries.Perm e.defaults.entries
  constraints : e'.constraints.entries.Perm e.constraints.entries

namespace Entry.Rearranges

variable {e e' : Entry}

theorem symm (h : e'.Rearranges e) : e.Rearranges e' :=
  ⟨h.name.symm, h.url.symm, h.defaults.symm, h.constraints.symm⟩

theorem admissible (h : e'.Rearranges e) {before : List Entry} (ha : e.Admissible before) :
    e'.Admissible before where
  name b hb := h.name ▸ ha.name b hb
  url := h.url ▸ ha.url
  expressions key source hmem := ha.expressions key source (h.constraints.mem_iff.1 hmem)

theorem takes (h : e'.Rearranges e) (hfree : ∀ key m, (key, Constraint.custom m) ∉ e.constraints.entries)
    {request : Request} {values : RouteValues} (ht : e.Takes request values) :
    ∃ values', e'.Takes request values' ∧ values'.get? = values.get? := by
  obtain ⟨p, captures, hp, hcaptures, rfl⟩ := ht.matches_path
  have hdefaults := fun key => CaselessMap.get?_perm h.defaults key
  have hkeys : ∀ key, e'.defaults.contains key = e.defaults.contains key := fun key => by
    rw [CaselessMap.contains_eq_isSome, CaselessMap.contains_eq_isSome, hdefaults]
  have hvalues : (e'.defaults.insertMany captures).get? = (e.defaults.insertMany captures).get? := by
    funext key
    rw [CaselessMap.get?_insertMany, CaselessMap.get?_insertMany, hdefaults]
  refine ⟨_, ⟨⟨p, captures, h.url ▸ hp, hcaptures.congr hkeys, rfl⟩, fun key k hmem => ?_⟩, hvalues⟩
  have hmem' := h.constraints.mem_iff.1 hmem
  have hk : ∀ m, k ≠ .custom m := by
    rintro m rfl
    exact hfree key m hmem'
  exact (ht.accepts key k hmem').congr hk (congrFun hvalues key)

end Entry.Rearranges

namespace RouteTable

variable {e e' : Entry} {t t' : RouteTable} {method path : String}

theorem route_of_register_empty (hr : empty.register e = .ok t) {m : RouteMatch} :
    t.route method path = some m ↔ m.entry = e ∧ m.entry.Takes ⟨method, path⟩ m.values := by
  have hentries : t.entries = [e] := entries_of_register hr
  rw [(WellFormed.empty.register hr).route_eq_some_iff, hentries]
  constructor
  · rintro ⟨before, after, hsplit, htakes, -⟩
    exact ⟨List.mem_singleton.1 (by rw [hsplit]; simp), htakes⟩
  · rintro ⟨rfl, htakes⟩
    exact ⟨[], [], rfl, htakes, fun _ hmem => nomatch hmem⟩

theorem answer_of_rearranged (h : e'.Rearranges e)
    (hfree : ∀ key m, (key, Constraint.custom m) ∉ e.constraints.entries)
    (hr : empty.register e = .ok t) (hr' : empty.register e' = .ok t') {values : String → Option RouteValue}
    (hanswer : (t.route method path).map (fun m => m.values.get?) = some values) :
    (t'.route method path).map (fun m => m.values.get?) = some values := by
  obtain ⟨m, hm, rfl⟩ := Option.map_eq_some_iff.1 hanswer
  obtain ⟨rfl, htakes⟩ := (route_of_register_empty hr).1 hm
  obtain ⟨values', htakes', hvalues⟩ := h.takes hfree htakes
  exact Option.map_eq_some_iff.2 ⟨⟨e', values'⟩, (route_of_register_empty hr').2 ⟨rfl, htakes'⟩, hvalues⟩

/-- A rearranged entry alone answers the same requests, with the same value under every key. -/
theorem route_rearranged (h : e'.Rearranges e)
    (hfree : ∀ key m, (key, Constraint.custom m) ∉ e.constraints.entries)
    (hr : empty.register e = .ok t) (hr' : empty.register e' = .ok t') :
    (t'.route method path).map (fun m => m.values.get?) = (t.route method path).map fun m => m.values.get? := by
  have hfree' : ∀ key m, (key, Constraint.custom m) ∉ e'.constraints.entries := fun key m hmem =>
    hfree key m (h.constraints.mem_iff.1 hmem)
  apply Option.ext
  intro values
  exact ⟨answer_of_rearranged h.symm hfree' hr' hr, answer_of_rearranged h hfree hr hr'⟩

end RouteTable

/-! ## Reordered handlers -/

section Keys

variable {taken keys keys' : List String}

theorem Fresh.perm (hperm : keys'.Perm keys) (h : Fresh taken keys) : Fresh taken keys' where
  distinct := hperm.symm.pairwise h.distinct fun hne => Text.sameText_comm .. ▸ hne
  untaken key hkey := h.untaken key (hperm.mem_iff.1 hkey)

/-- In another order another key may be the first that repeats one, but there is one still. -/
theorem exists_firstRepeat_perm (hperm : keys'.Perm keys) (h : ∃ key, FirstRepeat taken keys key) :
    ∃ key, FirstRepeat taken keys' key := by
  rw [exists_firstRepeat_iff] at h ⊢
  exact fun hfresh => h (hfresh.perm hperm.symm)

end Keys

namespace Handler

/-- The same handler, with its markers in another order. -/
structure Reorders (h' h : Handler) : Prop where
  owner : h'.owner = h.owner
  name : h'.name = h.name
  markers : h'.markers.Perm h.markers

namespace Reorders

variable {c : Config} {h h' : Handler} {d : Declaration}

theorem symm (hr : h'.Reorders h) : h.Reorders h' := ⟨hr.owner.symm, hr.name.symm, hr.markers.symm⟩

theorem declarations (hr : h'.Reorders h) : h'.declarations.Perm h.declarations := hr.markers.filterMap _

theorem isExcluded (hr : h'.Reorders h) : h'.isExcluded = h.isExcluded := hr.markers.any_eq

theorem declarations_eq_nil (hr : h'.Reorders h) (hds : h.declarations = []) : h'.declarations = [] :=
  List.perm_nil.1 (hds ▸ hr.declarations)

theorem declarations_eq_singleton (hr : h'.Reorders h) (hd : h.declarations = [d]) : h'.declarations = [d] :=
  List.perm_singleton.1 (hd ▸ hr.declarations)

theorem known (hr : h'.Reorders h) (hknown : h.tokens.find? Verb.isUnknown = none) :
    h'.tokens.find? Verb.isUnknown = none := by
  rw [List.find?_eq_none] at hknown ⊢
  exact fun token htoken => hknown token ((hr.markers.flatMap_right Marker.tokens).mem_iff.1 htoken)

theorem union_eq (hr : h'.Reorders h) : h'.union = h.union := by
  have hnamed : h'.named.Perm h.named := hr.markers.flatMap_right Marker.named
  have hnil : h'.named = [] ↔ h.named = [] :=
    ⟨fun hnil => List.perm_nil.1 (hnil ▸ hnamed.symm), fun hnil => List.perm_nil.1 (hnil ▸ hnamed)⟩
  rw [union, union, VerbSet.ofList_perm hnamed]
  simp only [hnil]

theorem contributedDefaults (hr : h'.Reorders h) (d : Declaration) :
    (h'.contributedDefaults d).Perm (h.contributedDefaults d) := (hr.markers.filterMap _).append_left _

theorem contributedConstraints (hr : h'.Reorders h) (d : Declaration) :
    (h'.contributedConstraints d).Perm (h.contributedConstraints d) := (hr.markers.filterMap _).append_left _

theorem routable (hr : h'.Reorders h) (hroutable : h.Routable d) : h'.Routable d where
  declarations := hr.declarations_eq_singleton hroutable.declarations
  kept := hr.isExcluded.trans hroutable.kept
  known := hr.known hroutable.known

/-- A handler fails at the same stage; what it stumbles over there may be another thing. -/
theorem flaw (hr : h'.Reorders h) {err : CompileError} (hflaw : h.Flaw c err) :
    ∃ err', h'.Flaw c err' ∧ err'.kind = err.kind := by
  cases hflaw with
  | declarations hmany =>
    rw [← hr.declarations.length_eq] at hmany
    exact ⟨_, .declarations hmany, rfl⟩
  | exclusion hd hex =>
    exact ⟨_, .exclusion (hr.declarations_eq_singleton hd) (hr.isExcluded.trans hex), rfl⟩
  | token hd hex htoken =>
    cases htoken' : h'.tokens.find? Verb.isUnknown with
    | none => cases htoken.symm.trans (hr.symm.known htoken')
    | some token => exact ⟨_, .token (hr.declarations_eq_singleton hd) (hr.isExcluded.trans hex) htoken', rfl⟩
  | default hd hkey =>
    obtain ⟨key, hkey'⟩ := exists_firstRepeat_perm ((hr.contributedDefaults _).map _) ⟨_, hkey⟩
    exact ⟨_, .default (hr.routable hd) hkey', rfl⟩
  | constraint hd hfresh hkey =>
    obtain ⟨key, hkey'⟩ := exists_firstRepeat_perm ((hr.contributedConstraints _).map _) ⟨_, hkey⟩
    exact ⟨_, .constraint (hr.routable hd) (hfresh.perm ((hr.contributedDefaults _).map _)) hkey', rfl⟩

theorem made (hr : h'.Reorders h) (hmade : ∃ made, h.prepare c = .ok (some made)) :
    ∃ made, h'.prepare c = .ok (some made) := by
  obtain ⟨⟨verbs, e⟩, hmade⟩ := hmade
  obtain ⟨d, hd, rfl, he⟩ := prepare_eq_some_iff.1 hmade
  obtain ⟨hdefaults, hconstraints⟩ := Config.exists_entry_iff.1 ⟨e, he⟩
  obtain ⟨e', he'⟩ : ∃ e', c.entry h' d h'.union = .ok e' := Config.exists_entry_iff.2
    ⟨hdefaults.perm ((hr.contributedDefaults d).map _), hconstraints.perm ((hr.contributedConstraints d).map _)⟩
  exact ⟨_, prepare_eq_some_iff.2 ⟨d, hr.routable hd, rfl, he'⟩⟩

theorem rearranges (hr : h'.Reorders h) {verbs : VerbSet} {e e' : Entry} (he : c.entry h d verbs = .ok e)
    (he' : c.entry h' d verbs = .ok e') : e'.Rearranges e := by
  obtain ⟨hdefaults, hconstraints⟩ := Config.entries_of_entry he
  obtain ⟨hdefaults', hconstraints'⟩ := Config.entries_of_entry he'
  obtain ⟨m, n, -, -, rfl⟩ := Config.entry_eq_ok_iff.1 he
  obtain ⟨m', n', -, -, rfl⟩ := Config.entry_eq_ok_iff.1 he'
  have himplied : c.impliedDefaults h' = c.impliedDefaults h := by
    rw [Config.impliedDefaults, hr.owner, hr.name, Config.impliedDefaults]
  constructor
  case name => simp only [Config.nameOf, hr.owner, hr.name]
  case url => rfl
  case defaults =>
    rw [hdefaults, hdefaults', himplied]
    exact (hr.contributedDefaults d).append_left _
  case constraints =>
    rw [hconstraints, hconstraints']
    exact (hr.contributedConstraints d).cons _

end Reorders

/-- Markers in another order make no difference to whether a handler is skipped, made or refused, nor to the
kind of error. What is made is the same up to the order of defaults and constraints, with the same constraint
to the verbs. If no constraint is a matcher of the host, both entries can be registered or neither can, and a
table with one of them alone answers the requests that a table with the other alone does, with the same value
under every key. -/
theorem prepare_perm (c : Config) (h : Handler) {ms : List Marker} (hperm : ms.Perm h.markers) :
    let h' : Handler := { h with markers := ms }
    (h'.prepare c = .ok none ↔ h.prepare c = .ok none) ∧
    ((∃ made, h'.prepare c = .ok (some made)) ↔ ∃ made, h.prepare c = .ok (some made)) ∧
    (∀ kind, (∃ err, h'.prepare c = .error err ∧ err.kind = kind) ↔
      ∃ err, h.prepare c = .error err ∧ err.kind = kind) ∧
    ∀ verbs e verbs' e', h.prepare c = .ok (some (verbs, e)) → h'.prepare c = .ok (some (verbs', e')) →
      verbs' = verbs ∧ e'.Rearranges e ∧ e.constraints.get? c.verbKey = some (.ofVerbs verbs) ∧
      e'.constraints.get? c.verbKey = some (.ofVerbs verbs) ∧
      ((∀ key m, (key, Constraint.custom m) ∉ e.constraints.entries) →
        ((∃ t, RouteTable.empty.register e' = .ok t) ↔ ∃ t, RouteTable.empty.register e = .ok t) ∧
        ∀ t t', RouteTable.empty.register e = .ok t → RouteTable.empty.register e' = .ok t' →
          ∀ method path, (t'.route method path).map (fun m => m.values.get?) =
            (t.route method path).map fun m => m.values.get?) := by
  intro h'
  have hr : h'.Reorders h := ⟨rfl, rfl, hperm⟩
  refine ⟨?_, ⟨hr.symm.made, hr.made⟩, fun kind => ?_, ?_⟩
  · rw [prepare_eq_none_iff, prepare_eq_none_iff]
    exact ⟨hr.symm.declarations_eq_nil, hr.declarations_eq_nil⟩
  · simp only [prepare_eq_error_iff]
    constructor
    · rintro ⟨err, hflaw, rfl⟩
      exact hr.symm.flaw hflaw
    · rintro ⟨err, hflaw, rfl⟩
      exact hr.flaw hflaw
  · intro verbs e verbs' e' hsome hsome'
    obtain ⟨d, hd, rfl, he⟩ := prepare_eq_some_iff.1 hsome
    obtain ⟨d', hd', rfl, he'⟩ := prepare_eq_some_iff.1 hsome'
    cases (hr.routable hd).declarations.symm.trans hd'.declarations
    rw [hr.union_eq] at he' ⊢
    have hsame := hr.rearranges he he'
    have hget : e.constraints.get? c.verbKey = some (.ofVerbs h.union) :=
      CaselessMap.get?_eq_some_iff.2 ⟨_, Config.verbs_mem_of_entry he, Text.sameText_refl _⟩
    refine ⟨rfl, hsame, hget, ?_, fun hfree => ⟨?_, fun t t' ht ht' method path => ?_⟩⟩
    · rw [CaselessMap.get?_perm hsame.constraints, hget]
    · rw [WellFormed.empty.exists_register_iff, WellFormed.empty.exists_register_iff]
      exact ⟨hsame.symm.admissible, hsame.admissible⟩
    · exact RouteTable.route_rearranged hsame hfree ht ht'

/-- In reverse the markers give the same defaults the other way round, and the same answers. Of two defaults that
are given twice either may be found. -/
theorem prepare_perm_reverse :
    let d : Declaration := { url := "x/\x7bid\x7d" }
    let h : Handler := ⟨"T", "h", [.acceptVerbs [" put"], .route d,
      .constraint "m" (.methods ["put"]), .optional "id", .default "p" .optional, .verb .get]⟩
    let bad : Handler := ⟨"T", "h", [.optional "a", .optional "b", .optional "B", .route d, .optional "A"]⟩
    (∃ verbs e e' t t', h.prepare {} = .ok (some (verbs, e)) ∧
      prepare {} { h with markers := h.markers.reverse } = .ok (some (verbs, e')) ∧ e'.Rearranges e ∧
      e.defaults.keys = ["owner", "handler", "id", "p"] ∧ e'.defaults.keys = ["owner", "handler", "p", "id"] ∧
      RouteTable.empty.register e = .ok t ∧ RouteTable.empty.register e' = .ok t' ∧
      (t.route "PUT" "/X/7").bind (·.text? "id") = some "7" ∧
      (t'.route "PUT" "/X/7").map (fun m => m.values.get?) =
        (t.route "PUT" "/X/7").map fun m => m.values.get?) ∧
    bad.prepare {} = .error (.duplicateDefault "T" "h" "B") ∧
    ∃ err, prepare {} { bad with markers := bad.markers.reverse } = .error err ∧
      err.kind = "DuplicateParameterDefault" := by
  intro d h bad
  let look (made : VerbSet × Entry) := (made.2.defaults.keys, (RouteTable.empty.register made.2).toOption.map
    fun t => (t.route "PUT" "/X/7").bind (·.text? "id"))
  have hlook : (h.prepare {}).map (Option.map look) =
      .ok (some (["owner", "handler", "id", "p"], some (some "7"))) := by
    dsimp only [h, d, look]
    with_unfolding_all rfl
  have hlook' : (prepare {} { h with markers := h.markers.reverse }).map (Option.map look) =
      .ok (some (["owner", "handler", "p", "id"], some (some "7"))) := by
    dsimp only [h, d, look]
    with_unfolding_all rfl
  have hsee : ∀ {a : Handler} {keys : List String}, (a.prepare {}).map (Option.map look) =
      .ok (some (keys, some (some "7"))) → ∃ verbs e t, a.prepare {} = .ok (some (verbs, e)) ∧
        e.defaults.keys = keys ∧ RouteTable.empty.register e = .ok t ∧
        (t.route "PUT" "/X/7").bind (·.text? "id") = some "7" := by
    intro a keys hlook
    cases hmade : a.prepare {} with
    | error err => simp [hmade, Except.map] at hlook
    | ok made =>
      obtain _ | ⟨verbs, e⟩ := made
      · simp [hmade, Except.map] at hlook
      · cases ht : RouteTable.empty.register e with
        | error err => simp [hmade, Except.map, look, ht, Except.toOption] at hlook
        | ok t =>
          obtain ⟨hkeys, htext⟩ : e.defaults.keys = keys ∧ (t.route "PUT" "/X/7").bind (·.text? "id") = some "7" := by
            simpa [hmade, Except.map, look, ht, Except.toOption] using hlook
          exact ⟨verbs, e, t, rfl, hkeys, ht, htext⟩
  have hbad : bad.prepare {} = .error (.duplicateDefault "T" "h" "B") := by
    dsimp only [bad, d]
    with_unfolding_all rfl
  obtain ⟨-, -, -, hsame⟩ := prepare_perm {} h h.markers.reverse_perm
  obtain ⟨-, -, hkind, -⟩ := prepare_perm {} bad bad.markers.reverse_perm
  obtain ⟨verbs, e, t, he, hkeys, ht, htext⟩ := hsee hlook
  obtain ⟨verbs', e', t', he', hkeys', ht', -⟩ := hsee hlook'
  obtain ⟨rfl, hrearranges, -, -, halone⟩ := hsame verbs e verbs' e' he he'
  have hfree : ∀ key m, (key, Constraint.custom m) ∉ e.constraints.entries := by
    obtain ⟨d', hd, rfl, hentry⟩ := prepare_eq_some_iff.1 he
    cases hd.declarations
    rw [(Config.entries_of_entry hentry).2]
    simp [contributedConstraints, h, d, CaselessMap.empty, Marker.constraint?, Constraint.ofVerbs]
  exact ⟨⟨verbs', e, e', t, t', he, he', hrearranges, hkeys, hkeys', ht, ht', htext,
    (halone hfree).2 t t' ht ht' "PUT" "/X/7"⟩, hbad, (hkind _).2 ⟨_, hbad, rfl⟩⟩

end Handler

end Routebook
