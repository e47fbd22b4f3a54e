import Mathlib.Data.List.Permutation
import Routebook.Proofs.CaselessMap
import Routebook.Proofs.Catalog.Loading

/-!
# What a written route keeps

A document writes defaults and constraints of a route as objects, whose keys differ in case; an
initializer's route also lists parameters that may be left out, and verbs. All of these are written
into maps whose keys compare without regard to case, each over what was there.

* `RouteContributions` : what is written for a route, in a marker or in an initializer;
* `RouteContributions.defaultWrites`, `RouteContributions.constraintWrites` : the writes in order;
* `RouteContributions.Kept` : every pair of the objects is found under its key;
* `RouteContributions.Agree` : no two contributions to one key differ; just then all are kept
  (`kept_iff_agree`);
* `Catalog.writes_of_parse` : this for every route of every catalog that was read from a text.
-/

namespace Routebook

open Text (sameText)

/-- What a document writes for a route. -/
structure RouteContributions where
  defaults : JsonMembers
  /-- parameters that may be left out -/
  optional : List String := []
  constraints : JsonMembers
  /-- names of verbs -/
  verbs : List String := []

namespace RouteContributions

variable {ms : Matchers} {w : RouteContributions}

/-- The defaults that are written, in order. -/
def defaultWrites (w : RouteContributions) : List (String × RouteValue) :=
  literals w.defaults ++ w.optional.map fun k => (k, .optional)

/-- The constraint to the verbs, written last if there are any. -/
def verbWrites (w : RouteContributions) : Except CatalogFault (List (String × Constraint)) :=
  if w.verbs.isEmpty then .ok []
  else do return [(verbsKey, .ofVerbs (VerbSet.ofList (← w.verbs.mapM namedVerb)))]

/-- The constraints that are written, in order. -/
def constraintWrites (ms : Matchers) (w : RouteContributions) :
    Except CatalogFault (List (String × Constraint)) := do
  let pairs ← w.constraints.mapM fun e => do return (e.1, ← constraintOf ms e.2)
  return pairs ++ (← w.verbWrites)

/-- Every pair of the objects is found under its key: the literal of a default, and the constraint
that a value stands for. -/
structure Kept (ms : Matchers) (w : RouteContributions) (defaults : RouteValues)
    (constraints : Constraints) : Prop where
  defaults : ∀ key value, (key, value) ∈ w.defaults → defaults.get? key = some (.literal value)
  constraints : ∀ key value, (key, value) ∈ w.constraints →
    ∃ k, constraintOf ms value = .ok k ∧ constraints.get? key = some k

/-- What is contributed to one key is the same each time. -/
structure Agree (ms : Matchers) (w : RouteContributions) : Prop where
  defaults : ∀ key value key' value', (key, value) ∈ w.defaults → (key', value') ∈ w.defaults →
    sameText key key' = true → value = value'
  optional : ∀ key value, (key, value) ∈ w.defaults → ∀ name ∈ w.optional, sameText key name = false
  constraints : ∀ key value key' value', (key, value) ∈ w.constraints →
    (key', value') ∈ w.constraints → sameText key key' = true →
    constraintOf ms value = constraintOf ms value'
  verbs : ∀ verbs, w.verbs ≠ [] → w.verbs.mapM namedVerb = .ok verbs →
    ∀ key value, (key, value) ∈ w.constraints → sameText key verbsKey = true →
    constraintOf ms value = .ok (.ofVerbs (VerbSet.ofList verbs))

/-! ## The writes -/

theorem verbWrites_eq_ok_iff {writes : List (String × Constraint)} : w.verbWrites = .ok writes ↔
    (w.verbs = [] ∧ writes = []) ∨ ∃ verbs, w.verbs ≠ [] ∧ w.verbs.mapM namedVerb = .ok verbs ∧
      writes = [(verbsKey, .ofVerbs (VerbSet.ofList verbs))] := by
  unfold verbWrites
  cases hverbs : w.verbs with
  | nil => simp [eq_comm]
  | cons token rest =>
    rw [List.isEmpty_cons, if_neg Bool.false_ne_true, bind_eq_ok_iff]
    constructor
    · rintro ⟨verbs, hok, h⟩
      exact .inr ⟨verbs, List.cons_ne_nil _ _, hok, (Except.ok.inj h).symm⟩
    · rintro (⟨h, -⟩ | ⟨verbs, -, hok, rfl⟩)
      · cases h
      · exact ⟨verbs, hok, rfl⟩

theorem constraintWrites_eq_ok_iff {writes : List (String × Constraint)} :
    w.constraintWrites ms = .ok writes ↔ ∃ pairs verbs, List.Forall₂ (Writes ms) w.constraints pairs ∧
      w.verbWrites = .ok verbs ∧ writes = pairs ++ verbs := by
  unfold constraintWrites
  rw [bind_eq_ok_iff]
  simp only [constraintPairs_eq_ok_iff, bind_eq_ok_iff]
  constructor
  · rintro ⟨pairs, hpairs, verbs, hverbs, h⟩
    exact ⟨pairs, verbs, hpairs, hverbs, (Except.ok.inj h).symm⟩
  · rintro ⟨pairs, verbs, hpairs, hverbs, rfl⟩
    exact ⟨pairs, hpairs, verbs, hverbs, rfl⟩

/-! ## What is kept -/

theorem defaults_kept_iff : (∀ key value, (key, value) ∈ w.defaults →
      (CaselessMap.ofList w.defaultWrites).get? key = some (.literal value)) ↔
    (∀ key value key' value', (key, value) ∈ w.defaults → (key', value') ∈ w.defaults →
      sameText key key' = true → value = value') ∧
    ∀ key value, (key, value) ∈ w.defaults → ∀ name ∈ w.optional, sameText key name = false := by
  have hmarks : ∀ e ∈ w.optional.map fun k => (k, RouteValue.optional), e.2 = .optional := by
    intro e he
    obtain ⟨k, -, rfl⟩ := List.mem_map.1 he
    rfl
  have hkeeps := @CaselessMap.ofList_keeps_iff _ (literals w.defaults) _
    fun e he e' he' _ => (hmarks e he).trans (hmarks e' he').symm
  have hfront : (∀ e ∈ literals w.defaults, (CaselessMap.ofList w.defaultWrites).get? e.1 = some e.2) ↔
      ∀ key value, (key, value) ∈ w.defaults →
        (CaselessMap.ofList w.defaultWrites).get? key = some (.literal value) := by
    simp only [literals, List.forall_mem_map, Prod.forall]
  rw [← hfront, defaultWrites, hkeeps]
  simp only [literals, List.forall_mem_append, List.forall_mem_map, Prod.forall]
  constructor
  · intro h
    refine ⟨fun key value key' value' hmem hmem' hsame => ?_, fun key value hmem name hname => ?_⟩
    · exact RouteValue.literal.inj ((h key value hmem).1 key' value' hmem' hsame)
    · cases hsame : sameText key name with
      | false => rfl
      | true => cases (h key value hmem).2 name hname hsame
  · rintro ⟨hpairs, hoptional⟩ key value hmem
    refine ⟨fun key' value' hmem' hsame => ?_, fun name hname hsame => ?_⟩
    · rw [hpairs key value key' value' hmem hmem' hsame]
    · cases (hoptional key value hmem name hname).symm.trans hsame

theorem exists_write_of_mem {members : JsonMembers} {pairs : List (String × Constraint)}
    (h : List.Forall₂ (Writes ms) members pairs) {key : String} {value : Json}
    (hmem : (key, value) ∈ members) :
    ∃ k, constraintOf ms value = .ok k ∧ (key, k) ∈ pairs := by
  induction h with
  | nil => exact nomatch hmem
  | @cons e p members pairs hw _ ih =>
    rcases List.mem_cons.1 hmem with rfl | hmem
    · obtain ⟨hkey, hk⟩ := hw
      exact ⟨p.2, constraintOf_eq_ok_iff.2 hk, List.mem_cons.2 (.inl (Prod.ext hkey.symm rfl))⟩
    · obtain ⟨k, hk, hp⟩ := ih hmem
      exact ⟨k, hk, List.mem_cons_of_mem p hp⟩

theorem exists_member_of_write {members : JsonMembers} {pairs : List (String × Constraint)}
    (h : List.Forall₂ (Writes ms) members pairs) {p : String × Constraint} (hp : p ∈ pairs) :
    ∃ value, (p.1, value) ∈ members ∧ constraintOf ms value = .ok p.2 := by
  induction h with
  | nil => exact nomatch hp
  | @cons e p' members pairs hw _ ih =>
    rcases List.mem_cons.1 hp with rfl | hp
    · obtain ⟨hkey, hk⟩ := hw
      exact ⟨e.2, List.mem_cons.2 (.inl (Prod.ext hkey rfl)), constraintOf_eq_ok_iff.2 hk⟩
    · obtain ⟨value, hmem, hk⟩ := ih hp
      exact ⟨value, List.mem_cons_of_mem e hmem, hk⟩

/-- Pairs are found again just when what they stand for agrees, with the verbs as well. -/
theorem constraints_kept_iff {pairs verbs : List (String × Constraint)}
    (hpairs : List.Forall₂ (Writes ms) w.constraints pairs) (hverbs : w.verbWrites = .ok verbs) :
    (∀ key value, (key, value) ∈ w.constraints → ∃ k, constraintOf ms value = .ok k ∧
      (CaselessMap.ofList (pairs ++ verbs)).get? key = some k) ↔
    (∀ key value key' value', (key, value) ∈ w.constraints → (key', value') ∈ w.constraints →
      sameText key key' = true → constraintOf ms value = constraintOf ms value') ∧
    ∀ key value, (key, value) ∈ w.constraints → ∀ v ∈ verbs, sameText key v.1 = true →
      constraintOf ms value = .ok v.2 := by
  have hone : ∀ v ∈ verbs, ∀ v' ∈ verbs, v = v' := by
    rcases verbWrites_eq_ok_iff.1 hverbs with ⟨-, rfl⟩ | ⟨_, -, -, rfl⟩
    · exact fun _ hv => nomatch hv
    · intro v hv v' hv'
      rw [List.mem_singleton.1 hv, List.mem_singleton.1 hv']
  have hkeeps := @CaselessMap.ofList_keeps_iff _ pairs verbs
    fun v hv v' hv' _ => congrArg Prod.snd (hone v hv v' hv')
  have hfront : (∀ p ∈ pairs, (CaselessMap.ofList (pairs ++ verbs)).get? p.1 = some p.2) ↔
      ∀ key value, (key, value) ∈ w.constraints → ∃ k, constraintOf ms value = .ok k ∧
        (CaselessMap.ofList (pairs ++ verbs)).get? key = some k := by
    constructor
    · intro h key value hmem
      obtain ⟨k, hk, hp⟩ := exists_write_of_mem hpairs hmem
      exact ⟨k, hk, h (key, k) hp⟩
    · intro h p hp
      obtain ⟨value, hmem, hk⟩ := exists_member_of_write hpairs hp
      obtain ⟨k, hk', hget⟩ := h p.1 value hmem
      rw [hget, Except.ok.inj (hk.symm.trans hk')]
  rw [← hfront, hkeeps]
  constructor
  · intro h
    refine ⟨fun key value key' value' hmem hmem' hsame => ?_, fun key value hmem v hv hsame => ?_⟩
    · obtain ⟨k, hk, hp⟩ := exists_write_of_mem hpairs hmem
      obtain ⟨k', hk', hp'⟩ := exists_write_of_mem hpairs hmem'
      rw [hk, hk', show k = k' from h (key, k) hp (key', k') (List.mem_append_left verbs hp') hsame]
    · obtain ⟨k, hk, hp⟩ := exists_write_of_mem hpairs hmem
      rw [hk, show k = v.2 from h (key, k) hp v (List.mem_append_right pairs hv) hsame]
  · rintro ⟨hagree, hverb⟩ p hp p' hp' hsame
    obtain ⟨value, hmem, hk⟩ := exists_member_of_write hpairs hp
    rcases List.mem_append.1 hp' with hp' | hp'
    · obtain ⟨value', hmem', hk'⟩ := exists_member_of_write hpairs hp'
      rw [hagree _ _ _ _ hmem hmem' hsame, hk'] at hk
      exact (Except.ok.inj hk).symm
    · rw [hverb _ _ hmem p' hp' hsame] at hk
      exact (Except.ok.inj hk).symm

/-- What is written for a route is kept just when no two contributions to one key differ. -/
theorem kept_iff_agree {writes : List (String × Constraint)} (h : w.constraintWrites ms = .ok writes) :
    w.Kept ms (.ofList w.defaultWrites) (.ofList writes) ↔ w.Agree ms := by
  obtain ⟨pairs, verbs, hpairs, hverbs, rfl⟩ := constraintWrites_eq_ok_iff.1 h
  have hdefaults := @defaults_kept_iff w
  have hconstraints := constraints_kept_iff hpairs hverbs
  have hverb : (∀ key value, (key, value) ∈ w.constraints → ∀ v ∈ verbs, sameText key v.1 = true →
      constraintOf ms value = .ok v.2) ↔ ∀ vs, w.verbs ≠ [] → w.verbs.mapM namedVerb = .ok vs →
      ∀ key value, (key, value) ∈ w.constraints → sameText key verbsKey = true →
      constraintOf ms value = .ok (.ofVerbs (VerbSet.ofList vs)) := by
    rcases verbWrites_eq_ok_iff.1 hverbs with ⟨hnone, rfl⟩ | ⟨vs, hsome, hvs, rfl⟩
    · simp [hnone]
    · constructor
      · intro hv vs' _ hvs' key value hmem hsame
        obtain rfl := Except.ok.inj (hvs.symm.trans hvs')
        exact hv key value hmem _ List.mem_cons_self hsame
      · intro hv key value hmem v hmemv hsame
        rw [List.mem_singleton.1 hmemv] at hsame ⊢
        exact hv vs hsome hvs key value hmem hsame
  constructor
  · intro hkept
    obtain ⟨hpair, hoptional⟩ := hdefaults.1 hkept.defaults
    obtain ⟨hagree, hv⟩ := hconstraints.1 hkept.constraints
    exact ⟨hpair, hoptional, hagree, hverb.1 hv⟩
  · intro ha
    exact ⟨hdefaults.2 ⟨ha.defaults, ha.optional⟩, hconstraints.2 ⟨ha.constraints, hverb.2 ha.verbs⟩⟩

end RouteContributions

/-! ## Routes of documents -/

/-- What a route of an initializer writes. -/
def RouteDocument.contributions (r : RouteDocument) : RouteContributions :=
  ⟨r.defaults, r.optional, r.constraints, r.verbs⟩

namespace DocumentItem

/-- What an item writes for a route: a route itself, or a marker that declares one. -/
def contributions? : DocumentItem → Option RouteContributions
  | route _ _ r => some r.contributions
  | marker _ _ (.route _ _ _ ds cs) => some { defaults := ds, constraints := cs }
  | marker _ _ _ => none

/-- The entry or the declaration that an item becomes has these defaults and constraints. -/
def Becomes (ms : Matchers) (defaults : RouteValues) (constraints : Constraints) :
    DocumentItem → Prop
  | route _ _ r => ∃ e, r.entry ms = .ok e ∧ e.defaults = defaults ∧ e.constraints = constraints
  | marker _ _ m => ∃ d, m.marker ms = .ok (.route d) ∧ d.defaults = defaults ∧
      d.constraints = constraints

end DocumentItem

variable {ms : Matchers}

theorem RouteDocument.exists_writes {r : RouteDocument} {e : Entry} (h : r.entry ms = .ok e) :
    ∃ writes, r.contributions.constraintWrites ms = .ok writes ∧
      e.defaults = .ofList r.contributions.defaultWrites ∧ e.constraints = .ofList writes := by
  obtain ⟨m, hm, h⟩ := bind_eq_ok_iff.1 h
  obtain ⟨pairs, hpairs, rfl⟩ := constraintsOf_eq_ok_iff.1 hm
  cases hverbs : r.verbs with
  | nil =>
    rw [hverbs] at h
    obtain rfl := Except.ok.inj h
    have hnone : r.contributions.verbWrites = .ok [] :=
      RouteContributions.verbWrites_eq_ok_iff.2 (.inl ⟨hverbs, rfl⟩)
    exact ⟨pairs ++ [], RouteContributions.constraintWrites_eq_ok_iff.2 ⟨pairs, [], hpairs, hnone, rfl⟩,
      rfl, by rw [List.append_nil]⟩
  | cons token rest =>
    rw [hverbs] at h
    obtain ⟨verbs, hok, h⟩ := bind_eq_ok_iff.1 h
    obtain rfl := Except.ok.inj h
    have hsome : r.contributions.verbs = token :: rest := hverbs
    have hwrites : r.contributions.verbWrites = .ok [(verbsKey, .ofVerbs (VerbSet.ofList verbs))] := by
      apply RouteContributions.verbWrites_eq_ok_iff.2
      rw [hsome]
      exact .inr ⟨verbs, List.cons_ne_nil token rest, hok, rfl⟩
    exact ⟨_, RouteContributions.constraintWrites_eq_ok_iff.2 ⟨pairs, _, hpairs, hwrites, rfl⟩, rfl,
      (CaselessMap.ofList_concat pairs _ _).symm⟩

theorem MarkerDocument.exists_writes {url : String} {name token : Option String} {ds cs : JsonMembers}
    {m : Marker} (h : (MarkerDocument.route url name token ds cs).marker ms = .ok m) :
    ∃ d writes, m = .route d ∧
      RouteContributions.constraintWrites ms { defaults := ds, constraints := cs } = .ok writes ∧
      d.defaults = .ofList (literals ds) ∧ d.constraints = .ofList writes := by
  obtain ⟨verb, -, h⟩ := bind_eq_ok_iff.1 h
  obtain ⟨k, hk, h⟩ := bind_eq_ok_iff.1 h
  obtain ⟨pairs, hpairs, rfl⟩ := constraintsOf_eq_ok_iff.1 hk
  obtain rfl := Except.ok.inj h
  refine ⟨_, pairs ++ [], rfl, ?_, rfl, by rw [List.append_nil]⟩
  exact RouteContributions.constraintWrites_eq_ok_iff.2 ⟨pairs, [], hpairs, rfl, rfl⟩

/-- An item that writes a route becomes one with the maps of its writes. -/
theorem DocumentItem.becomes_writes {item : DocumentItem} {w : RouteContributions}
    (hw : item.contributions? = some w) (h : item.Converts ms) :
    ∃ writes, w.constraintWrites ms = .ok writes ∧
      item.Becomes ms (.ofList w.defaultWrites) (.ofList writes) := by
  cases item with
  | route owner initializer r =>
    obtain rfl := Option.some.inj hw
    obtain ⟨e, he⟩ := h
    rw [← RouteDocument.entry_eq_ok_iff] at he
    obtain ⟨writes, hwrites, hdefaults, hconstraints⟩ := RouteDocument.exists_writes he
    exact ⟨writes, hwrites, e, he, hdefaults, hconstraints⟩
  | marker owner handler m =>
    cases m with
    | route url name token ds cs =>
      obtain rfl := Option.some.inj hw
      obtain ⟨k, hk⟩ := h
      rw [← MarkerDocument.marker_eq_ok_iff] at hk
      obtain ⟨d, writes, rfl, hwrites, hdefaults, hconstraints⟩ := MarkerDocument.exists_writes hk
      refine ⟨writes, hwrites, d, hk, ?_, hconstraints⟩
      rw [hdefaults, RouteContributions.defaultWrites, List.map_nil, List.append_nil]
    | verb _ => cases hw
    | acceptVerbs _ => cases hw
    | nonAction => cases hw
    | default _ _ => cases hw
    | optional _ => cases hw
    | urlParam _ _ _ _ => cases hw
    | constraint _ _ _ => cases hw

namespace Catalog

variable {n : CatalogNotation} {text : String} {c : Catalog}

theorem exists_document_of_parse (h : Catalog.parse n text ms = .ok c) :
    ∃ d, CatalogDocument.parse n text = .ok d ∧ d.catalog ms = .ok c := by
  unfold Catalog.parse at h
  cases hd : CatalogDocument.parse n text with
  | error f =>
    rw [hd] at h
    cases h
  | ok d =>
    rw [hd] at h
    exact ⟨d, rfl, h⟩

/-- A catalog that was read from a text holds what the text says, and every route of it has under each
key what was contributed to this key last. So all pairs that were written for a route are found again
just when no two contributions to one key differ; where they differ, the later replaces the earlier
and nothing is reported. -/
theorem writes_of_parse (h : Catalog.parse n text ms = .ok c) :
    ∃ d, CatalogDocument.parse n text = .ok d ∧ d.Describes ms c ∧
      ∀ item ∈ d.items, ∀ w, item.contributions? = some w →
        ∃ writes, w.constraintWrites ms = .ok writes ∧
          item.Becomes ms (.ofList w.defaultWrites) (.ofList writes) ∧
          (∀ key, (CaselessMap.ofList w.defaultWrites).get? key =
            CaselessMap.lastWrite? w.defaultWrites key) ∧
          (∀ key, (CaselessMap.ofList writes).get? key = CaselessMap.lastWrite? writes key) ∧
          (w.Kept ms (.ofList w.defaultWrites) (.ofList writes) ↔ w.Agree ms) := by
  obtain ⟨d, hd, hc⟩ := exists_document_of_parse h
  refine ⟨d, hd, CatalogDocument.describes_of_catalog hc, fun item hitem w hw => ?_⟩
  have hconverts : item.Converts ms := CatalogDocument.exists_catalog_iff.1 ⟨c, hc⟩ item hitem
  obtain ⟨writes, hwrites, hbecomes⟩ := DocumentItem.becomes_writes hw hconverts
  exact ⟨writes, hwrites, hbecomes, CaselessMap.get?_ofList _, CaselessMap.get?_ofList _,
    RouteContributions.kept_iff_agree hwrites⟩

/-- A marker that writes the same default in two spellings. -/
theorem writes_of_parse_spellings :
    let text := "\x7b\"owners\":[[\"T\",[]," ++
      "[[\"h\",[[\"route\",\"y\",null,null,\x7b\"p\":\"a\",\"P\":\"a\"\x7d]]]]]]\x7d"
    let m : MarkerDocument := .route "y" none none [("p", .str "a"), ("P", .str "a")] []
    (∃ c, Catalog.parse .json text [] = .ok c) ∧ ∃ d, m.marker [] = .ok (.route d) ∧
      d.defaults.get? "p" = some (.literal (.str "a")) ∧
      d.defaults.get? "P" = some (.literal (.str "a")) := by
  intro text m
  have hread : CatalogDocument.parse .json text =
      .ok ⟨[{ name := "T", handlers := [⟨"h", [m]⟩] }]⟩ := by
    dsimp only [text, m]
    cbv
  have hparse : ∃ c, Catalog.parse .json text [] = .ok c := by
    rw [Catalog.parse, hread]
    exact ⟨_, rfl⟩
  obtain ⟨c, hc⟩ := hparse
  obtain ⟨d, hd, -, hitems⟩ := writes_of_parse hc
  obtain rfl := Except.ok.inj (hread.symm.trans hd)
  obtain ⟨writes, -, ⟨k, hk, hdefaults, -⟩, -, -, hkept⟩ :=
    hitems (.marker "T" "h" m) List.mem_cons_self _ rfl
  have hagree : RouteContributions.Agree []
      { defaults := [("p", .str "a"), ("P", .str "a")], constraints := [] } := by
    constructor
    case defaults =>
      intro key value key' value' hmem hmem' _
      simp only [List.mem_cons, Prod.mk.injEq, List.not_mem_nil, or_false] at hmem hmem'
      rcases hmem with ⟨-, rfl⟩ | ⟨-, rfl⟩ <;> rcases hmem' with ⟨-, rfl⟩ | ⟨-, rfl⟩ <;> rfl
    all_goals simp
  have hdefault := (hkept.2 hagree).defaults
  rw [← hdefaults] at hdefault
  exact ⟨⟨c, hc⟩, k, hk, hdefault "p" _ List.mem_cons_self,
    hdefault "P" _ (List.mem_cons_of_mem _ List.mem_cons_self)⟩

/-- A marker that writes a default in two spellings, a route of an initializer with a default that may
be left out, and one with verbs beside a constraint to verbs: the text is accepted, and one of the two
is gone each time. -/
theorem not_parse_keeps :
    let text := "\x7b\"owners\":[[\"T\"," ++
      "[[\"i\",[[\"r\",\"x\",\x7b\"p\":\"a\"\x7d,[\"P\"],\x7b\"Verb\":[\"PUT\"]\x7d,[\"GET\"]]]]]," ++
      "[[\"h\",[[\"route\",\"y\",null,null,\x7b\"p\":\"a\",\"P\":\"b\"\x7d]]]]]]\x7d"
    let r : RouteDocument := { name := "r", url := "x", defaults := [("p", .str "a")], optional := ["P"],
                               constraints := [("Verb", .arr [.str "PUT"])], verbs := ["GET"] }
    let m : MarkerDocument := .route "y" none none [("p", .str "a"), ("P", .str "b")] []
    (∃ d, CatalogDocument.parse .json text = .ok d ∧ d.items = [.route "T" "i" r, .marker "T" "h" m]) ∧
    (∃ c, Catalog.parse .json text [] = .ok c) ∧
    (∃ d, m.marker [] = .ok (.route d) ∧ d.defaults.get? "p" = some (.literal (.str "b"))) ∧
    ∃ e, r.entry [] = .ok e ∧ e.defaults.get? "p" = some .optional ∧
      e.constraints.get? "Verb" = some (.methods ["GET"]) := by
  intro text r m
  have hread : CatalogDocument.parse .json text =
      .ok ⟨[{ name := "T", initializers := [⟨"i", [r]⟩], handlers := [⟨"h", [m]⟩] }]⟩ := by
    dsimp only [text, r, m]
    cbv
  refine ⟨⟨_, hread, rfl⟩, ?_, ?_, ?_⟩
  · rw [Catalog.parse, hread]
    exact ⟨_, rfl⟩
  · exact ⟨_, rfl, rfl⟩
  · exact ⟨_, rfl, rfl, rfl⟩

end Catalog

end Routebook
