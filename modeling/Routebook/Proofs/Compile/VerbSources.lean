import Routebook.Proofs.Compile.VerbUnion

/-!
# Where the verbs of a handler come from

Gathering verbs gives a set, or stops. What is in the set can be said without the gathering: the verbs that
some marker names.

* `Handler.Names` : a marker of a handler names a verb, in one of three ways;
* `Handler.Conflicts`, `Handler.FirstUnknown` : why a handler has no verbs;
* `Handler.verbs_documented` : the verbs of any handler, or why it has none.
-/

namespace Routebook

namespace Verb

theorem isUnknown_eq_false_iff {token : String} :
    isUnknown token = false ↔ ∃ v : Verb, v.NamedBy token := by
  rw [isUnknown, Option.isNone_eq_false_iff, Option.isSome_iff_exists]
  simp only [parse?_eq_some_iff_namedBy]

theorem isUnknown_iff {token : String} : isUnknown token = true ↔ ∀ v : Verb, ¬ v.NamedBy token := by
  rw [← not_exists, ← isUnknown_eq_false_iff, Bool.not_eq_false]

end Verb

theorem Marker.mem_named_iff {m : Marker} {v : Verb} : v ∈ m.named ↔ m = .verb v ∨
    (∃ d, m = .route d ∧ d.verb = some v) ∨
    ∃ tokens, m = .acceptVerbs tokens ∧ ∃ token ∈ tokens, v.NamedBy token := by
  cases m <;> simp [named, Verb.parse?_eq_some_iff_namedBy, eq_comm (a := v)]

namespace Handler

/-- A marker of the handler names the verb. -/
inductive Names (h : Handler) (v : Verb) : Prop
  | simple (hmem : .verb v ∈ h.markers)
  /-- The verb joins a declared route. -/
  | declared {d : Declaration} (hmem : .route d ∈ h.markers) (hverb : d.verb = some v)
  | token {tokens : List String} {token : String} (hmem : .acceptVerbs tokens ∈ h.markers)
      (htoken : token ∈ tokens) (hnamed : v.NamedBy token)

/-- The handler is excluded and declares a route; the first that it declares has this URL. -/
def Conflicts (h : Handler) (url : String) : Prop :=
  .nonAction ∈ h.markers ∧ ∃ d rest, h.declarations = d :: rest ∧ d.url = url

/-- The token names no verb, and all those in front of it do. -/
def FirstUnknown (h : Handler) (token : String) : Prop :=
  ∃ before after, h.tokens = before ++ token :: after ∧ (∀ t ∈ before, ∃ v : Verb, v.NamedBy t) ∧
    ∀ v : Verb, ¬ v.NamedBy token

variable {h : Handler} {v : Verb}

/-! ## The verbs that are named -/

theorem mem_named_iff : v ∈ h.named ↔ h.Names v := by
  simp only [named, List.mem_flatMap, Marker.mem_named_iff]
  constructor
  · rintro ⟨m, hm, rfl | ⟨d, rfl, hverb⟩ | ⟨tokens, rfl, token, htoken, hnamed⟩⟩
    · exact .simple hm
    · exact .declared hm hverb
    · exact .token hm htoken hnamed
  · rintro (hm | ⟨hm, hverb⟩ | ⟨hm, htoken, hnamed⟩)
    · exact ⟨_, hm, .inl rfl⟩
    · exact ⟨_, hm, .inr (.inl ⟨_, rfl, hverb⟩)⟩
    · exact ⟨_, hm, .inr (.inr ⟨_, rfl, _, htoken, hnamed⟩)⟩

/-- A verb is one of the handler's when a marker names it; `GET` also when no marker names any. -/
theorem contains_union_iff :
    h.union.contains v = true ↔ h.Names v ∨ (∀ w, ¬ h.Names w) ∧ v = .get := by
  have hnone : h.named = [] ↔ ∀ w, ¬ h.Names w := by
    rw [List.eq_nil_iff_forall_not_mem]
    simp only [mem_named_iff]
  rw [← hnone, ← mem_named_iff, union]
  by_cases hnamed : h.named = []
  · simp [hnamed]
  · simp [hnamed, VerbSet.contains_ofList]

theorem exists_contains_union (h : Handler) : ∃ v, h.union.contains v = true := by
  simp only [contains_union_iff]
  by_cases hsome : ∃ w, h.Names w
  · exact hsome.imp fun _ => .inl
  · exact ⟨.get, .inr ⟨not_exists.1 hsome, rfl⟩⟩

/-! ## Reasons for having no verbs -/

theorem isExcluded_iff : h.isExcluded = true ↔ .nonAction ∈ h.markers := by
  rw [isExcluded, List.any_eq_true]
  constructor
  · rintro ⟨m, hm, hexcludes⟩
    cases m <;> first | exact hm | cases hexcludes
  · intro hm
    exact ⟨_, hm, rfl⟩

theorem find?_unknown_eq_some_iff {token : String} :
    h.tokens.find? Verb.isUnknown = some token ↔ h.FirstUnknown token := by
  rw [List.find?_eq_some_iff_append, Verb.isUnknown_iff]
  simp only [Bool.not_eq_true', Verb.isUnknown_eq_false_iff]
  constructor
  · rintro ⟨hunknown, before, after, hsplit, hbefore⟩
    exact ⟨before, after, hsplit, hbefore, hunknown⟩
  · rintro ⟨before, after, hsplit, hbefore, hunknown⟩
    exact ⟨hunknown, before, after, hsplit, hbefore⟩

theorem find?_unknown_eq_none_iff :
    h.tokens.find? Verb.isUnknown = none ↔ ∀ token ∈ h.tokens, ∃ v : Verb, v.NamedBy token := by
  rw [List.find?_eq_none]
  simp only [Bool.not_eq_true, Verb.isUnknown_eq_false_iff]

theorem conflicts_cases (h : Handler) :
    (∃ d rest, h.isExcluded = true ∧ h.declarations = d :: rest) ∨
      (h.isExcluded = false ∨ h.declarations = []) ∧ ∀ url, ¬ h.Conflicts url := by
  cases hex : h.isExcluded with
  | false =>
    have hkept : Marker.nonAction ∉ h.markers := by
      rw [← isExcluded_iff, hex]
      exact Bool.false_ne_true
    exact .inr ⟨.inl rfl, fun url hc => hkept hc.1⟩
  | true =>
    cases hds : h.declarations with
    | nil =>
      refine .inr ⟨.inr rfl, ?_⟩
      rintro url ⟨-, d, rest, hcons, -⟩
      rw [hds] at hcons
      cases hcons
    | cons d rest => exact .inl ⟨d, rest, rfl, rfl⟩

/-! ## The verbs, or why there are none -/

/-- A handler that is excluded and declares a route has no verbs, and the URL of its first route is
reported. Any other handler with an unknown token has none either, and the first such token is reported as
it is written. All others have verbs: just those that their markers name, whatever their order and
repetition, or `GET` alone when no marker names any. So there is at least one. -/
theorem verbs_documented (h : Handler) :
    (∀ url, h.verbs = .error (.conflictingExclusion h.owner h.name url) ↔ h.Conflicts url) ∧
    (∀ token, h.verbs = .error (.unsupportedVerb h.owner h.name token) ↔
      (∀ url, ¬ h.Conflicts url) ∧ h.FirstUnknown token) ∧
    ((∃ s, h.verbs = .ok s) ↔
      (∀ url, ¬ h.Conflicts url) ∧ ∀ token ∈ h.tokens, ∃ v : Verb, v.NamedBy token) ∧
    ∀ s, h.verbs = .ok s →
      (∀ v, s.contains v = true ↔ h.Names v ∨ (∀ w, ¬ h.Names w) ∧ v = .get) ∧
      ∃ v, s.contains v = true := by
  rcases conflicts_cases h with ⟨d, rest, hex, hds⟩ | ⟨hfree, hnone⟩
  · have hconflict : h.Conflicts d.url := ⟨isExcluded_iff.1 hex, d, rest, hds, rfl⟩
    have honly : ∀ url, h.Conflicts url ↔ d.url = url := by
      intro url
      constructor
      · rintro ⟨-, d', rest', hds', rfl⟩
        rw [hds] at hds'
        cases hds'
        rfl
      · rintro rfl
        exact hconflict
    rw [verbs_of_conflict hex hds]
    simp [honly]
  · rw [verbs_of_routable hfree]
    simp only [← find?_unknown_eq_some_iff, ← find?_unknown_eq_none_iff, hnone]
    cases h.tokens.find? Verb.isUnknown with
    | some token => simp
    | none =>
      refine ⟨?_, ?_, ?_, ?_⟩
      · simp
      · simp
      · simp
      · rintro _ ⟨⟩
        exact ⟨fun v => contains_union_iff, exists_contains_union h⟩

/-- Verbs from all three sources, one of them twice; two unknown tokens; and a handler that is excluded. -/
theorem verbs_documented_mixed :
    let mixed : Handler := ⟨"T", "h", [.acceptVerbs [" put\t", "Get"], .route { url := "x", verb := some .post },
      .optional "p", .verb .get]⟩
    let faulty : Handler := ⟨"T", "g", [.verb .get, .acceptVerbs ["HEAD", "GRAB "], .acceptVerbs ["nab"]]⟩
    let excluded : Handler := ⟨"T", "k", [.route { url := "x" }, .acceptVerbs ["nab"], .nonAction]⟩
    (∃ s, mixed.verbs = .ok s ∧ s.names = ["GET", "POST", "PUT"] ∧ ∃ v, s.contains v = true) ∧
      faulty.verbs = .error (.unsupportedVerb "T" "g" "GRAB ") ∧
      excluded.verbs = .error (.conflictingExclusion "T" "k" "x") := by
  intro mixed faulty excluded
  obtain ⟨-, -, -, hsome⟩ := verbs_documented mixed
  obtain ⟨-, hunknown, -, -⟩ := verbs_documented faulty
  obtain ⟨hconflict, -, -, -⟩ := verbs_documented excluded
  have hknown : mixed.tokens.find? Verb.isUnknown = none := by decide +kernel
  have hmixed : mixed.verbs = .ok mixed.union := by rw [verbs_of_routable (.inl rfl), hknown]
  have hnames : mixed.union.names = ["GET", "POST", "PUT"] := by decide +kernel
  refine ⟨⟨_, hmixed, hnames, (hsome _ hmixed).2⟩, (hunknown "GRAB ").2 ⟨?_, ?_⟩, (hconflict "x").2 ⟨?_, ?_⟩⟩
  · rintro url ⟨-, d, rest, hds, -⟩
    cases hds
  · refine ⟨["HEAD"], ["nab"], rfl, ?_, ?_⟩
    · rw [List.forall_mem_singleton]
      exact ⟨.head, by unfold Verb.NamedBy; decide +kernel⟩
    · have hunknown : Verb.isUnknown "GRAB " = true := by decide +kernel
      exact Verb.isUnknown_iff.1 hunknown
  · simp [excluded]
  · exact ⟨_, _, rfl, rfl⟩

end Handler

end Routebook
