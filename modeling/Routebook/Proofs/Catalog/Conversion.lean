import Mathlib.Data.List.Forall2
import Routebook.Proofs.Catalog.Initializers

/-!
# What the parts of a document stand for

A document writes markers, routes and constraints as texts and JSON values. What each of these stands for
can be said kind by kind, without the interpretation.

* `Json.StandsFor` : the constraint that a value stands for;
* `MarkerDocument.StandsFor`, `RouteDocument.StandsFor` : the marker and the entry that are written;
* `constraintOf_eq_ok_iff`, `MarkerDocument.marker_eq_ok_iff`, `RouteDocument.entry_eq_ok_iff` : these are
  what the interpretation gives.
-/

namespace Routebook

/-! ## Readings -/

section Readings

variable {ε α β : Type}

theorem mapM_eq_ok_iff {f : α → Except ε β} {as : List α} {bs : List β} :
    as.mapM f = .ok bs ↔ List.Forall₂ (fun a b => f a = .ok b) as bs := by
  induction as generalizing bs with
  | nil =>
    rw [List.mapM_nil, List.forall₂_nil_left_iff]
    constructor
    · intro h
      exact (Except.ok.inj h).symm
    · intro h
      rw [h]
      rfl
  | cons a rest ih =>
    rw [List.mapM_cons, bind_eq_ok_iff, List.forall₂_cons_left_iff]
    constructor
    · rintro ⟨b, hb, hrest⟩
      obtain ⟨bs', hbs', hok⟩ := bind_eq_ok_iff.1 hrest
      exact ⟨b, bs', hb, ih.1 hbs', (Except.ok.inj hok).symm⟩
    · rintro ⟨b, bs', hb, hbs', rfl⟩
      exact ⟨b, hb, bind_eq_ok_iff.2 ⟨bs', ih.2 hbs', rfl⟩⟩

theorem bind_pure_eq_ok_iff {x : Except ε α} {f : α → β} {b : β} :
    (do return f (← x)) = .ok b ↔ ∃ a, x = .ok a ∧ b = f a := by
  rw [bind_eq_ok_iff]
  simp only [Pure.pure, Except.pure, Except.ok.injEq, eq_comm]

end Readings

/-! ## Verbs and matchers -/

/-- The matcher of a name is the first that has it. -/
def Matchers.Names (ms : Matchers) (name : String) (m : Matcher) : Prop :=
  ∃ before after, ms = before ++ m :: after ∧ m.name = name ∧ ∀ m' ∈ before, m'.name ≠ name

def methodNames (vs : List Verb) : List String := (Verb.all.filter (· ∈ vs)).map Verb.name

variable {ms : Matchers}

theorem Matchers.named_eq_ok_iff {name : String} {k : Constraint} :
    ms.named name = .ok k ↔ ∃ m, ms.Names name m ∧ k = .custom m := by
  have hfind : ∀ m, (ms.find? fun m => m.name == name) = some m ↔ ms.Names name m := by
    intro m
    rw [List.find?_eq_some_iff_append, Names]
    simp only [beq_iff_eq, Bool.not_eq_true', beq_eq_false_iff_ne, ne_eq]
    tauto
  unfold named
  cases h : ms.find? fun m => m.name == name with
  | none =>
    simp only [reduceCtorEq, false_iff]
    rintro ⟨m, hm, -⟩
    cases h.symm.trans ((hfind m).2 hm)
  | some m =>
    constructor
    · intro hk
      exact ⟨m, (hfind m).1 h, (Except.ok.inj hk).symm⟩
    · rintro ⟨m', hm', rfl⟩
      rw [Option.some.inj (h.symm.trans ((hfind m').2 hm'))]

theorem namedVerb_eq_ok_iff {token : String} {v : Verb} : namedVerb token = .ok v ↔ v.NamedBy token := by
  rw [← Verb.parse?_eq_some_iff_namedBy, namedVerb]
  cases Verb.parse? token <;> simp

theorem namedVerbs_eq_ok_iff {tokens : List String} {vs : List Verb} :
    tokens.mapM namedVerb = .ok vs ↔ List.Forall₂ (fun token v => Verb.NamedBy v token) tokens vs := by
  rw [mapM_eq_ok_iff]
  simp only [namedVerb_eq_ok_iff]

theorem optionalVerb_eq_ok_iff {token : Option String} {verb : Option Verb} :
    token.mapM namedVerb = .ok verb ↔ (token = none ∧ verb = none) ∨
      ∃ t v, token = some t ∧ v.NamedBy t ∧ verb = some v := by
  cases token with
  | none => simp [Pure.pure, Except.pure, eq_comm]
  | some t =>
    rw [Option.mapM_some]
    cases h : namedVerb t with
    | error f => simp [← namedVerb_eq_ok_iff, h, Functor.map, Except.map]
    | ok v => simp [← namedVerb_eq_ok_iff, h, Functor.map, Except.map, eq_comm]

theorem ofVerbs_ofList (vs : List Verb) : Constraint.ofVerbs (.ofList vs) = .methods (methodNames vs) := by
  have hmem : (VerbSet.ofList vs).contains = fun v => decide (v ∈ vs) := by
    funext v
    rw [Bool.eq_iff_iff, VerbSet.contains_ofList, decide_eq_true_iff]
  rw [Constraint.ofVerbs, VerbSet.names, VerbSet.toList, hmem, methodNames]

theorem itemVerb_eq_ok_iff {item : Json} {v : Verb} :
    itemVerb item = .ok v ↔ ∃ token, item = .str token ∧ v.NamedBy token := by
  cases item <;> simp [itemVerb, namedVerb_eq_ok_iff]

theorem itemVerbs_eq_ok_iff {items : List Json} {vs : List Verb} : items.mapM itemVerb = .ok vs ↔
    ∃ tokens, items = tokens.map .str ∧ List.Forall₂ (fun token v => Verb.NamedBy v token) tokens vs := by
  rw [mapM_eq_ok_iff]
  simp only [itemVerb_eq_ok_iff]
  constructor
  · intro h
    induction h with
    | nil => exact ⟨[], rfl, .nil⟩
    | cons hitem _ ih =>
      obtain ⟨token, rfl, hv⟩ := hitem
      obtain ⟨tokens, rfl, hvs⟩ := ih
      exact ⟨token :: tokens, rfl, .cons hv hvs⟩
  · rintro ⟨tokens, rfl, h⟩
    exact List.forall₂_map_left_iff.2 (h.imp fun token v hv => ⟨token, rfl, hv⟩)

/-! ## Constraints -/

/-- The constraint that a value stands for: a text is an expression, a list of texts names verbs, an object
names a matcher. -/
inductive Json.StandsFor (ms : Matchers) : Json → Constraint → Prop
  | pattern (source : String) : StandsFor ms (.str source) (.pattern source)
  | verbs {tokens vs} (h : List.Forall₂ (fun token v => Verb.NamedBy v token) tokens vs) :
    StandsFor ms (.arr (tokens.map .str)) (.methods (methodNames vs))
  | matcher {members name m} (hname : Json.member? "matcher" members = some (.str name))
      (hm : ms.Names name m) : StandsFor ms (.obj members) (.custom m)

theorem constraintOf_eq_ok_iff {value : Json} {k : Constraint} :
    constraintOf ms value = .ok k ↔ value.StandsFor ms k := by
  constructor
  · intro h
    cases value with
    | str source =>
      obtain rfl := Except.ok.inj h
      exact .pattern source
    | arr items =>
      obtain ⟨vs, hvs, rfl⟩ := bind_pure_eq_ok_iff.1 h
      obtain ⟨tokens, rfl, htokens⟩ := itemVerbs_eq_ok_iff.1 hvs
      rw [ofVerbs_ofList]
      exact .verbs htokens
    | obj members =>
      rw [constraintOf] at h
      split at h
      case h_1 name hname =>
        obtain ⟨m, hm, rfl⟩ := Matchers.named_eq_ok_iff.1 h
        exact .matcher hname hm
      case h_2 => cases h
    | null => cases h
    | bool _ => cases h
    | num _ => cases h
  · intro h
    cases h with
    | pattern source => rfl
    | verbs htokens =>
      refine bind_pure_eq_ok_iff.2 ⟨_, itemVerbs_eq_ok_iff.2 ⟨_, rfl, htokens⟩, ?_⟩
      rw [ofVerbs_ofList]
    | matcher hname hm =>
      rw [constraintOf, hname]
      exact Matchers.named_eq_ok_iff.2 ⟨_, hm, rfl⟩

/-- A pair of an object and the constraint that it writes under its key. -/
def Writes (ms : Matchers) (e : String × Json) (p : String × Constraint) : Prop :=
  p.1 = e.1 ∧ e.2.StandsFor ms p.2

theorem constraintPairs_eq_ok_iff {members : JsonMembers} {pairs : List (String × Constraint)} :
    (members.mapM fun e => do return (e.1, ← constraintOf ms e.2)) = .ok pairs ↔
      List.Forall₂ (Writes ms) members pairs := by
  have hpair : ∀ (e : String × Json) (p : String × Constraint),
      (do return (e.1, ← constraintOf ms e.2)) = Except.ok p ↔ Writes ms e p := by
    intro e p
    rw [bind_pure_eq_ok_iff, Writes]
    simp only [constraintOf_eq_ok_iff, Prod.ext_iff]
    constructor
    · rintro ⟨k, hk, hkey, rfl⟩
      exact ⟨hkey, hk⟩
    · rintro ⟨hkey, hk⟩
      exact ⟨p.2, hk, hkey, rfl⟩
  rw [mapM_eq_ok_iff]
  simp only [hpair]

theorem constraintsOf_eq_ok_iff {members : JsonMembers} {m : Constraints} :
    constraintsOf ms members = .ok m ↔
      ∃ pairs, List.Forall₂ (Writes ms) members pairs ∧ m = .ofList pairs := by
  rw [constraintsOf, bind_pure_eq_ok_iff]
  simp only [constraintPairs_eq_ok_iff]

/-! ## Markers -/

/-- The marker that is written, for each kind of marker. -/
inductive MarkerDocument.StandsFor (ms : Matchers) : MarkerDocument → Marker → Prop
  | route {url name defaults constraints pairs} (h : List.Forall₂ (Writes ms) constraints pairs) :
    StandsFor ms (.route url name none defaults constraints)
      (.route { url, name, defaults := .ofList (literals defaults), constraints := .ofList pairs })
  | routeWithVerb {url name token v defaults constraints pairs} (hv : v.NamedBy token)
      (h : List.Forall₂ (Writes ms) constraints pairs) :
    StandsFor ms (.route url name (some token) defaults constraints)
      (.route { url, name, verb := some v, defaults := .ofList (literals defaults),
                constraints := .ofList pairs })
  | verb {token v} (hv : v.NamedBy token) : StandsFor ms (.verb token) (.verb v)
  | acceptVerbs (tokens : List String) : StandsFor ms (.acceptVerbs tokens) (.acceptVerbs tokens)
  | nonAction : StandsFor ms .nonAction .nonAction
  | default (name : String) (value : Json) : StandsFor ms (.default name value) (.default name (.literal value))
  | optional (name : String) : StandsFor ms (.optional name) (.optional name)
  | urlParam (name : String) (value : Option Json) (source : Option String) :
    StandsFor ms (.urlParam name value false source) (.urlParam name (value.map .literal) source)
  | urlParamLeftOut (name : String) (source : Option String) :
    StandsFor ms (.urlParam name none true source) (.urlParam name (some .optional) source)
  | pattern (name source : String) :
    StandsFor ms (.constraint name (some source) none) (.constraint name (.pattern source))
  | matcher {name matcher m} (hm : ms.Names matcher m) :
    StandsFor ms (.constraint name none (some matcher)) (.constraint name (.custom m))

theorem MarkerDocument.marker_eq_ok_iff {d : MarkerDocument} {k : Marker} :
    d.marker ms = .ok k ↔ d.StandsFor ms k := by
  constructor
  · intro h
    cases d with
    | route url name token ds cs =>
      obtain ⟨verb, hverb, h⟩ := bind_eq_ok_iff.1 h
      obtain ⟨m, hm, rfl⟩ := bind_pure_eq_ok_iff.1 h
      obtain ⟨pairs, hpairs, rfl⟩ := constraintsOf_eq_ok_iff.1 hm
      rcases optionalVerb_eq_ok_iff.1 hverb with ⟨rfl, rfl⟩ | ⟨token, v, rfl, hv, rfl⟩
      · exact .route hpairs
      · exact .routeWithVerb hv hpairs
    | verb token =>
      obtain ⟨v, hv, rfl⟩ := bind_pure_eq_ok_iff.1 h
      exact .verb (namedVerb_eq_ok_iff.1 hv)
    | acceptVerbs tokens =>
      obtain rfl := Except.ok.inj h
      exact .acceptVerbs tokens
    | nonAction =>
      obtain rfl := Except.ok.inj h
      exact .nonAction
    | default name value =>
      obtain rfl := Except.ok.inj h
      exact .default name value
    | optional name =>
      obtain rfl := Except.ok.inj h
      exact .optional name
    | urlParam name value mayBeLeftOut source =>
      cases mayBeLeftOut with
      | false =>
        obtain rfl := Except.ok.inj h
        exact .urlParam name value source
      | true =>
        cases value with
        | none =>
          obtain rfl := Except.ok.inj h
          exact .urlParamLeftOut name source
        | some value => cases h
    | constraint name source matcher =>
      cases source with
      | some source =>
        cases matcher with
        | none =>
          obtain rfl := Except.ok.inj h
          exact .pattern name source
        | some matcher => cases h
      | none =>
        cases matcher with
        | none => cases h
        | some matcher =>
          obtain ⟨c, hc, rfl⟩ := bind_pure_eq_ok_iff.1 h
          obtain ⟨m, hm, rfl⟩ := Matchers.named_eq_ok_iff.1 hc
          exact .matcher hm
  · intro h
    cases h with
    | route hpairs =>
      exact bind_eq_ok_iff.2 ⟨none, optionalVerb_eq_ok_iff.2 (.inl ⟨rfl, rfl⟩), bind_pure_eq_ok_iff.2
        ⟨_, constraintsOf_eq_ok_iff.2 ⟨_, hpairs, rfl⟩, rfl⟩⟩
    | routeWithVerb hv hpairs =>
      exact bind_eq_ok_iff.2 ⟨_, optionalVerb_eq_ok_iff.2 (.inr ⟨_, _, rfl, hv, rfl⟩),
        bind_pure_eq_ok_iff.2 ⟨_, constraintsOf_eq_ok_iff.2 ⟨_, hpairs, rfl⟩, rfl⟩⟩
    | verb hv => exact bind_pure_eq_ok_iff.2 ⟨_, namedVerb_eq_ok_iff.2 hv, rfl⟩
    | matcher hm => exact bind_pure_eq_ok_iff.2 ⟨_, Matchers.named_eq_ok_iff.2 ⟨_, hm, rfl⟩, rfl⟩
    | _ => rfl

/-! ## Routes -/

/-- The entry that is written. Parameters that may be left out come behind the defaults, and the verbs, if
there are any, behind the constraints. -/
inductive RouteDocument.StandsFor (ms : Matchers) (r : RouteDocument) : Entry → Prop
  | plain {pairs} (hnone : r.verbs = []) (h : List.Forall₂ (Writes ms) r.constraints pairs) :
    StandsFor ms r { name := r.name, url := r.url, constraints := .ofList pairs,
                     defaults := .ofList (literals r.defaults ++ r.optional.map fun k => (k, .optional)) }
  | withVerbs {pairs vs} (hsome : r.verbs ≠ []) (h : List.Forall₂ (Writes ms) r.constraints pairs)
      (hvs : List.Forall₂ (fun token v => Verb.NamedBy v token) r.verbs vs) :
    StandsFor ms r { name := r.name, url := r.url,
                     defaults := .ofList (literals r.defaults ++ r.optional.map fun k => (k, .optional)),
                     constraints := (CaselessMap.ofList pairs).insert verbsKey (.methods (methodNames vs)) }

theorem RouteDocument.entry_eq_ok_iff {r : RouteDocument} {e : Entry} :
    r.entry ms = .ok e ↔ r.StandsFor ms e := by
  constructor
  · intro h
    obtain ⟨m, hm, h⟩ := bind_eq_ok_iff.1 h
    obtain ⟨pairs, hpairs, rfl⟩ := constraintsOf_eq_ok_iff.1 hm
    split at h
    case isTrue hnone =>
      obtain rfl := Except.ok.inj h
      exact .plain (List.isEmpty_iff.1 hnone) hpairs
    case isFalse hsome =>
      obtain ⟨vs, hvs, rfl⟩ := bind_pure_eq_ok_iff.1 h
      rw [ofVerbs_ofList]
      exact .withVerbs (fun hnil => hsome (List.isEmpty_iff.2 hnil)) hpairs (namedVerbs_eq_ok_iff.1 hvs)
  · intro h
    cases h with
    | plain hnone hpairs =>
      refine bind_eq_ok_iff.2 ⟨_, constraintsOf_eq_ok_iff.2 ⟨_, hpairs, rfl⟩, ?_⟩
      rw [if_pos (List.isEmpty_iff.2 hnone)]
      rfl
    | withVerbs hsome hpairs hvs =>
      refine bind_eq_ok_iff.2 ⟨_, constraintsOf_eq_ok_iff.2 ⟨_, hpairs, rfl⟩, ?_⟩
      rw [if_neg fun hnil => hsome (List.isEmpty_iff.1 hnil)]
      refine bind_pure_eq_ok_iff.2 ⟨_, namedVerbs_eq_ok_iff.2 hvs, ?_⟩
      rw [ofVerbs_ofList]

end Routebook
