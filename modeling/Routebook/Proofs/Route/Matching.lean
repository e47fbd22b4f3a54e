import Routebook.Proofs.Route.Notation
import Routebook.Table.Route

/-!
# What a route takes

Matching a path runs through segments and pieces side by side and writes values as it goes. Here the
same is said without running: which captures a path gives, and what a constraint asks of them.

* `Segment.Captures` : the values that the pieces of a path give to segments; this is what a pattern
  that was read finds (`UrlPattern.matches?_eq_some_iff`);
* `Constraint.Accepts` : what a constraint asks of a request and its values; a constraint made ready
  decides it (`Check.holds_iff_accepts`);
* `Entry.Takes` : the pattern of the entry fits and every constraint accepts; this is what the route
  of the entry answers (`Route.match?_eq_some_iff`).
-/

namespace Routebook

open Text (sameText)

/-! ## Patterns -/

namespace Segment

/-- The pieces of a path give values to the parameters of segments. A literal is its piece in any
case. A parameter takes a piece that is not empty; without a piece it needs a default and takes
nothing. A catch-all takes what is left; with nothing left it is left out, unless it has a
default. -/
inductive Captures (defaults : RouteValues) :
    List Segment → List (List Char) → List (String × RouteValue) → Prop
  | done : Captures defaults [] [] []
  | literal {text piece segments pieces captures} (h : sameText (String.ofList piece) text = true)
      (ht : Captures defaults segments pieces captures) :
      Captures defaults (.literal text :: segments) (piece :: pieces) captures
  | param {name piece segments pieces captures} (h : piece ≠ [])
      (ht : Captures defaults segments pieces captures) :
      Captures defaults (.param name :: segments) (piece :: pieces)
        ((name, .ofText (String.ofList piece)) :: captures)
  | missing {name segments captures} (h : defaults.contains name = true)
      (ht : Captures defaults segments [] captures) :
      Captures defaults (.param name :: segments) [] captures
  | rest {name pieces} (h : ['/'].intercalate pieces ≠ []) :
      Captures defaults [.catchAll name] pieces
        [(name, .ofText (String.ofList (['/'].intercalate pieces)))]
  | leftOut {name pieces} (h : ['/'].intercalate pieces = []) (hd : defaults.contains name = false) :
      Captures defaults [.catchAll name] pieces [(name, .optional)]
  | default {name pieces} (h : ['/'].intercalate pieces = []) (hd : defaults.contains name = true) :
      Captures defaults [.catchAll name] pieces []

end Segment

namespace UrlPattern

open Segment (Captures CatchAllLast)

/-- There are not more pieces than segments, or the last segment takes all that are left. -/
def Fits (segments : List Segment) (pieces : List (List Char)) : Prop :=
  endsInCatchAll ⟨segments⟩ = true ∨ pieces.length ≤ segments.length

theorem endsInCatchAll_cons {s : Segment} {segments : List Segment}
    (hs : ∀ name, s ≠ .catchAll name) : endsInCatchAll ⟨s :: segments⟩ = endsInCatchAll ⟨segments⟩ := by
  cases segments with
  | nil =>
    cases s with
    | catchAll name => exact absurd rfl (hs name)
    | literal text => rfl
    | param name => rfl
  | cons s' rest => rfl

theorem fits_cons {s : Segment} {segments : List Segment} {piece : List Char}
    {pieces : List (List Char)} (hs : ∀ name, s ≠ .catchAll name) :
    Fits (s :: segments) (piece :: pieces) ↔ Fits segments pieces := by
  rw [Fits, Fits, endsInCatchAll_cons hs, List.length_cons, List.length_cons, Nat.add_le_add_iff_right]

theorem fits_nil (segments : List Segment) : Fits segments [] := .inr (Nat.zero_le _)

theorem fits_of_captures {defaults : RouteValues} {segments : List Segment} {pieces : List (List Char)}
    {captures : List (String × RouteValue)} (h : Captures defaults segments pieces captures) :
    Fits segments pieces := by
  induction h with
  | done => exact fits_nil _
  | literal _ _ ih => exact (fits_cons fun _ => Segment.noConfusion).2 ih
  | param _ _ ih => exact (fits_cons fun _ => Segment.noConfusion).2 ih
  | missing _ _ _ => exact fits_nil _
  | rest _ => exact .inl rfl
  | leftOut _ _ => exact .inl rfl
  | default _ _ => exact .inl rfl

/-- Binding writes the captures over the values in order. -/
theorem bind?_eq_some_iff {defaults values v : RouteValues} {segments : List Segment}
    {pieces : List (List Char)} (hlast : CatchAllLast segments) (hfits : Fits segments pieces) :
    bind? defaults segments pieces values = some v ↔
      ∃ captures, Captures defaults segments pieces captures ∧ v = values.insertMany captures := by
  induction segments generalizing pieces values with
  | nil =>
    have hpieces : pieces = [] := by
      rcases hfits with h | h
      · cases h
      · exact List.length_eq_zero_iff.1 (Nat.le_zero.1 h)
    rw [hpieces, bind?]
    constructor
    · rintro ⟨⟩
      exact ⟨[], .done, rfl⟩
    · rintro ⟨_, ⟨⟩, rfl⟩
      rfl
  | cons s segments ih =>
    cases s with
    | literal text =>
      cases pieces with
      | nil =>
        rw [bind?]
        constructor
        · rintro ⟨⟩
        · rintro ⟨_, ⟨⟩, _⟩
      | cons piece pieces =>
        have ih := @ih values pieces hlast.tail ((fits_cons fun _ => Segment.noConfusion).1 hfits)
        by_cases hsame : sameText (String.ofList piece) text = true
        · rw [bind?, if_pos hsame, ih]
          constructor
          · rintro ⟨captures, hc, hv⟩
            exact ⟨captures, .literal hsame hc, hv⟩
          · rintro ⟨captures, _ | ⟨_, hc⟩, hv⟩
            exact ⟨captures, hc, hv⟩
        · rw [bind?, if_neg hsame]
          constructor
          · rintro ⟨⟩
          · rintro ⟨_, _ | ⟨h, _⟩, _⟩
            exact absurd h hsame
    | param name =>
      cases pieces with
      | nil =>
        have ih := @ih values [] hlast.tail (fits_nil segments)
        by_cases hdefault : defaults.contains name = true
        · rw [bind?, if_pos hdefault, ih]
          constructor
          · rintro ⟨captures, hc, hv⟩
            exact ⟨captures, .missing hdefault hc, hv⟩
          · rintro ⟨captures, _ | _ | _ | ⟨_, hc⟩, hv⟩
            exact ⟨captures, hc, hv⟩
        · rw [bind?, if_neg hdefault]
          constructor
          · rintro ⟨⟩
          · rintro ⟨_, _ | _ | _ | ⟨h, _⟩, _⟩
            exact absurd h hdefault
      | cons piece pieces =>
        have ih := @ih (values.insert name (.ofText (String.ofList piece))) pieces hlast.tail
          ((fits_cons fun _ => Segment.noConfusion).1 hfits)
        by_cases hempty : piece = []
        · rw [bind?, if_pos (List.isEmpty_iff.2 hempty)]
          constructor
          · rintro ⟨⟩
          · rintro ⟨_, _ | _ | ⟨h, _⟩, _⟩
            exact absurd hempty h
        · rw [bind?, if_neg (mt List.isEmpty_iff.1 hempty), ih]
          constructor
          · rintro ⟨captures, hc, hv⟩
            exact ⟨_, .param hempty hc, hv⟩
          · rintro ⟨_, _ | _ | ⟨_, hc⟩, hv⟩
            exact ⟨_, hc, hv⟩
    | catchAll name =>
      obtain rfl := hlast.eq_nil
      rw [bind?, bind?]
      cases hjoin : ['/'].intercalate pieces with
      | nil =>
        cases hdefault : defaults.contains name with
        | false =>
          constructor
          · rintro ⟨⟩
            exact ⟨_, .leftOut hjoin hdefault, rfl⟩
          · rintro ⟨_, _ | _ | _ | _ | h | _ | ⟨_, hd⟩, hv⟩
            · exact absurd hjoin h
            · exact hv ▸ rfl
            · exact Bool.noConfusion (hdefault.symm.trans hd)
        | true =>
          constructor
          · rintro ⟨⟩
            exact ⟨_, .default hjoin hdefault, rfl⟩
          · rintro ⟨_, _ | _ | _ | _ | h | ⟨_, hd⟩ | _, hv⟩
            · exact absurd hjoin h
            · exact Bool.noConfusion (hdefault.symm.trans hd)
            · exact hv ▸ rfl
      | cons c rest =>
        have hne : ['/'].intercalate pieces ≠ [] := by rw [hjoin]; exact List.cons_ne_nil c rest
        rw [← hjoin]
        constructor
        · intro h
          refine ⟨_, .rest hne, ?_⟩
          rw [hjoin] at h ⊢
          exact (Option.some.inj h).symm
        · rintro ⟨_, _ | _ | _ | _ | _ | ⟨h, _⟩ | ⟨h, _⟩, hv⟩
          · rw [hv, hjoin]
            rfl
          · exact absurd h hne
          · exact absurd h hne

/-- A pattern that was read takes a path just when the pieces of the path give captures, and the
values are the defaults overlaid with these. -/
theorem matches?_eq_some_iff {url : String} {p : UrlPattern} (hp : parse url = .ok p) {path : String}
    {defaults v : RouteValues} : p.matches? path defaults = some v ↔
      ∃ captures, Captures defaults p.segments (pathPieces path.toList) captures ∧
        v = defaults.insertMany captures := by
  have hlast := catchAllLast_of_parse hp
  by_cases hfits : Fits p.segments (pathPieces path.toList)
  · rw [← bind?_eq_some_iff hlast hfits, matches?, if_neg]
    rintro h
    obtain ⟨hend, hlong⟩ := (Bool.and_eq_true _ _).mp h
    rcases hfits with hfits | hfits
    · rw [hfits] at hend
      cases hend
    · exact absurd (of_decide_eq_true hlong) (Nat.not_lt.2 hfits)
  · constructor
    · intro h
      rw [matches?, if_pos] at h
      · cases h
      · rw [Fits, not_or, Bool.not_eq_true, Nat.not_le] at hfits
        rw [hfits.1, Bool.not_false, Bool.true_and, decide_eq_true_eq]
        exact hfits.2
    · rintro ⟨captures, hc, -⟩
      exact absurd (fits_of_captures hc) hfits

end UrlPattern

/-! ## Constraints -/

/-- What a constraint under a key asks of a request and its values: of named methods, that the
request's is one of them; of an expression, that it accepts the text of the value under the key, or
the whole path if the key has no value, while a value that was left out passes; of a matcher, what
it decides. -/
def Constraint.Accepts (request : Request) (values : RouteValues) (key : String) : Constraint → Prop
  | .methods names =>
    ∃ name ∈ names, ∃ v : Verb, sameText v.name (Text.trim name) = true ∧ v.name = request.method
  | .pattern source => ∃ r, Regex.full? source = some r ∧
      ((∃ value, values.get? key = some value ∧
          (value = .optional ∨ ∃ text, value.text? = some text ∧ r.isMatch text = true)) ∨
        (values.get? key = none ∧ r.isMatch (trimPath request.path) = true))
  | .custom matcher => matcher.accepts request key values = true

namespace Check

variable {route key : String} {request : Request} {values : RouteValues}

theorem text?_eq_none_iff {value : RouteValue} : value.text? = none ↔ value = .optional := by
  cases value with
  | optional => exact ⟨fun _ => rfl, fun _ => rfl⟩
  | literal j =>
    refine ⟨fun h => ?_, fun h => nomatch h⟩
    cases j <;> cases h

/-- A constraint made ready decides what the constraint asks. -/
theorem holds_iff_accepts {k : Constraint} {check : Check} (h : ofConstraint route key k = .ok check) :
    check.holds request values = true ↔ k.Accepts request values key := by
  cases k with
  | methods names =>
    cases h
    simp only [holds, Constraint.Accepts, List.contains_iff_mem, List.mem_map, List.mem_filterMap,
      Verb.parse?_eq_some_iff]
    constructor
    · rintro ⟨v, ⟨name, hname, hv⟩, hmethod⟩
      exact ⟨name, hname, v, hv, hmethod⟩
    · rintro ⟨name, hname, v, hv, hmethod⟩
      exact ⟨v, ⟨name, hname, hv⟩, hmethod⟩
  | custom m =>
    cases h
    exact Iff.rfl
  | pattern source =>
    unfold ofConstraint at h
    cases hr : Regex.full? source with
    | none => simp only [hr, reduceCtorEq] at h
    | some r =>
      simp only [hr] at h
      cases h
      simp only [holds, Constraint.Accepts, hr, Option.some.injEq, exists_eq_left']
      cases hvalue : values.get? key with
      | none => simp
      | some value =>
        cases htext : value.text? with
        | none =>
          obtain rfl := text?_eq_none_iff.1 htext
          simp [RouteValue.text?]
        | some text =>
          have hne : value ≠ .optional := fun h => by
            rw [text?_eq_none_iff.2 h] at htext
            cases htext
          simp [hne, htext]

theorem all_holds_iff {constraints : List (String × Constraint)} {checks : List Check}
    (h : ofConstraints route constraints = .ok checks) :
    checks.all (holds request values) = true ↔
      ∀ key k, (key, k) ∈ constraints → k.Accepts request values key := by
  induction constraints generalizing checks with
  | nil =>
    cases h
    simp
  | cons e rest ih =>
    obtain ⟨key, k⟩ := e
    unfold ofConstraints at h
    cases hcheck : ofConstraint route key k with
    | error err => simp only [hcheck, reduceCtorEq] at h
    | ok check =>
      cases hrest : ofConstraints route rest with
      | error err => simp only [hcheck, hrest, reduceCtorEq] at h
      | ok checks' =>
        simp only [hcheck, hrest] at h
        cases h
        rw [List.all_cons, Bool.and_eq_true, holds_iff_accepts hcheck, ih hrest]
        constructor
        · rintro ⟨hhead, htail⟩ key' k' hmem
          rcases List.mem_cons.1 hmem with heq | hmem
          · cases heq
            exact hhead
          · exact htail key' k' hmem
        · intro hall
          exact ⟨hall key k List.mem_cons_self,
            fun key' k' hmem => hall key' k' (List.mem_cons_of_mem _ hmem)⟩

end Check

/-! ## Entries -/

/-- The URL of an entry is a pattern that the path fits, with its slashes at either end put aside,
and the values are the defaults of the entry overlaid with the captures. -/
def Entry.Matches (e : Entry) (path : String) (values : RouteValues) : Prop :=
  ∃ p captures, UrlPattern.parse e.url = .ok p ∧
    Segment.Captures e.defaults p.segments (pathPieces (trimPathList path.toList)) captures ∧
    values = e.defaults.insertMany captures

/-- The path of a request fits the entry, giving some values, and every constraint accepts. -/
structure Entry.Takes (e : Entry) (request : Request) (values : RouteValues) : Prop where
  matches_path : e.Matches request.path values
  accepts : ∀ key k, (key, k) ∈ e.constraints.entries → k.Accepts request values key

/-- The route of an entry answers a request with just the values with which the entry takes it. -/
theorem Route.match?_eq_some_iff {e : Entry} {r : Route} (h : Route.ofEntry e = .ok r)
    {request : Request} {values : RouteValues} :
    r.match? request = some values ↔ e.Takes request values := by
  unfold Route.ofEntry at h
  cases hp : UrlPattern.parse e.url with
  | error reason => simp only [hp, reduceCtorEq] at h
  | ok p =>
    cases hchecks : Check.ofConstraints e.name e.constraints.entries with
    | error err => simp only [hp, hchecks, reduceCtorEq] at h
    | ok checks =>
      simp only [hp, hchecks] at h
      cases h
      have hmatches : p.matches? (trimPath request.path) e.defaults = some values ↔
          e.Matches request.path values := by
        rw [UrlPattern.matches?_eq_some_iff hp, trimPath, String.toList_ofList, Entry.Matches]
        constructor
        · rintro ⟨captures, hc, hv⟩
          exact ⟨p, captures, hp, hc, hv⟩
        · rintro ⟨p', captures, hp', hc, hv⟩
          cases hp.symm.trans hp'
          exact ⟨captures, hc, hv⟩
      have htakes : e.Takes request values ↔
          p.matches? (trimPath request.path) e.defaults = some values ∧
            checks.all (Check.holds request values) = true := by
        rw [hmatches, Check.all_holds_iff hchecks]
        exact ⟨fun ht => ⟨ht.1, ht.2⟩, fun ht => ⟨ht.1, ht.2⟩⟩
      rw [htakes, Route.match?]
      cases p.matches? (trimPath request.path) e.defaults with
      | none => simp
      | some v =>
        by_cases hall : checks.all (Check.holds request v) = true
        · simp only [hall, if_true, Option.some.injEq]
          constructor
          · rintro rfl
            exact ⟨rfl, hall⟩
          · exact fun h => h.1
        · simp only [hall, Bool.false_eq_true, if_false, Option.some.injEq]
          constructor
          · rintro ⟨⟩
          · rintro ⟨rfl, h⟩
            exact absurd h hall

end Routebook
