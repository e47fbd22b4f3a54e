import Routebook.Proofs.Regex.Anchored
import Routebook.Proofs.Table.Admission

/-!
# What an expression of a constraint accepts

A constraint's source is put between the marks of a text's two ends as it stands.

* `RouteTable.expressions_iff` : where the source writes an expression by itself, and what closes the
  group does not become part of it, the constraint accepts just the texts that this expression
  matches in whole; of the other sources a table takes only those that close the group themselves;
* `RouteTable.not_expressions_alone` : there are such sources, and sources that write an expression
  and are refused.
-/

namespace Routebook

open Text (sameText)
open Regex (constraintFlags written? Spliced Item)

/-- The text that an expression under a key is put to: that of the value, or the whole path if the
key has no value. A parameter that was left out has none. -/
def examined? (request : Request) (values : RouteValues) (key : String) : Option String :=
  match values.get? key with
  | some value => value.text?
  | none => some (trimPath request.path)

theorem Check.holds_pattern_iff {key : String} {r : Regex} {request : Request} {values : RouteValues} :
    (Check.pattern key r).holds request values = true ↔
      ∀ x, examined? request values key = some x → r.isMatch x = true := by
  unfold Check.holds examined?
  cases hvalue : values.get? key with
  | none => simp [hvalue]
  | some value => cases htext : value.text? <;> simp [hvalue, htext]

theorem Check.ofConstraint_pattern_eq_ok_iff {route key s : String} {check : Check} :
    Check.ofConstraint route key (.pattern s) = .ok check ↔
      ∃ r, Regex.full? s = some r ∧ check = .pattern key r := by
  unfold Check.ofConstraint
  cases hr : Regex.full? s with
  | none => simp [hr]
  | some r => simp [hr, eq_comm]

namespace Regex

/-- The expression keeps to the limits of depth and size. -/
def Item.Fits (i : Item) : Prop := i.depth ≤ maxNesting ∧ i.regex.fits = true

/-- The source writes an expression by itself, and is read in front of what closes the group up to
its end: no comment of it goes on there. -/
def WrittenAlone (s : String) (i : Item) : Prop :=
  written? constraintFlags s = some i ∧ written? constraintFlags (s ++ ")$") = none

theorem full?_eq_some_iff {s : String} {r : Regex} : full? s = some r ↔
    ∃ j : Item, ((∃ i, WrittenAlone s i ∧ j = i.anchored) ∨ Spliced s j) ∧ j.Fits ∧ j.regex = r := by
  unfold full?
  rw [compile?_eq_some_iff]
  simp only [show "^(?:" ++ s ++ ")$" = wrapped s from rfl, written?_wrapped_eq_some_iff, and_assoc,
    WrittenAlone, Item.Fits]

/-- A source that closes the group itself writes no expression. -/
theorem Spliced.written?_eq_none {s : String} {j : Item} (h : Spliced s j) :
    written? constraintFlags s = none := by
  obtain ⟨i, d, b, e, hread, hd, -⟩ := h
  rw [written?, hread, Option.bind_some, hd]
  rfl

end Regex

namespace RouteTable

/-- An entry can be registered when its name is new, its URL a pattern, and each of its expressions
one of two kinds. Either the source writes an expression by itself that keeps to the limits between
the marks, and no comment of it goes on behind it: then the constraint accepts a text just when this
expression matches the whole of it. Or the source writes no expression, and closes the group itself
in such a way that the whole is one. -/
theorem expressions_iff {t : RouteTable} (ht : Reachable t) (e : Entry) :
    ((∃ u, t.register e = .ok u) ↔
      (∀ b ∈ t.entries, sameText b.name e.name = false) ∧ (∃ p, UrlPattern.parse e.url = .ok p) ∧
      ∀ key s, (key, Constraint.pattern s) ∈ e.constraints.entries →
        (∃ i, Regex.WrittenAlone s i ∧ i.anchored.Fits) ∨
          written? constraintFlags s = none ∧ ∃ j, Spliced s j ∧ j.Fits) ∧
    ∀ key s i, written? constraintFlags s = some i →
      ∀ check, Check.ofConstraint e.name key (.pattern s) = .ok check →
        ∀ request values, check.holds request values = true ↔
          ∀ x, examined? request values key = some x → i.regex.MatchesWhole x := by
  have hsource (s : String) : (∃ r, Regex.full? s = some r) ↔
      (∃ i, Regex.WrittenAlone s i ∧ i.anchored.Fits) ∨
        written? constraintFlags s = none ∧ ∃ j, Spliced s j ∧ j.Fits := by
    simp only [Regex.full?_eq_some_iff]
    constructor
    · rintro ⟨r, j, ⟨i, hi, rfl⟩ | hspliced, hfits, -⟩
      · exact .inl ⟨i, hi, hfits⟩
      · exact .inr ⟨hspliced.written?_eq_none, j, hspliced, hfits⟩
    · rintro (⟨i, hi, hfits⟩ | ⟨-, j, hspliced, hfits⟩)
      · exact ⟨_, i.anchored, .inl ⟨i, hi, rfl⟩, hfits, rfl⟩
      · exact ⟨_, j, .inr hspliced, hfits, rfl⟩
  constructor
  · rw [ht.wellFormed.exists_register_iff]
    simp only [← hsource]
    exact ⟨fun h => ⟨h.name, h.url, h.expressions⟩, fun h => ⟨h.1, h.2.1, h.2.2⟩⟩
  · intro key s i hi check hcheck request values
    obtain ⟨r, hr, rfl⟩ := Check.ofConstraint_pattern_eq_ok_iff.1 hcheck
    rw [Check.holds_pattern_iff]
    obtain ⟨j, ⟨i', hi', rfl⟩ | hspliced, -, rfl⟩ := Regex.full?_eq_some_iff.1 hr
    · cases hi.symm.trans hi'.1
      exact forall₂_congr fun x _ => Regex.isMatch_anchored_iff
    · cases hspliced.written?_eq_none.symm.trans hi

/-- A choice of two letters, in either case. -/
theorem expressions_iff_choice :
    let e : Entry := { name := "r", url := "x/\x7bk\x7d", constraints := .ofList [("k", .pattern "a|b")] }
    let i : Item := ⟨.alt (.chars ⟨[(65, 65), (97, 97)]⟩) (.chars ⟨[(66, 66), (98, 98)]⟩), 1, true⟩
    (∃ u, RouteTable.empty.register e = .ok u) ∧ written? constraintFlags "a|b" = some i ∧
      i.regex.MatchesWhole "B" ∧ ¬ i.regex.MatchesWhole "ab" := by
  intro e i
  have hwritten : written? constraintFlags "a|b" = some i := by dsimp only [i]; decide +kernel
  have hclosing : written? constraintFlags ("a|b" ++ ")$") = none := by decide +kernel
  have hfits : i.anchored.Fits := by dsimp only [i]; exact ⟨by decide +kernel, by decide +kernel⟩
  have hfull : Regex.full? "a|b" = some i.anchored.regex :=
    Regex.full?_eq_some_iff.2 ⟨_, .inl ⟨i, ⟨hwritten, hclosing⟩, rfl⟩, hfits, rfl⟩
  have hurl : UrlPattern.parse e.url = .ok ⟨[.literal "x", .param "k"]⟩ := by
    dsimp only [e]
    with_unfolding_all rfl
  have hconstraints : e.constraints.entries = [("k", .pattern "a|b")] := by
    dsimp only [e]
    with_unfolding_all rfl
  obtain ⟨hregister, haccepts⟩ := expressions_iff ⟨[], rfl⟩ e
  have hholds (text : String) := haccepts "k" "a|b" i hwritten (.pattern "k" i.anchored.regex)
    (Check.ofConstraint_pattern_eq_ok_iff.2 ⟨_, hfull, rfl⟩) ⟨"GET", "/x"⟩ (.ofList [("k", .ofText text)])
  refine ⟨hregister.2 ⟨fun b hb => (nomatch hb), ⟨_, hurl⟩, fun key s hs => ?_⟩, hwritten, ?_, fun h => ?_⟩
  · rw [hconstraints] at hs
    cases List.mem_singleton.1 hs
    exact .inl ⟨i, ⟨hwritten, hclosing⟩, hfits⟩
  · exact (hholds "B").1 (by dsimp only [i]; decide +kernel) "B" (by with_unfolding_all rfl)
  · have hrefused : (Check.pattern "k" i.anchored.regex).holds ⟨"GET", "/x"⟩
        (.ofList [("k", .ofText "ab")]) = false := by dsimp only [i]; decide +kernel
    rw [(hholds "ab").2 fun x hx => ?_] at hrefused
    · cases hrefused
    · obtain rfl : "ab" = x := Option.some.inj hx
      exact h

/-- A source that writes no expression by itself is taken, and accepts what neither of its halves
matches in whole; one that writes an expression is refused. -/
theorem not_expressions_alone :
    let e (s : String) : Entry :=
      { name := "r", url := "x/\x7bk\x7d", constraints := .ofList [("k", .pattern s)] }
    (written? constraintFlags "a)|(b" = none ∧ (∃ u, RouteTable.empty.register (e "a)|(b") = .ok u) ∧
      ∃ check, Check.ofConstraint "r" "k" (.pattern "a)|(b") = .ok check ∧
        check.holds ⟨"GET", "/x/axe"⟩ (.ofList [("k", .ofText "axe")]) = true) ∧
    (∃ i, written? constraintFlags "(?x)a #b" = some i ∧ i.anchored.Fits) ∧
      RouteTable.empty.register (e "(?x)a #b") = .error (.invalidConstraint "r" "k") := by
  intro e
  have hurl (s : String) : UrlPattern.parse (e s).url = .ok ⟨[.literal "x", .param "k"]⟩ := by
    dsimp only [e]
    with_unfolding_all rfl
  have hconstraints (s : String) : (e s).constraints.entries = [("k", .pattern s)] := rfl
  have hfull : Regex.full? "a)|(b" = some
      (.alt (.seq (.look .textStart) (.chars ⟨[(65, 65), (97, 97)]⟩))
        (.seq (.group (.chars ⟨[(66, 66), (98, 98)]⟩)) (.look .textEnd))) := by decide +kernel
  refine ⟨⟨by decide +kernel, ?_, ?_⟩, ?_, ?_⟩
  · refine WellFormed.empty.exists_register_iff.2 ⟨fun b hb => (nomatch hb), ⟨_, hurl _⟩, fun key s hs => ?_⟩
    rw [hconstraints] at hs
    cases List.mem_singleton.1 hs
    exact ⟨_, hfull⟩
  · exact ⟨_, Check.ofConstraint_pattern_eq_ok_iff.2 ⟨_, hfull, rfl⟩, by decide +kernel⟩
  · exact ⟨⟨.seq .empty (.chars ⟨[(65, 65), (97, 97)]⟩), 1, true⟩, by decide +kernel, by decide +kernel,
      by decide +kernel⟩
  · have hnone : Regex.full? "(?x)a #b" = none := by decide +kernel
    have hready : Route.ofEntry (e "(?x)a #b") = .error (.invalidConstraint "r" "k") := by
      simp only [Route.ofEntry, hurl, hconstraints, Check.ofConstraints, Check.ofConstraint, hnone]
      rfl
    rw [register, hready]
    rfl

end RouteTable

end Routebook
