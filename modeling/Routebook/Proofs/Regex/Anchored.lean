import Mathlib.Data.Option.Basic
import Routebook.Proofs.Regex.Readers
import Routebook.Proofs.Regex.Search
import Routebook.Route.Constraint

/-!
# The source of a constraint between the marks of the text's ends

A constraint's source is put as it stands into a group between `^` and `$`, and the whole is read.

* `anchored` : an expression between the two marks; it matches some part of a text just when the
  expression matches the whole (`isMatch_anchored_iff`);
* `written?` : the expression that a text writes by itself;
* `reading_closing_cases` : the source in front of what closes the group is read as it is read by
  itself, or a comment of it swallows what closes the group, or it is not read by itself;
* `written?_wrapped_eq_some_iff` : what the whole writes.
-/

namespace Routebook.Regex

variable {c d : Cursor} {f : Flags} {s : String} {i j : Item}

/-! ## Matching the whole of a text -/

/-- The expression between the marks of the text's two ends. -/
def anchored (r : Regex) : Regex := .seq (.look .textStart) (.seq r (.look .textEnd))

/-- The expression matches the whole of the text, from the first character to the last. -/
def MatchesWhole (r : Regex) (x : String) : Prop :=
  Spans x.toList.toArray r 0 x.toList.toArray.size

theorem spans_anchored_iff {text : Array Char} {r : Regex} {i j : Nat} :
    Spans text (anchored r) i j ↔ i = 0 ∧ j = text.size ∧ Spans text r 0 text.size := by
  constructor
  · rintro (_ | _ | _ | @⟨_, _, _, _, _, hstart, hrest⟩)
    cases hstart with
    | look hstart =>
      cases hrest with
      | seq hr hend =>
        cases hend with
        | look hend =>
          obtain rfl := beq_iff_eq.1 hstart
          obtain rfl := beq_iff_eq.1 hend
          exact ⟨rfl, rfl, hr⟩
  · rintro ⟨rfl, rfl, hr⟩
    exact .seq (.look rfl) (.seq hr (.look (beq_iff_eq.2 rfl)))

/-- An anchored expression matches some part of a text just when it matches the whole. -/
theorem isMatch_anchored_iff {r : Regex} {x : String} :
    (anchored r).isMatch x = true ↔ r.MatchesWhole x := by
  rw [isMatch_iff]
  constructor
  · rintro ⟨i, j, -, h⟩
    exact (spans_anchored_iff.1 h).2.2
  · exact fun h => ⟨0, _, Nat.zero_le _, spans_anchored_iff.2 ⟨rfl, rfl, h⟩⟩

/-! ## What a text writes -/

/-- The expression that a text writes, whatever its depth and its size. -/
def written? (f : Flags) (text : String) : Option Item :=
  (reading f text).bind fun r => if r.2.rest.isEmpty then some r.1 else none

theorem written?_eq_some_iff :
    written? f s = some i ↔ ∃ d, reading f s = some (i, d) ∧ d.rest = [] := by
  unfold written?
  rw [Option.bind_eq_some_iff]
  constructor
  · rintro ⟨⟨k, d⟩, hr, h⟩
    split at h <;> cases h
    exact ⟨d, hr, List.isEmpty_iff.1 ‹_›⟩
  · rintro ⟨d, hr, hd⟩
    exact ⟨(i, d), hr, by rw [hd]; rfl⟩

theorem compile?_eq_some_iff {r : Regex} : compile? f s = some r ↔
    ∃ i, written? f s = some i ∧ i.depth ≤ maxNesting ∧ i.regex.fits = true ∧ i.regex = r := by
  unfold compile? parse?
  simp only [Option.bind_eq_bind, Option.bind_eq_some_iff, Prod.exists, written?_eq_some_iff]
  constructor
  · rintro ⟨r', ⟨i, d, hr, u, hguard, heq⟩, h⟩
    cases heq
    split at h <;> cases h
    unfold guard at hguard
    split at hguard
    · rename_i hfits hlimits
      obtain ⟨hd, hdepth⟩ := (Bool.and_eq_true _ _).mp hlimits
      exact ⟨i, ⟨d, hr, List.isEmpty_iff.1 hd⟩, of_decide_eq_true hdepth, hfits, rfl⟩
    · cases hguard
  · rintro ⟨i, ⟨d, hr, hd⟩, hdepth, hfits, rfl⟩
    refine ⟨i.regex, ⟨i, d, hr, (), ?_, rfl⟩, if_pos hfits⟩
    rw [hd, guard, if_pos (by simpa using hdepth)]
    rfl

theorem run_eq_reading {n : Nat} (h : s.toList.length < n) :
    (readBranches n [] []).run ⟨s.toList, f, []⟩ = reading f s :=
  readBranches_run_of_lt (Nat.lt_succ_self _) h

/-! ## Where reading stops -/

/-- A reader stops at the end of the text or at a closing parenthesis. -/
def Stops (p : Parse Item) : Prop :=
  ∀ ⦃c i d⦄, p.run c = some (i, d) → d.rest = [] ∨ ∃ b, d.rest = ')' :: b

theorem Stops.bind {α : Type} {p : Parse α} {g : α → Parse Item} (hg : ∀ a, Stops (g a)) :
    Stops (p >>= g) := by
  intro c i d hd
  obtain ⟨a, e, -, he⟩ := run_bind_eq_some.1 hd
  exact hg a he

theorem readBranches_stops : ∀ n items branches, Stops (readBranches n items branches)
  | 0, _, _ => fun _ _ _ hd => nomatch hd
  | n + 1, items, branches => by
    have ih := readBranches_stops n
    rw [readBranches]
    refine Stops.bind fun _ c i d hd => ?_
    obtain ⟨x, c', hx, hd⟩ := run_bind_eq_some.1 hd
    cases hx
    split at hd
    · rename_i hnil
      cases hd
      exact .inl (List.head?_eq_none_iff.1 hnil)
    · rename_i hmark
      cases hd
      obtain ⟨b, hb⟩ := List.head?_eq_some_iff.1 hmark
      exact .inr ⟨b, hb⟩
    · exact Stops.bind (fun _ => ih _ _) hd
    · refine Stops.bind (fun outer => Stops.bind fun opening => Stops.bind fun _ => ?_) hd
      split
      · exact Stops.bind fun inner => Stops.bind fun _ => ih _ _
      · exact ih _ _
    · exact Stops.bind (fun _ => ih _ _) hd
    · exact Stops.bind (fun _ => Stops.bind fun _ => Stops.bind fun _ => ih _ _) hd
    · exact Stops.bind (fun _ => Stops.bind fun _ => Stops.bind fun _ => ih _ _) hd
    · exact Stops.bind (fun _ => Stops.bind fun _ => Stops.bind fun _ => ih _ _) hd
    · exact Stops.bind (fun _ => Stops.bind fun _ => Stops.bind fun _ => ih _ _) hd
    · exact Stops.bind (fun _ => ih _ _) hd

/-! ## The source between the marks -/

def wrapped (source : String) : String := "^(?:" ++ source ++ ")$"

theorem toList_wrapped : (wrapped s).toList = '^' :: '(' :: '?' :: ':' :: (s.toList ++ [')', '$']) := by
  simp [wrapped, String.toList_append]

theorem toList_closing : (s ++ ")$").toList = s.toList ++ [')', '$'] := by
  rw [String.toList_append]
  rfl

/-- The inside of the group and the mark in front of it, as items that are read. -/
def opened (i : Item) : List Item := [⟨i.regex, i.depth + 1, true⟩, ⟨.look .textStart, 0, true⟩]

/-- The item of the anchored expression. -/
def Item.anchored (i : Item) : Item := ⟨Regex.anchored i.regex, i.depth + 2, true⟩

theorem closeGroup_run_eq_some {u : Unit} :
    (closeGroup f).run c = some (u, d) ↔ ∃ b, c.rest = ')' :: b ∧ d = ⟨b, f, c.names⟩ := by
  obtain ⟨rest, g, names⟩ := c
  cases rest with
  | nil => exact ⟨fun h => (nomatch h), fun ⟨b, h, _⟩ => (nomatch h)⟩
  | cons x b =>
    by_cases hx : x = ')'
    · subst hx
      constructor
      · intro h
        cases h
        exact ⟨b, rfl, rfl⟩
      · rintro ⟨b, hb, rfl⟩
        cases hb
        rfl
    · constructor
      · intro h
        obtain ⟨y, c', hy, h⟩ := run_bind_eq_some.1 h
        cases hy
        rw [beq_false_of_ne hx] at h
        cases h
      · rintro ⟨b, hb, -⟩
        cases hb
        exact absurd rfl hx

/-- Two steps of the loop lead from the mark of the text's beginning into the group. -/
theorem readBranches_opened (n : Nat) (l : List Char) (names : List (List Char)) :
    (readBranches (n + 2) [] []).run ⟨'^' :: '(' :: '?' :: ':' :: l, constraintFlags, names⟩ =
      (do
        let inner ← readBranches n [] []
        closeGroup constraintFlags
        readBranches n (opened inner) [] : Parse Item).run ⟨l, constraintFlags, names⟩ := by
  rw [readBranches, readBranches]
  rfl

/-- The mark of the text's end completes the expression. -/
theorem readBranches_end (n : Nat) (names : List (List Char)) :
    (readBranches (n + 2) (opened i) []).run ⟨['$'], constraintFlags, names⟩ =
      some (i.anchored, ⟨[], constraintFlags, names⟩) := by
  have hjoin : joinItems (⟨.look .textEnd, 0, true⟩ :: opened i) = i.anchored := by
    simp [joinItems, opened, Item.anchored, Regex.anchored]
  rw [readBranches, readBranches, ← hjoin]
  rfl

/-- More than enough fuel for the source with what closes the group. -/
def sourceFuel (s : String) : Nat := s.toList.length + 5

theorem run_closing : (readBranches (sourceFuel s) [] []).run ⟨(s ++ ")$").toList, constraintFlags, []⟩ =
    reading constraintFlags (s ++ ")$") := by
  refine run_eq_reading ?_
  rw [toList_closing, List.length_append, sourceFuel]
  exact Nat.add_lt_add_left (by decide) _

/-- The wrapped text is read by reading the source with what closes the group, and then what is left
behind the parenthesis at which this stops. -/
theorem written?_wrapped_eq_some_iff_reading : written? constraintFlags (wrapped s) = some j ↔
    ∃ i d b e, reading constraintFlags (s ++ ")$") = some (i, d) ∧ d.rest = ')' :: b ∧
      (readBranches (sourceFuel s) (opened i) []).run ⟨b, constraintFlags, d.names⟩ = some (j, e) ∧
      e.rest = [] := by
  have hrun : reading constraintFlags (wrapped s) = (do
      let inner ← readBranches (sourceFuel s) [] []
      closeGroup constraintFlags
      readBranches (sourceFuel s) (opened inner) [] : Parse Item).run
        ⟨(s ++ ")$").toList, constraintFlags, []⟩ := by
    unfold reading
    rw [toList_wrapped, toList_closing]
    simp only [List.length_cons, List.length_append, List.length_nil]
    exact readBranches_opened (sourceFuel s) _ []
  rw [written?_eq_some_iff, hrun]
  simp only [run_bind_eq_some, closeGroup_run_eq_some, run_closing]
  constructor
  · rintro ⟨e, ⟨i, d, hi, u, d', ⟨b, hb, rfl⟩, he⟩, hrest⟩
    exact ⟨i, d, b, e, hi, hb, he, hrest⟩
  · rintro ⟨i, d, b, e, hi, hb, he, hrest⟩
    exact ⟨e, ⟨i, d, hi, (), _, ⟨b, hb, rfl⟩, he⟩, hrest⟩

theorem reading_closing_cases (s : String) :
    (∃ i d, reading constraintFlags s = some (i, d) ∧
      reading constraintFlags (s ++ ")$") = some (i, d.closed ['$'])) ∨
    (∃ i d, d.rest = [] ∧ reading constraintFlags s = some (i, d) ∧
      reading constraintFlags (s ++ ")$") = some (i, d)) ∨
    (reading constraintFlags s = none ∧
      ∀ i d, reading constraintFlags (s ++ ")$") = some (i, d) → d.rest <:+ ['$']) := by
  have hshort : (readBranches (sourceFuel s) [] []).run ⟨s.toList, constraintFlags, []⟩ =
      reading constraintFlags s := run_eq_reading (Nat.lt_add_of_pos_right (by decide))
  have hlong := run_closing (s := s)
  rw [toList_closing] at hlong
  rcases (Local.readBranches (t := ['$']) (by decide) (sourceFuel s) [] []).agrees
    ⟨s.toList, constraintFlags, []⟩ with ⟨h, h'⟩ | ⟨hrest, h, h'⟩ | ⟨h, h'⟩
  · exact .inl ⟨_, _, hshort ▸ h, hlong ▸ h'⟩
  · exact .inr (.inl ⟨_, _, hrest, hshort ▸ h, hlong ▸ h'⟩)
  · exact .inr (.inr ⟨hshort ▸ h, fun i d hd => h' i d (hlong.trans hd)⟩)

/-- A source that is read by itself is read the same in front of what closes the group, unless a
comment swallows that. -/
theorem reading_closing_of_eq_some (h : reading constraintFlags s = some (i, d)) :
    reading constraintFlags (s ++ ")$") = some (i, d.closed ['$']) ∨
      d.rest = [] ∧ reading constraintFlags (s ++ ")$") = some (i, d) := by
  rcases reading_closing_cases s with ⟨i', d', h', hlong⟩ | ⟨i', d', hd, h', hlong⟩ | ⟨h', -⟩
  · cases h.symm.trans h'
    exact .inl hlong
  · cases h.symm.trans h'
    exact .inr ⟨hd, hlong⟩
  · cases h.symm.trans h'

/-- If reading the source with what closes the group stops at a parenthesis, the source is read by
itself up to there. -/
theorem reading_of_closing {b : List Char} (h : reading constraintFlags (s ++ ")$") = some (i, d))
    (hd : d.rest = ')' :: b) : ∃ d', reading constraintFlags s = some (i, d') ∧ d = d'.closed ['$'] := by
  rcases reading_closing_cases s with ⟨i', d', hshort, h'⟩ | ⟨i', d', hrest, -, h'⟩ | ⟨-, hinto⟩
  · cases h.symm.trans h'
    exact ⟨d', hshort, rfl⟩
  · cases h.symm.trans h'
    cases hd.symm.trans hrest
  · have hmem : ')' ∈ ['$'] := (hinto i d h).subset (hd ▸ List.mem_cons_self)
    exact absurd hmem (by decide)

/-- A parenthesis of the source closes the group: what stands behind it is read on, with `)$` at its
end, and writes an expression together with what stands before. -/
def Spliced (s : String) (j : Item) : Prop :=
  ∃ i d b e, reading constraintFlags s = some (i, d) ∧ d.rest = ')' :: b ∧
    (readBranches (sourceFuel s) (opened i) []).run
      ⟨b ++ [')', '$'], constraintFlags, d.names⟩ = some (j, e) ∧ e.rest = []

/-- The wrapped text writes the anchored expression where the source writes one and what closes the
group is not part of it, and else an expression only if the source closes the group. -/
theorem written?_wrapped_eq_some_iff : written? constraintFlags (wrapped s) = some j ↔
    (∃ i, written? constraintFlags s = some i ∧ written? constraintFlags (s ++ ")$") = none ∧
      j = i.anchored) ∨ Spliced s j := by
  have hclosed {d : Cursor} {l : List Char} (hd : d.rest = l) :
      (d.closed ['$']).rest = l ++ [')', '$'] := hd ▸ rfl
  rw [written?_wrapped_eq_some_iff_reading]
  constructor
  · rintro ⟨i, d, b, e, hlong, hb, he, hrest⟩
    have hnot : written? constraintFlags (s ++ ")$") = none := by
      rw [written?, hlong, Option.bind_some, hb]
      rfl
    obtain ⟨d', hshort, rfl⟩ := reading_of_closing hlong hb
    -- By itself the source is read to its end, or to a parenthesis that is the source's own.
    rcases readBranches_stops _ _ _ hshort with hd' | ⟨b', hd'⟩
    · cases (hclosed hd').symm.trans hb
      cases (readBranches_end (s.toList.length + 3) _).symm.trans he
      exact .inl ⟨i, written?_eq_some_iff.2 ⟨d', hshort, hd'⟩, hnot, rfl⟩
    · cases (hclosed hd').symm.trans hb
      exact .inr ⟨i, d', b', e, hshort, hd', he, hrest⟩
  · rintro (⟨i, hi, hnot, rfl⟩ | ⟨i, d, b, e, hshort, hd, he, hrest⟩)
    · obtain ⟨d, hshort, hd⟩ := written?_eq_some_iff.1 hi
      rcases reading_closing_of_eq_some hshort with hlong | ⟨-, hlong⟩
      · exact ⟨i, _, ['$'], _, hlong, hclosed hd, readBranches_end (s.toList.length + 3) _, rfl⟩
      · rw [written?_eq_some_iff.2 ⟨d, hlong, hd⟩] at hnot
        cases hnot
    · rcases reading_closing_of_eq_some hshort with hlong | ⟨hrest', -⟩
      · exact ⟨i, _, b ++ [')', '$'], e, hlong, hclosed hd, he, hrest⟩
      · cases hd.symm.trans hrest'

end Routebook.Regex
