import Routebook.Regex.Basic

/-!
# The search finds what an expression matches

The search goes through an expression with all positions at once, and follows a repetition only to
positions that are new. It finds the spans of the expression.

* `Steps` : so many steps of a relation; a repetition is steps of its body (`Spans.rep_iff`);
* `mem_spread_iff` : following new positions only reaches all that can be reached;
* `mem_ends_iff` : a match that begins at one of some positions can end just where the search says;
* `isMatch_iff` : a text matches just when the expression spans a part of it.
-/

namespace Routebook.Regex

variable {text : Array Char}

/-! ## Spans -/

theorem Spans.le {r : Regex} {i j : Nat} (h : Spans text r i j) : i ≤ j := by
  induction h with
  | empty _ => exact Nat.le_refl _
  | chars _ _ => exact Nat.le_succ _
  | look _ => exact Nat.le_refl _
  | seq _ _ iha ihb => exact Nat.le_trans iha ihb
  | altLeft _ ih => exact ih
  | altRight _ ih => exact ih
  | repDone => exact Nat.le_refl _
  | repMust _ _ ih iht => exact Nat.le_trans ih iht
  | repMay _ _ _ ih iht => exact Nat.le_trans ih iht
  | group _ ih => exact ih

theorem Spans.le_size {r : Regex} {i j : Nat} (h : Spans text r i j) (hi : i ≤ text.size) :
    j ≤ text.size := by
  induction h with
  | empty _ => exact hi
  | chars hlt _ => exact hlt
  | look _ => exact hi
  | seq _ _ iha ihb => exact ihb (iha hi)
  | altLeft _ ih => exact ih hi
  | altRight _ ih => exact ih hi
  | repDone => exact hi
  | repMust _ _ ih iht => exact iht (ih hi)
  | repMay _ _ _ ih iht => exact iht (ih hi)
  | group _ ih => exact ih hi

/-! ## Steps -/

/-- So many steps of a relation lead from one position to another. -/
def Steps (R : Nat → Nat → Prop) : Nat → Nat → Nat → Prop
  | 0, i, j => j = i
  | n + 1, i, k => ∃ j, R i j ∧ Steps R n j k

theorem Steps.le {R : Nat → Nat → Prop} (hR : ∀ {i j}, R i j → i ≤ j) :
    ∀ {n i j : Nat}, Steps R n i j → i ≤ j
  | 0, _, _, h => Nat.le_of_eq h.symm
  | _ + 1, _, _, ⟨_, hfirst, hrest⟩ => Nat.le_trans (hR hfirst) (Steps.le hR hrest)

theorem Steps.add {R : Nat → Nat → Prop} : ∀ {m n i k : Nat},
    Steps R (m + n) i k ↔ ∃ j, Steps R m i j ∧ Steps R n j k
  | 0, n, i, k => by simp [Steps]
  | m + 1, n, i, k => by
    rw [Nat.add_right_comm]
    simp only [Steps, Steps.add]
    constructor
    · rintro ⟨l, hl, j, hj, hk⟩
      exact ⟨j, ⟨l, hl, hj⟩, hk⟩
    · rintro ⟨j, ⟨l, hl, hj⟩, hk⟩
      exact ⟨l, hl, j, hj, hk⟩

/-- Steps that do not advance can be left out; the others are no more than the positions passed. -/
theorem Steps.shorten {R : Nat → Nat → Prop} (hR : ∀ {i j}, R i j → i ≤ j) :
    ∀ {n i j : Nat}, Steps R n i j → ∃ m ≤ n, m ≤ j - i ∧ Steps R m i j
  | 0, i, j, h => ⟨0, Nat.le_refl _, Nat.zero_le _, h⟩
  | n + 1, i, j, ⟨k, hfirst, hrest⟩ => by
    obtain ⟨m, hmn, hmj, hm⟩ := Steps.shorten hR hrest
    have hik := hR hfirst
    have hkj := hm.le hR
    rcases Nat.eq_or_lt_of_le hik with rfl | hlt
    · exact ⟨m, by omega, hmj, hm⟩
    · exact ⟨m + 1, by omega, by omega, k, hfirst, hm⟩

/-- A repetition spans what at least `min` steps of its body span, and not more than `max`. -/
theorem Spans.rep_iff {min : Nat} {max : Option Nat} {body : Regex} {i j : Nat} :
    Spans text (.rep min max body) i j ↔
      ∃ n, (∀ m, max = some m → n ≤ m - min) ∧ Steps (Spans text body) (min + n) i j := by
  constructor
  · intro h
    generalize hr : Regex.rep min max body = r at h
    induction h generalizing min max with
    | repDone =>
      cases hr
      exact ⟨0, fun _ _ => Nat.zero_le _, rfl⟩
    | repMust hfirst _ _ iht =>
      cases hr
      obtain ⟨n, hn, hsteps⟩ := iht rfl
      refine ⟨n, fun m hm => ?_, ?_⟩
      · have := hn (m - 1) (by rw [hm]; rfl)
        omega
      · rw [Nat.add_right_comm]
        exact ⟨_, hfirst, hsteps⟩
    | repMay hfirst _ hmax _ iht =>
      cases hr
      obtain ⟨n, hn, hsteps⟩ := iht rfl
      refine ⟨n + 1, fun m hm => ?_, ?_⟩
      · have hle := hn (m - 1) (by rw [hm]; rfl)
        have hne : m ≠ 0 := fun h0 => hmax (by rw [hm, h0])
        omega
      · rw [← Nat.add_assoc]
        exact ⟨_, hfirst, hsteps⟩
    | empty | chars | look | seq | altLeft | altRight | group => cases hr
  · rintro ⟨n, hn, hsteps⟩
    induction min generalizing max i with
    | zero =>
      induction n generalizing max i with
      | zero =>
        cases hsteps
        exact .repDone
      | succ n ih =>
        obtain ⟨k, hfirst, hrest⟩ := (Nat.zero_add (n + 1) ▸ hsteps : Steps _ (n + 1) i j)
        refine .repMay hfirst (ih (fun m hm => ?_) ((Nat.zero_add n).symm ▸ hrest)) ?_
        · obtain ⟨m', hm', rfl⟩ := Option.map_eq_some_iff.1 hm
          have := hn m' hm'
          omega
        · intro h0
          have := hn 0 h0
          omega
    | succ min ih =>
      rw [Nat.add_right_comm] at hsteps
      obtain ⟨k, hfirst, hrest⟩ := hsteps
      refine .repMust hfirst (ih (fun m hm => ?_) hrest)
      obtain ⟨m', hm', rfl⟩ := Option.map_eq_some_iff.1 hm
      have := hn m' hm'
      omega

/-! ## Sets of positions -/

theorem mem_put {x y : Nat} {xs : List Nat} : x ∈ mergeAscending.put y xs ↔ x = y ∨ x ∈ xs := by
  induction xs with
  | nil => simp [mergeAscending.put]
  | cons z xs ih =>
    unfold mergeAscending.put
    split
    · simp
    · split
      · rename_i heq
        simp [heq]
      · simp only [List.mem_cons, ih]
        exact or_left_comm

theorem mem_mergeAscending {x : Nat} {xs ys : List Nat} :
    x ∈ mergeAscending xs ys ↔ x ∈ xs ∨ x ∈ ys := by
  induction ys generalizing xs with
  | nil => simp [mergeAscending]
  | cons y ys ih => rw [mergeAscending, ih, mem_put, List.mem_cons, or_assoc, or_left_comm]

section Follow

variable {R : Nat → Nat → Prop} {step : List Nat → List Nat} {size : Nat}

/-- A function on lists of positions takes one step of a relation from each of them, as long as they
are positions of the text. -/
def StepsBy (R : Nat → Nat → Prop) (step : List Nat → List Nat) (size : Nat) : Prop :=
  (∀ {i j}, R i j → i ≤ size → j ≤ size) ∧
    ∀ {s}, (∀ i ∈ s, i ≤ size) → ∀ j, j ∈ step s ↔ ∃ i ∈ s, R i j

theorem mem_iterate_iff (hstep : StepsBy R step size) {n : Nat} {s : List Nat}
    (hs : ∀ i ∈ s, i ≤ size) {j : Nat} : j ∈ iterate step n s ↔ ∃ i ∈ s, Steps R n i j := by
  induction n generalizing s with
  | zero => simp [iterate, Steps]
  | succ n ih =>
    cases s with
    | nil => simp [iterate]
    | cons i rest =>
      have hnext : ∀ k ∈ step (i :: rest), k ≤ size := by
        intro k hk
        obtain ⟨i', hi', hR⟩ := (hstep.2 hs k).1 hk
        exact hstep.1 hR (hs i' hi')
      rw [iterate, ih hnext]
      · simp only [hstep.2 hs, Steps]
        constructor
        · rintro ⟨k, ⟨i', hi', hR⟩, hk⟩
          exact ⟨i', hi', k, hR, hk⟩
        · rintro ⟨i', hi', k, hR, hk⟩
          exact ⟨k, ⟨i', hi', hR⟩, hk⟩
      · exact List.cons_ne_nil i rest

/-- Steps from one of the positions seen stay among these or lead through one of the front, if the
others have all their successors among the positions seen. -/
theorem mem_of_steps {seen front : List Nat}
    (hclosed : ∀ i ∈ seen, i ∉ front → ∀ j, R i j → j ∈ seen) :
    ∀ {n k j : Nat}, k ∈ seen → Steps R n k j → j ∈ seen ∨ ∃ i ∈ front, ∃ m ≤ n, Steps R m i j
  | 0, _, _, hk, h => .inl (h ▸ hk)
  | n + 1, k, j, hk, ⟨l, hfirst, hrest⟩ => by
    by_cases hfront : k ∈ front
    · exact .inr ⟨k, hfront, n + 1, Nat.le_refl _, l, hfirst, hrest⟩
    · refine (mem_of_steps hclosed (hclosed k hk hfront l hfirst) hrest).imp id ?_
      rintro ⟨i, hi, m, hm, hsteps⟩
      exact ⟨i, hi, m, Nat.le_succ_of_le hm, hsteps⟩

/-- Following new positions only reaches all that can be reached in so many steps. What carries the
induction is that only positions of the front have successors not yet seen. -/
theorem mem_spread_iff_of_closed (hstep : StepsBy R step size) {n : Nat} {seen front : List Nat}
    (hsize : ∀ i ∈ seen, i ≤ size) (hfront : ∀ i ∈ front, i ∈ seen)
    (hclosed : ∀ i ∈ seen, i ∉ front → ∀ j, R i j → j ∈ seen) {j : Nat} :
    j ∈ spread step n seen front ↔ j ∈ seen ∨ ∃ i ∈ front, ∃ m ≤ n, Steps R m i j := by
  induction n generalizing seen front with
  | zero =>
    rw [spread]
    constructor
    · exact .inl
    · rintro (hj | ⟨i, hi, m, hm, hsteps⟩)
      · exact hj
      · cases Nat.le_zero.1 hm
        exact hsteps ▸ hfront i hi
  | succ n ih =>
    cases front with
    | nil => simp [spread]
    | cons f rest =>
      generalize hfr : f :: rest = front at *
      have hspread : spread step (n + 1) seen front =
          spread step n (mergeAscending seen ((step front).filter fun i => !seen.contains i))
            ((step front).filter fun i => !seen.contains i) := by
        rw [← hfr, spread]
        exact List.cons_ne_nil f rest
      generalize hfresh : (step front).filter (fun i => !seen.contains i) = fresh at hspread
      have hmem : ∀ k, k ∈ fresh ↔ (∃ i ∈ front, R i k) ∧ k ∉ seen := by
        intro k
        rw [← hfresh, List.mem_filter, hstep.2 fun i hi => hsize i (hfront i hi)]
        simp
      have hsuccessor : ∀ i ∈ front, ∀ k, R i k → k ∈ mergeAscending seen fresh := by
        intro i hi k hk
        rw [mem_mergeAscending, hmem]
        by_cases hseen : k ∈ seen
        · exact .inl hseen
        · exact .inr ⟨⟨i, hi, hk⟩, hseen⟩
      have hclosed' : ∀ i ∈ mergeAscending seen fresh, i ∉ fresh →
          ∀ k, R i k → k ∈ mergeAscending seen fresh := by
        intro i hi hne k hk
        have hseen : i ∈ seen := (mem_mergeAscending.1 hi).resolve_right hne
        by_cases hif : i ∈ front
        · exact hsuccessor i hif k hk
        · exact mem_mergeAscending.2 (.inl (hclosed i hseen hif k hk))
      rw [hspread, ih ?_ (fun i hi => mem_mergeAscending.2 (.inr hi)) hclosed', mem_mergeAscending]
      · constructor
        · rintro ((hj | hj) | ⟨i, hi, m, hm, hsteps⟩)
          · exact .inl hj
          · obtain ⟨⟨i, hi, hR⟩, -⟩ := (hmem j).1 hj
            exact .inr ⟨i, hi, 1, by omega, j, hR, rfl⟩
          · obtain ⟨⟨i', hi', hR⟩, -⟩ := (hmem i).1 hi
            exact .inr ⟨i', hi', m + 1, by omega, i, hR, hsteps⟩
        · rintro (hj | ⟨i, hi, m, hm, hsteps⟩)
          · exact .inl (.inl hj)
          · cases m with
            | zero => exact .inl (.inl (hsteps ▸ hfront i hi))
            | succ m =>
              obtain ⟨k, hR, hrest⟩ := hsteps
              rcases mem_of_steps hclosed' (hsuccessor i hi k hR) hrest with hj | ⟨i', hi', m', hm', h⟩
              · exact .inl (mem_mergeAscending.1 hj)
              · exact .inr ⟨i', hi', m', by omega, h⟩
      · intro i hi
        rcases mem_mergeAscending.1 hi with hi | hi
        · exact hsize i hi
        · obtain ⟨⟨i', hi', hR⟩, -⟩ := (hmem i).1 hi
          exact hstep.1 hR (hsize i' (hfront i' hi'))

theorem mem_spread_iff (hstep : StepsBy R step size) {n : Nat} {s : List Nat}
    (hs : ∀ i ∈ s, i ≤ size) {j : Nat} :
    j ∈ spread step n s s ↔ ∃ i ∈ s, ∃ m ≤ n, Steps R m i j := by
  rw [mem_spread_iff_of_closed hstep hs (fun _ hi => hi) (fun i hi hne => absurd hi hne)]
  constructor
  · rintro (hj | h)
    · exact ⟨j, hj, 0, Nat.zero_le _, rfl⟩
    · exact h
  · exact .inr

end Follow

/-! ## The search -/

/-- A match that begins at one of the positions can end just at those that the search gives. -/
theorem mem_ends_iff (text : Array Char) (r : Regex) {s : List Nat} (hs : ∀ i ∈ s, i ≤ text.size)
    {j : Nat} : j ∈ ends text r s ↔ ∃ i ∈ s, Spans text r i j := by
  induction r generalizing s j with
  | empty =>
    rw [ends]
    constructor
    · intro hj
      exact ⟨j, hj, .empty j⟩
    · rintro ⟨i, hi, h⟩
      cases h with
      | empty _ => exact hi
  | chars set =>
    rw [ends, List.mem_filterMap]
    constructor
    · rintro ⟨i, hi, hj⟩
      split at hj
      · rename_i c hc
        split at hj
        · rename_i hmem
          cases hj
          obtain ⟨hlt, rfl⟩ := Array.getElem?_eq_some_iff.1 hc
          exact ⟨i, hi, .chars hlt hmem⟩
        · cases hj
      · cases hj
    · rintro ⟨i, hi, h⟩
      cases h with
      | chars hlt hmem =>
        refine ⟨i, hi, ?_⟩
        rw [Array.getElem?_eq_getElem hlt]
        simp only [hmem, if_true]
  | look l =>
    rw [ends, List.mem_filter]
    constructor
    · rintro ⟨hj, hl⟩
      exact ⟨j, hj, .look hl⟩
    · rintro ⟨i, hi, h⟩
      cases h with
      | look hl => exact ⟨hi, hl⟩
  | seq a b iha ihb =>
    have hmid : ∀ k ∈ ends text a s, k ≤ text.size := by
      intro k hk
      obtain ⟨i, hi, hspan⟩ := (iha hs).1 hk
      exact hspan.le_size (hs i hi)
    rw [ends, ihb hmid]
    constructor
    · rintro ⟨k, hk, hb⟩
      obtain ⟨i, hi, ha⟩ := (iha hs).1 hk
      exact ⟨i, hi, .seq ha hb⟩
    · rintro ⟨i, hi, h⟩
      cases h with
      | seq ha hb => exact ⟨_, (iha hs).2 ⟨i, hi, ha⟩, hb⟩
  | alt a b iha ihb =>
    rw [ends, mem_mergeAscending, iha hs, ihb hs]
    constructor
    · rintro (⟨i, hi, h⟩ | ⟨i, hi, h⟩)
      · exact ⟨i, hi, .altLeft h⟩
      · exact ⟨i, hi, .altRight h⟩
    · rintro ⟨i, hi, h⟩
      cases h with
      | altLeft h => exact .inl ⟨i, hi, h⟩
      | altRight h => exact .inr ⟨i, hi, h⟩
  | rep min max body ih =>
    have hstep : StepsBy (Spans text body) (ends text body) text.size :=
      ⟨fun hR hi => hR.le_size hi, fun hs _ => ih hs⟩
    have hmid : ∀ k ∈ iterate (ends text body) min s, k ≤ text.size := by
      intro k hk
      obtain ⟨i, hi, hsteps⟩ := (mem_iterate_iff hstep hs).1 hk
      have hspan : Spans text (.rep min none body) i k :=
        Spans.rep_iff.2 ⟨0, fun _ _ => Nat.zero_le _, hsteps⟩
      exact hspan.le_size (hs i hi)
    rw [ends.eq_def]
    dsimp only
    rw [mem_spread_iff hstep hmid]
    simp only [mem_iterate_iff hstep hs, Spans.rep_iff]
    constructor
    · rintro ⟨k, ⟨i, hi, hmust⟩, n, hn, hmay⟩
      refine ⟨i, hi, n, fun m hm => ?_, Steps.add.2 ⟨k, hmust, hmay⟩⟩
      rw [hm] at hn
      exact Nat.le_trans hn (Nat.min_le_left _ _)
    · rintro ⟨i, hi, n, hn, hsteps⟩
      obtain ⟨k, hmust, hmay⟩ := Steps.add.1 hsteps
      -- as many steps as there are positions are enough
      obtain ⟨m, hmn, hmj, hm⟩ := hmay.shorten Spans.le
      have hk := hmid k ((mem_iterate_iff hstep hs).2 ⟨i, hi, hmust⟩)
      have hj : j ≤ text.size :=
        (Spans.rep_iff.2 ⟨0, fun _ _ => Nat.zero_le _, hm⟩ : Spans text (.rep m none body) k j).le_size hk
      refine ⟨k, ⟨i, hi, hmust⟩, m, ?_, hm⟩
      cases max with
      | none => show m ≤ text.size + 1; omega
      | some max =>
        have hmax := hn max rfl
        show m ≤ Nat.min (max - min) (text.size + 1)
        exact Nat.le_min.2 ⟨by omega, by omega⟩
  | group body ih =>
    rw [ends, ih hs]
    constructor
    · rintro ⟨i, hi, h⟩
      exact ⟨i, hi, .group h⟩
    · rintro ⟨i, hi, h⟩
      cases h with
      | group h => exact ⟨i, hi, h⟩

theorem isMatch_iff {r : Regex} {s : String} :
    r.isMatch s = true ↔ ∃ i j, i ≤ s.toList.toArray.size ∧ Spans s.toList.toArray r i j := by
  have hrange : ∀ i ∈ List.range (s.toList.toArray.size + 1), i ≤ s.toList.toArray.size :=
    fun i hi => Nat.le_of_lt_succ (List.mem_range.1 hi)
  rw [isMatch, Bool.not_eq_true', List.isEmpty_eq_false_iff_exists_mem]
  simp only [mem_ends_iff _ r hrange, List.mem_range, Nat.lt_succ_iff]
  exact ⟨fun ⟨j, i, hi, h⟩ => ⟨i, j, hi, h⟩, fun ⟨i, j, hi, h⟩ => ⟨j, i, hi, h⟩⟩

end Routebook.Regex
