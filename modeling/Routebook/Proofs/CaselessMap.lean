import Routebook.CaselessMap

/-!
# Looking up what was written

A map is written pair by pair. Under a key it has the value of the last pair whose key is the same up
to case, so a value that was written is found again just when no later pair replaces it.

* `get?_insert`, `get?_ofList` : the values after one write and after several;
* `get?_perm` : the order of the entries does not matter;
* `keys_insertMany` : pairs with different keys come behind the keys that were there;
* `countP_keys` : a key that is there is there once;
* `ofList_keeps_iff` : the pairs in front are found again just when they agree with all pairs under
  the same key.
-/

namespace Routebook.CaselessMap

open Text (sameText)

variable {α : Type}

/-! ## Keys -/

theorem contains_eq_isSome (m : CaselessMap α) (key : String) : m.contains key = (m.get? key).isSome := by
  rw [contains, get?, Option.isSome_map, List.isSome_find?]

theorem contains_iff {m : CaselessMap α} {key : String} :
    m.contains key = true ↔ ∃ k ∈ m.keys, sameText k key = true := by
  simp [contains, keys]

/-- A key that is there is there once, in one spelling. -/
theorem countP_keys {m : CaselessMap α} {key : String} (h : m.contains key = true) :
    m.keys.countP (fun k => sameText k key) = 1 := by
  obtain ⟨k, hk, hsame⟩ := contains_iff.1 h
  obtain ⟨front, back, hsplit⟩ := List.append_of_mem hk
  have hdistinct : m.keys.Pairwise fun a b => sameText a b = false := m.distinct
  rw [hsplit, List.pairwise_append, List.pairwise_cons] at hdistinct
  obtain ⟨-, ⟨hback, -⟩, hfront⟩ := hdistinct
  have hfront0 : front.countP (fun a => sameText a key) = 0 := by
    rw [List.countP_eq_zero]
    intro a ha hsame'
    have hne := hfront a ha k List.mem_cons_self
    rw [Text.sameText_congr hsame', Text.sameText_comm, hsame] at hne
    cases hne
  have hback0 : back.countP (fun b => sameText b key) = 0 := by
    rw [List.countP_eq_zero]
    intro b hb hsame'
    have hne := hback b hb
    rw [Text.sameText_congr hsame, Text.sameText_comm, hsame'] at hne
    cases hne
  rw [hsplit, List.countP_append, List.countP_cons, hfront0, hback0, hsame]
  rfl

/-! ## One write -/

theorem get?_congr (m : CaselessMap α) {k k' : String} (h : sameText k k' = true) :
    m.get? k = m.get? k' := by
  have hsame : (fun e : String × α => sameText e.1 k) = fun e => sameText e.1 k' := by
    funext e
    rw [Text.sameText_comm, Text.sameText_congr h, Text.sameText_comm]
  rw [get?, get?, hsame]

theorem contains_congr (m : CaselessMap α) {k k' : String} (h : sameText k k' = true) :
    m.contains k = m.contains k' := by
  rw [contains_eq_isSome, contains_eq_isSome, get?_congr m h]

theorem sameText_eq_false {a key k : String} (h : sameText key k = true)
    (ha : sameText a key = false) : sameText a k = false := by
  rw [Text.sameText_comm, ← Text.sameText_congr h, Text.sameText_comm, ha]

theorem find?_overwrite_same {key k : String} (h : sameText key k = true) (value : α)
    {l : List (String × α)} (hany : l.any (fun e => sameText e.1 key) = true) :
    ((overwrite key value l).find? fun e => sameText e.1 k).map Prod.snd = some value := by
  induction l with
  | nil => cases hany
  | cons e rest ih =>
    obtain ⟨a, v⟩ := e
    rw [overwrite]
    cases ha : sameText a key with
    | true =>
      have hk : sameText a k = true := (Text.sameText_congr ha k).trans h
      simp only [if_true, List.find?_cons, hk, Option.map_some]
    | false =>
      have hk : sameText a k = false := sameText_eq_false h ha
      rw [List.any_cons, ha, Bool.false_or] at hany
      simp only [Bool.false_eq_true, if_false, List.find?_cons, hk, ih hany]

theorem find?_overwrite_other {key k : String} (h : sameText key k = false) (value : α)
    (l : List (String × α)) : ((overwrite key value l).find? fun e => sameText e.1 k).map Prod.snd =
      (l.find? fun e => sameText e.1 k).map Prod.snd := by
  induction l with
  | nil => rfl
  | cons e rest ih =>
    obtain ⟨a, v⟩ := e
    rw [overwrite]
    cases ha : sameText a key with
    | true =>
      have hk : sameText a k = false := (Text.sameText_congr ha k).trans h
      simp only [if_true, List.find?_cons, hk]
    | false =>
      simp only [Bool.false_eq_true, if_false, List.find?_cons]
      cases sameText a k with
      | true => rfl
      | false => exact ih

theorem get?_insert (m : CaselessMap α) (key k : String) (value : α) :
    (m.insert key value).get? k = if sameText key k = true then some value else m.get? k := by
  unfold insert
  split
  · rename_i hnew
    show ((m.entries ++ [(key, value)]).find? fun e => sameText e.1 k).map Prod.snd = _
    rw [List.find?_append, get?]
    cases h : sameText key k with
    | true =>
      have hnone : m.entries.find? (fun e => sameText e.1 k) = none := by
        rw [List.find?_eq_none]
        intro e he
        exact Bool.eq_false_iff.1
          (sameText_eq_false h (Bool.eq_false_iff.2 (List.any_eq_false.1 hnew e he)))
      rw [hnone, Option.none_or, List.find?_singleton, h]
      rfl
    | false =>
      rw [List.find?_singleton, h, if_neg Bool.false_ne_true, Option.or_none,
        if_neg Bool.false_ne_true]
  · rename_i hold
    show ((overwrite key value m.entries).find? fun e => sameText e.1 k).map Prod.snd = _
    cases h : sameText key k with
    | true =>
      rw [contains, Bool.not_eq_false] at hold
      rw [if_pos rfl, find?_overwrite_same h value hold]
    | false => rw [if_neg Bool.false_ne_true, find?_overwrite_other h, get?]

/-- A key that is there stays where it is, a new one comes last. -/
theorem keys_insert (m : CaselessMap α) (key : String) (value : α) :
    (m.insert key value).keys = if m.contains key = true then m.keys else m.keys ++ [key] := by
  unfold insert
  split
  · rename_i hnew
    rw [hnew, if_neg Bool.false_ne_true]
    show (m.entries ++ [(key, value)]).map Prod.fst = _
    rw [List.map_append, List.map_singleton, keys]
  · rename_i hold
    rw [Bool.not_eq_false] at hold
    rw [hold, if_pos rfl]
    exact map_fst_overwrite key value m.entries

theorem contains_insert (m : CaselessMap α) (key k : String) (value : α) :
    (m.insert key value).contains k = (sameText key k || m.contains k) := by
  rw [contains_eq_isSome, get?_insert, contains_eq_isSome]
  cases sameText key k <;> rfl

/-! ## Entries -/

theorem get?_eq_some_iff {m : CaselessMap α} {key : String} {value : α} :
    m.get? key = some value ↔ ∃ k, (k, value) ∈ m.entries ∧ sameText k key = true := by
  rw [get?, Option.map_eq_some_iff]
  constructor
  · rintro ⟨⟨k, v⟩, hfind, rfl⟩
    have hsame := List.find?_some hfind
    exact ⟨k, List.mem_of_find?_eq_some hfind, hsame⟩
  · rintro ⟨k, hmem, hsame⟩
    obtain ⟨e, hfind⟩ : ∃ e, m.entries.find? (fun e => sameText e.1 key) = some e := by
      rw [← Option.isSome_iff_exists, List.find?_isSome]
      exact ⟨(k, value), hmem, hsame⟩
    have hesame := List.find?_some hfind
    have hek : sameText e.1 k = true := by
      rw [Text.sameText_congr hesame, Text.sameText_comm]
      exact hsame
    exact ⟨e, hfind, (eq_of_mem (List.mem_of_find?_eq_some hfind) hmem hek).2⟩

theorem get?_of_mem {m : CaselessMap α} {e : String × α} (he : e ∈ m.entries) : m.get? e.1 = some e.2 :=
  get?_eq_some_iff.2 ⟨e.1, he, Text.sameText_refl e.1⟩

theorem get?_perm {m n : CaselessMap α} (h : m.entries.Perm n.entries) (key : String) :
    m.get? key = n.get? key := by
  apply Option.ext
  intro value
  simp only [get?_eq_some_iff, h.mem_iff]

/-! ## Several writes -/

/-- The value of the last pair under a key. -/
def lastWrite? (pairs : List (String × α)) (key : String) : Option α :=
  (pairs.reverse.find? fun e => sameText e.1 key).map Prod.snd

theorem get?_insertMany (m : CaselessMap α) (pairs : List (String × α)) (key : String) :
    (m.insertMany pairs).get? key = (lastWrite? pairs key).or (m.get? key) := by
  unfold insertMany
  induction pairs generalizing m with
  | nil => rfl
  | cons e rest ih =>
    rw [List.foldl_cons, ih, get?_insert, lastWrite?, lastWrite?, List.reverse_cons, List.find?_append]
    cases rest.reverse.find? fun e => sameText e.1 key with
    | some e' => rfl
    | none => cases hsame : sameText e.1 key <;> simp [hsame]

theorem keys_insertMany (m : CaselessMap α) {pairs : List (String × α)}
    (h : (pairs.map Prod.fst).Pairwise fun a b => sameText a b = false) :
    (m.insertMany pairs).keys = m.keys ++ (pairs.map Prod.fst).filter fun k => !m.contains k := by
  induction pairs generalizing m with
  | nil => exact (List.append_nil _).symm
  | cons e rest ih =>
    rw [List.map_cons, List.pairwise_cons] at h
    have hrest : ((rest.map Prod.fst).filter fun k => !(m.insert e.1 e.2).contains k) =
        (rest.map Prod.fst).filter fun k => !m.contains k := by
      apply List.filter_congr
      intro k hk
      rw [contains_insert, h.1 k hk, Bool.false_or]
    have hstep : (m.insertMany (e :: rest)).keys =
        (m.insert e.1 e.2).keys ++ (rest.map Prod.fst).filter fun k => !m.contains k := by
      rw [← hrest, ← ih (m.insert e.1 e.2) h.2]
      rfl
    rw [hstep, keys_insert, List.map_cons, List.filter_cons]
    cases m.contains e.1 <;> simp

theorem ofList_concat (pairs : List (String × α)) (key : String) (value : α) :
    ofList (pairs ++ [(key, value)]) = (ofList pairs).insert key value := by
  rw [ofList, insertMany, List.foldl_append]
  rfl

/-- A key has the value of the last pair under it. -/
theorem get?_ofList (pairs : List (String × α)) (key : String) :
    (ofList pairs).get? key = lastWrite? pairs key := by
  rw [ofList, get?_insertMany]
  exact Option.or_none

theorem exists_lastWrite? {pairs : List (String × α)} {e : String × α} (he : e ∈ pairs) :
    ∃ e' ∈ pairs, sameText e'.1 e.1 = true ∧ lastWrite? pairs e.1 = some e'.2 := by
  have hsome : (pairs.reverse.find? fun x => sameText x.1 e.1).isSome = true := by
    rw [List.find?_isSome]
    exact ⟨e, List.mem_reverse.2 he, Text.sameText_refl e.1⟩
  obtain ⟨e', he'⟩ := Option.isSome_iff_exists.1 hsome
  have hsame := List.find?_some he'
  refine ⟨e', List.mem_reverse.1 (List.mem_of_find?_eq_some he'), hsame, ?_⟩
  rw [lastWrite?, he', Option.map_some]

theorem lastWrite?_eq_none {pairs : List (String × α)} {key : String}
    (h : ∀ e ∈ pairs, sameText e.1 key = false) : lastWrite? pairs key = none := by
  rw [lastWrite?, Option.map_eq_none_iff, List.find?_eq_none]
  intro e he
  exact Bool.eq_false_iff.1 (h e (List.mem_reverse.1 he))

/-- Where the keys of the pairs are different, every pair is the last under its key. -/
theorem lastWrite?_eq_some {pairs : List (String × α)}
    (h : (pairs.map Prod.fst).Pairwise fun a b => sameText a b = false) {e : String × α}
    (he : e ∈ pairs) : lastWrite? pairs e.1 = some e.2 := by
  obtain ⟨e', he', hsame, hlast⟩ := exists_lastWrite? he
  rw [hlast, (eq_of_mem (m := ⟨pairs, h⟩) he' he hsame).2]

theorem lastWrite?_append {front back : List (String × α)} {e : String × α} (he : e ∈ back) :
    lastWrite? (front ++ back) e.1 = lastWrite? back e.1 := by
  obtain ⟨e', -, -, hlast⟩ := exists_lastWrite? he
  rw [lastWrite?, Option.map_eq_some_iff] at hlast
  obtain ⟨x, hx, -⟩ := hlast
  rw [lastWrite?, lastWrite?, List.reverse_append, List.find?_append, hx, Option.some_or]

/-- Where the pairs behind agree with each other, the pairs in front are found again just when they
agree with every pair under the same key. -/
theorem ofList_keeps_iff {front back : List (String × α)} (hback : ∀ e ∈ back, ∀ e' ∈ back,
    sameText e.1 e'.1 = true → e.2 = e'.2) :
    (∀ e ∈ front, (ofList (front ++ back)).get? e.1 = some e.2) ↔
      ∀ e ∈ front, ∀ e' ∈ front ++ back, sameText e.1 e'.1 = true → e.2 = e'.2 := by
  constructor
  · intro h e he e' he' hsame
    have hvalue : (ofList (front ++ back)).get? e'.1 = some e.2 := by
      rw [← get?_congr _ hsame, h e he]
    rcases List.mem_append.1 he' with he' | he'
    · rw [h e' he', Option.some.injEq] at hvalue
      exact hvalue.symm
    · obtain ⟨x, hx, hxsame, hlast⟩ := exists_lastWrite? he'
      rw [get?_ofList, lastWrite?_append he', hlast, Option.some.injEq] at hvalue
      rw [← hvalue]
      exact hback x hx e' he' hxsame
  · intro h e he
    obtain ⟨x, hx, hxsame, hlast⟩ := exists_lastWrite? (List.mem_append_left back he)
    rw [get?_ofList, hlast, h e he x hx]
    rw [Text.sameText_comm]
    exact hxsame

end Routebook.CaselessMap
