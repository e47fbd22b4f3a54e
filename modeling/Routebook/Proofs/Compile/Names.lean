import Routebook.Compile.Entry
import Routebook.Proofs.Table.Admission

/-!
# Names that are made up

A handler without a name of its own is named after its verbs, its owner and itself, with points between them.
Owners and handlers may have points in their names, but verbs have none: the first point of such a name tells
the verbs from the rest, and what is in front of it is a list of words with commas between them, which can be
read in one way only.

* `Text.append_cons_inj` : a text is cut at the first of a character in one way only;
* `Text.intercalate_inj` : so is a list of words that have no commas;
* `VerbSet.label_inj` : the label tells the set, in any case;
* `Config.dotted` : owner and handler with a point between them;
* `Config.nameOf_collides_iff` : when two names that are made up are the same.
-/

namespace Routebook

/-! ## Cutting texts -/

namespace Text

@[simp] theorem toList_foldCase (s : String) : (foldCase s).toList = s.toList.map Char.toLower := by
  rw [foldCase, String.toList_ofList]

theorem append_cons_inj {sep : Char} {a b x y : List Char} (ha : sep ∉ a) (hb : sep ∉ b) :
    a ++ sep :: x = b ++ sep :: y ↔ a = b ∧ x = y := by
  induction a generalizing b with
  | nil =>
    cases b with
    | nil => simp
    | cons c b =>
      have hc : sep ≠ c := fun h => hb (h ▸ List.mem_cons_self)
      simp [hc]
  | cons c a ih =>
    have hc : c ≠ sep := fun h => ha (h ▸ List.mem_cons_self)
    cases b with
    | nil => simp [hc]
    | cons c' b =>
      rw [List.cons_append, List.cons_append, List.cons.injEq, List.cons.injEq, and_assoc,
        ih (fun h => ha (List.mem_cons_of_mem c h)) fun h => hb (List.mem_cons_of_mem c' h)]

theorem map_intercalate (f : Char → Char) (sep : List Char) : ∀ ws : List (List Char),
    (sep.intercalate ws).map f = (sep.map f).intercalate (ws.map (List.map f))
  | [] => rfl
  | [w] => by simp
  | w :: x :: ws => by
    rw [List.intercalate_cons_cons, List.map_append, List.map_append, map_intercalate f sep (x :: ws)]
    simp only [List.map_cons, List.intercalate_cons_cons]

theorem mem_intercalate {sep : List Char} {c : Char} : ∀ {ws : List (List Char)},
    c ∈ sep.intercalate ws → c ∈ sep ∨ ∃ w ∈ ws, c ∈ w
  | [], h => by simp at h
  | [w], h => .inr ⟨w, List.mem_cons_self, by simpa using h⟩
  | w :: x :: ws, h => by
    rw [List.intercalate_cons_cons, List.mem_append, List.mem_append] at h
    rcases h with (hw | hsep) | hrest
    · exact .inr ⟨w, List.mem_cons_self, hw⟩
    · exact .inl hsep
    · exact (mem_intercalate hrest).imp_right fun ⟨v, hv, hc⟩ => ⟨v, List.mem_cons_of_mem w hv, hc⟩

/-- Words without a character, written with separators that begin with it, are the only ones that are written
so. -/
theorem intercalate_inj {sep : Char} {rest : List Char} : ∀ {vs ws : List (List Char)},
    (∀ v ∈ vs, v ≠ [] ∧ sep ∉ v) → (∀ w ∈ ws, w ≠ [] ∧ sep ∉ w) →
    (sep :: rest).intercalate vs = (sep :: rest).intercalate ws → vs = ws
  | [], [], _, _, _ => rfl
  | [], w :: ws, _, hws, h => by
    exfalso
    obtain ⟨hw, -⟩ := hws w List.mem_cons_self
    cases ws <;> simp [List.intercalate_cons_cons, eq_comm (a := ([] : List Char)), hw] at h
  | v :: vs, [], hvs, _, h => by
    exfalso
    obtain ⟨hv, -⟩ := hvs v List.mem_cons_self
    cases vs <;> simp [List.intercalate_cons_cons, hv] at h
  | [v], [w], _, _, h => by simpa using h
  | [v], w :: x :: ws, hvs, _, h => by
    exfalso
    refine (hvs v List.mem_cons_self).2 ?_
    rw [List.intercalate_singleton, List.intercalate_cons_cons] at h
    simp [h]
  | v :: x :: vs, [w], _, hws, h => by
    exfalso
    refine (hws w List.mem_cons_self).2 ?_
    rw [List.intercalate_singleton, List.intercalate_cons_cons] at h
    simp [← h]
  | v :: x :: vs, w :: y :: ws, hvs, hws, h => by
    rw [List.intercalate_cons_cons, List.intercalate_cons_cons, List.append_assoc, List.append_assoc,
      List.cons_append, List.cons_append,
      append_cons_inj (hvs v List.mem_cons_self).2 (hws w List.mem_cons_self).2,
      List.append_cancel_left_eq] at h
    rw [h.1, intercalate_inj (fun u hu => hvs u (List.mem_cons_of_mem v hu))
      (fun u hu => hws u (List.mem_cons_of_mem w hu)) h.2]

end Text

open Text (sameText foldCase toList_foldCase)

/-! ## Labels of sets -/

/-- The verb as it stands in the names of routes, in lower case. -/
def Verb.word (v : Verb) : List Char := v.label.toList.map Char.toLower

theorem Verb.word_plain (v : Verb) : v.word ≠ [] ∧ ',' ∉ v.word ∧ '.' ∉ v.word := by
  have hall : ∀ v ∈ all, v.word ≠ [] ∧ ',' ∉ v.word ∧ '.' ∉ v.word := by decide +kernel
  exact hall v (mem_all v)

theorem Verb.word_inj {v w : Verb} (h : v.word = w.word) : v = w := by
  have hall : ∀ v ∈ all, ∀ w ∈ all, v.word = w.word → v = w := by decide +kernel
  exact hall v (mem_all v) w (mem_all w) h

namespace VerbSet

variable {s t : VerbSet}

theorem toList_foldCase_label (s : VerbSet) :
    (foldCase s.label).toList = [',', ' '].intercalate (s.toList.map Verb.word) := by
  rw [toList_foldCase, label, String.toList_intercalate, Text.map_intercalate, List.map_map, List.map_map]
  rfl

/-- Sets whose labels are the same up to case are equal. -/
theorem label_inj (h : foldCase s.label = foldCase t.label) : s = t := by
  have hwords : ∀ (u : VerbSet), ∀ w ∈ u.toList.map Verb.word, w ≠ [] ∧ ',' ∉ w := by
    intro u w hw
    obtain ⟨v, -, rfl⟩ := List.mem_map.1 hw
    exact ⟨v.word_plain.1, v.word_plain.2.1⟩
  have hlists := congrArg String.toList h
  rw [toList_foldCase_label, toList_foldCase_label] at hlists
  have hmap := Text.intercalate_inj (hwords s) (hwords t) hlists
  exact toList_injective ((List.map_inj_right fun _ _ => Verb.word_inj).1 hmap)

theorem no_point_label (s : VerbSet) : '.' ∉ (foldCase s.label).toList := by
  rw [toList_foldCase_label]
  intro hmem
  rcases Text.mem_intercalate hmem with hsep | ⟨w, hw, hpoint⟩
  · simp at hsep
  · obtain ⟨v, -, rfl⟩ := List.mem_map.1 hw
    exact v.word_plain.2.2 hpoint

end VerbSet

/-! ## Names -/

namespace Config

/-- The owner as it is shown, and the handler behind a point. -/
def dotted (c : Config) (h : Handler) : String := c.shownOwner h.owner ++ "." ++ h.name

section

variable (c : Config) (h g : Handler) {d d' : Declaration} (s s' : VerbSet)

theorem toList_foldCase_nameOf (hd : d.name = none) :
    (foldCase (c.nameOf h d s)).toList =
      (foldCase s.label).toList ++ '.' :: (foldCase (c.dotted h)).toList := by
  simp [nameOf, hd, dotted, toList_foldCase]

theorem sameText_nameOf_iff (hd : d.name = none) (hd' : d'.name = none) :
    sameText (c.nameOf h d s) (c.nameOf g d' s') = true ↔
      s = s' ∧ sameText (c.dotted h) (c.dotted g) = true := by
  rw [Text.sameText_iff, Text.sameText_iff, ← String.toList_inj, toList_foldCase_nameOf c h s hd,
    toList_foldCase_nameOf c g s' hd', Text.append_cons_inj s.no_point_label s'.no_point_label,
    String.toList_inj, String.toList_inj]
  constructor
  · rintro ⟨hlabel, hdotted⟩
    exact ⟨VerbSet.label_inj hlabel, hdotted⟩
  · rintro ⟨rfl, hdotted⟩
    exact ⟨rfl, hdotted⟩

end

/-- Names that are made up for two handlers, each with any set of verbs, are the same up to case just when the
sets are equal and owner and handler with a point between them are the same up to case. In this case a table that
holds an entry with the first name refuses one with the second as a duplicate; in any other case it does so only
because of another entry. -/
theorem nameOf_collides_iff (c : Config) (h g : Handler) {d d' : Declaration} (s s' : VerbSet)
    (hd : d.name = none) (hd' : d'.name = none) :
    (sameText (c.nameOf h d s) (c.nameOf g d' s') = true ↔
      s = s' ∧ sameText (c.dotted h) (c.dotted g) = true) ∧
    ∀ (t : RouteTable) (e e' : Entry), RouteTable.Reachable t → e ∈ t.entries →
      e.name = c.nameOf h d s → e'.name = c.nameOf g d' s' →
      (s = s' ∧ sameText (c.dotted h) (c.dotted g) = true → t.register e' = .error (.duplicateName e'.name)) ∧
      (t.register e' = .error (.duplicateName e'.name) →
        s = s' ∧ sameText (c.dotted h) (c.dotted g) = true ∨
          ∃ b ∈ t.entries, b ≠ e ∧ sameText b.name e'.name = true) := by
  have hsame := sameText_nameOf_iff c h g s s' hd hd'
  refine ⟨hsame, fun t e e' ht he hname hname' => ?_⟩
  rw [ht.wellFormed.register_refused_iff, ← hsame, ← hname, ← hname']
  constructor
  · exact .name he
  · rintro (⟨hb, hsameb⟩ | _ | _)
    rename_i b
    by_cases hbe : b = e
    · exact .inl (hbe ▸ hsameb)
    · exact .inr ⟨b, hb, hbe, hsameb⟩

/-- Points in the names of an owner and of a handler, and a suffix that is not shown: two owners whose handlers
have the same name, in a table that holds the first. -/
theorem nameOf_collides_iff_points :
    let c : Config := { ownerSuffix := some "Ctrl" }
    let h : Handler := ⟨"A.BCtrl", "c", []⟩
    let g : Handler := ⟨"a", "b.C", []⟩
    let d : Declaration := { url := "x" }
    let s : VerbSet := .ofList [.post, .get]
    let e : Entry := { name := "Get, Post.A.B.c", url := "x" }
    let e' : Entry := { name := "Get, Post.a.b.C", url := "y" }
    let t := RouteTable.empty.replay [.register e]
    sameText (c.nameOf h d s) (c.nameOf g d s) = true ∧ e ∈ t.entries ∧
      t.register e' = .error (.duplicateName "Get, Post.a.b.C") := by
  intro c h g d s e e' t
  have hd : d.name = none := rfl
  obtain ⟨hsame, htable⟩ := nameOf_collides_iff c h g s s hd hd
  have hname : e.name = c.nameOf h d s := by
    dsimp only [e, c, h, d, s]
    with_unfolding_all rfl
  have hname' : e'.name = c.nameOf g d s := by
    dsimp only [e', c, g, d, s]
    with_unfolding_all rfl
  have hdotted : sameText (c.dotted h) (c.dotted g) = true := by
    dsimp only [c, h, g]
    decide +kernel
  have he : e ∈ t.entries := by
    have hentries : t.entries = [e] := by
      dsimp only [t, e]
      with_unfolding_all rfl
    rw [hentries]
    exact List.mem_cons_self
  exact ⟨hsame.2 ⟨rfl, hdotted⟩, he, (htable t e e' ⟨_, rfl⟩ he hname hname').1 ⟨rfl, hdotted⟩⟩

end Config

end Routebook
