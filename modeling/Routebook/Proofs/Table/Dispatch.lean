import Routebook.Proofs.Route.Matching
import Routebook.Proofs.Table.History

/-!
# Which entry answers a request

The table tries its routes in order of registration.

* `RouteTable.WellFormed.route_eq_some_iff` : the answer is that of the first entry that takes the
  request;
* `RouteTable.route_register` : an entry that comes later answers only what had no answer;
* `RouteTable.answer_iff_first` : both for every table that can be reached.
-/

namespace Routebook.RouteTable

open Text (sameText)

variable {t u : RouteTable} {method path : String}

/-- The answer is that of an entry which takes the request, while none in front of it does. -/
theorem WellFormed.route_eq_some_iff (h : WellFormed t) {m : RouteMatch} :
    t.route method path = some m ↔ ∃ before after, t.entries = before ++ m.entry :: after ∧
      m.entry.Takes ⟨method, path⟩ m.values ∧
      ∀ e ∈ before, ∀ v, ¬ e.Takes ⟨method, path⟩ v := by
  have hmatch : ∀ r ∈ t.routes, ∀ v,
      r.match? ⟨method, path⟩ = some v ↔ r.entry.Takes ⟨method, path⟩ v :=
    fun r hr _ => Route.match?_eq_some_iff (h.ready r hr)
  rw [route, List.findSome?_eq_some_iff, entries]
  constructor
  · rintro ⟨before, r, after, hsplit, hanswer, hnone⟩
    obtain ⟨v, hv, rfl⟩ := Option.map_eq_some_iff.1 hanswer
    refine ⟨before.map Route.entry, after.map Route.entry, by rw [hsplit, List.map_append, List.map_cons],
      (hmatch r (by simp [hsplit]) v).1 hv, fun e he w hw => ?_⟩
    obtain ⟨s, hs, rfl⟩ := List.mem_map.1 he
    have hsome := (hmatch s (by simp [hsplit, hs]) w).2 hw
    have := hnone s hs
    rw [hsome] at this
    cases this
  · rintro ⟨before, after, hsplit, htakes, hnone⟩
    obtain ⟨front, rest, hroutes, rfl, hrest⟩ := List.map_eq_append_iff.1 hsplit
    obtain ⟨r, back, rfl, hr, -⟩ := List.map_eq_cons_iff.1 hrest
    have hv := (hmatch r (by simp [hroutes]) m.values).2 (hr ▸ htakes)
    refine ⟨front, r, back, hroutes, by rw [hv, Option.map_some, hr], fun s hs => ?_⟩
    rw [Option.map_eq_none_iff, Option.eq_none_iff_forall_not_mem]
    intro w hw
    exact hnone s.entry (List.mem_map_of_mem hs) w ((hmatch s (by simp [hroutes, hs]) w).1 hw)

theorem WellFormed.route_eq_none_iff (h : WellFormed t) :
    t.route method path = none ↔ ∀ e ∈ t.entries, ∀ v, ¬ e.Takes ⟨method, path⟩ v := by
  rw [route, List.findSome?_eq_none_iff]
  constructor
  · intro hnone e he v hv
    obtain ⟨r, hr, rfl⟩ := List.mem_map.1 he
    have hsome := (Route.match?_eq_some_iff (h.ready r hr)).2 hv
    have := hnone r hr
    rw [hsome] at this
    cases this
  · intro hnone r hr
    rw [Option.map_eq_none_iff, Option.eq_none_iff_forall_not_mem]
    intro v hv
    exact hnone r.entry (List.mem_map_of_mem hr) v ((Route.match?_eq_some_iff (h.ready r hr)).1 hv)

/-- A further entry answers what had no answer before, and nothing else. -/
theorem route_register {e : Entry} (hr : t.register e = .ok u) : u.route method path =
    (t.route method path).or (((Route.ofEntry e).toOption.bind (·.match? ⟨method, path⟩)).map (⟨e, ·⟩)) := by
  obtain ⟨-, r, hready, rfl⟩ := register_eq_ok_iff.1 hr
  rw [route, List.findSome?_append, hready, route, List.findSome?_singleton,
    Route.entry_of_ofEntry hready]
  rfl

theorem WellFormed.eq_of_getElem? (h : WellFormed t) {i j : Nat} {e : Entry}
    (hi : t.entries[i]? = some e) (hj : t.entries[j]? = some e) : i = j := by
  obtain ⟨hilt, rfl⟩ := List.getElem?_eq_some_iff.1 hi
  obtain ⟨hjlt, heq⟩ := List.getElem?_eq_some_iff.1 hj
  have hpair := List.pairwise_iff_getElem.1 h.names_pairwise
  rcases Nat.lt_trichotomy i j with hlt | rfl | hlt
  · have := hpair i j hilt hjlt hlt
    rw [heq, Text.sameText_refl] at this
    cases this
  · rfl
  · have := hpair j i hjlt hilt hlt
    rw [heq, Text.sameText_refl] at this
    cases this

/-- A request is answered by the entry at a position just when this entry takes it, with the values
of the answer, and no entry at a smaller position does; every answer is that of some position. So a
further entry changes no answer that was given, and it alone can answer what had no answer. -/
theorem answer_iff_first (ht : Reachable t) (method path : String) :
    (∀ (i : Nat) e v, t.entries[i]? = some e → (t.route method path = some ⟨e, v⟩ ↔
      e.Takes ⟨method, path⟩ v ∧
      ∀ j < i, ∀ e', t.entries[j]? = some e' → ∀ v', ¬ e'.Takes ⟨method, path⟩ v')) ∧
    (∀ m, t.route method path = some m → ∃ i : Nat, t.entries[i]? = some m.entry) ∧
    (t.route method path = none ↔ ∀ e ∈ t.entries, ∀ v, ¬ e.Takes ⟨method, path⟩ v) ∧
    ∀ e u, t.register e = .ok u →
      (∀ m, t.route method path = some m → u.route method path = some m) ∧
      (t.route method path = none → ∀ m, u.route method path = some m ↔
        m.entry = e ∧ e.Takes ⟨method, path⟩ m.values) := by
  have hw := ht.wellFormed
  refine ⟨fun i e v hi => ?_, fun m hm => ?_, hw.route_eq_none_iff, fun e u hr => ⟨fun m hm => ?_, ?_⟩⟩
  · rw [hw.route_eq_some_iff]
    constructor
    · rintro ⟨before, after, hsplit, htakes, hnone⟩
      have hpos : t.entries[before.length]? = some e := by
        rw [hsplit, List.getElem?_append_right (Nat.le_refl _), Nat.sub_self, List.getElem?_cons_zero]
      obtain rfl := hw.eq_of_getElem? hi hpos
      refine ⟨htakes, fun j hj e' he' => hnone e' ?_⟩
      rw [hsplit, List.getElem?_append_left hj] at he'
      exact List.mem_of_getElem? he'
    · rintro ⟨htakes, hnone⟩
      obtain ⟨hlt, rfl⟩ := List.getElem?_eq_some_iff.1 hi
      refine ⟨t.entries.take i, t.entries.drop (i + 1), ?_, htakes, fun e' he' => ?_⟩
      · rw [← List.drop_eq_getElem_cons hlt, List.take_append_drop]
      · obtain ⟨j, hj, rfl⟩ := List.mem_take_iff_getElem.1 he'
        have hji : j < i := by omega
        exact hnone j hji _ (List.getElem?_eq_getElem (by omega))
  · obtain ⟨before, after, hsplit, -⟩ := hw.route_eq_some_iff.1 hm
    exact List.mem_iff_getElem?.1 (by rw [hsplit]; simp)
  · rw [route_register hr, hm, Option.some_or]
  · intro hnone m
    obtain ⟨-, r, hready, -⟩ := register_eq_ok_iff.1 hr
    rw [route_register hr, hnone, Option.none_or, hready, Except.toOption, Option.bind_some,
      Option.map_eq_some_iff]
    simp only [Route.match?_eq_some_iff hready]
    constructor
    · rintro ⟨v, hv, rfl⟩
      exact ⟨rfl, hv⟩
    · rintro ⟨rfl, hv⟩
      exact ⟨m.values, hv, rfl⟩

/-- A route for one verb in front of a route for all; a third one comes later. -/
theorem answer_iff_first_behind :
    let a : Entry :=
      { name := "a", url := "x/\x7bid\x7d", constraints := .ofList [("verb", .methods [" post"])] }
    let b : Entry := { name := "b", url := "x/\x7b*rest\x7d" }
    let c : Entry := { name := "c", url := "\x7b*rest\x7d" }
    let t := RouteTable.empty.replay [.register a, .register b]
    let u := RouteTable.empty.replay [.register a, .register b, .register c]
    let v : RouteValues := .ofList [("rest", .ofText "7")]
    let w : RouteValues := .ofList [("rest", .ofText "y")]
    Reachable t ∧ t.entries = [a, b] ∧ t.route "GET" "/X/7/" = some ⟨b, v⟩ ∧
      b.Takes ⟨"GET", "/X/7/"⟩ v ∧ (∀ v', ¬ a.Takes ⟨"GET", "/X/7/"⟩ v') ∧
      t.register c = .ok u ∧ u.route "GET" "/X/7/" = some ⟨b, v⟩ ∧ c.Takes ⟨"GET", "/y"⟩ w := by
  intro a b c t u v w
  have ht : Reachable t := ⟨_, rfl⟩
  have hentries : t.entries = [a, b] := by dsimp only [t, a, b]; with_unfolding_all rfl
  have hanswer : t.route "GET" "/X/7/" = some ⟨b, v⟩ := by dsimp only [t, a, b, v]; with_unfolding_all rfl
  have hnone : t.route "GET" "/y" = none := by dsimp only [t, a, b]; with_unfolding_all rfl
  have hthird : t.register c = .ok u := by dsimp only [t, u, a, b, c]; with_unfolding_all rfl
  have hlast : u.route "GET" "/y" = some ⟨c, w⟩ := by dsimp only [u, a, b, c, w]; with_unfolding_all rfl
  obtain ⟨hfirst, -, -, hlater⟩ := answer_iff_first ht "GET" "/X/7/"
  obtain ⟨htakes, hfront⟩ := (hfirst 1 b v (by rw [hentries]; rfl)).1 hanswer
  obtain ⟨-, -, -, hnew⟩ := answer_iff_first ht "GET" "/y"
  exact ⟨ht, hentries, hanswer, htakes, hfront 0 Nat.one_pos a (by rw [hentries]; rfl), hthird,
    (hlater c u hthird).1 _ hanswer, (((hnew c u hthird).2 hnone ⟨c, w⟩).1 hlast).2⟩

end Routebook.RouteTable
