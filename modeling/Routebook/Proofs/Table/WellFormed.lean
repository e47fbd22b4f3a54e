import Routebook.Table.Basic

/-!
# Well-formed tables

A table keeps its routes and an index of their names side by side, and changes them separately.

* `NameIndex.ofRoutes` : the index that routes call for; cutting the routes back and erasing the
  names of those that are dropped gives it again (`foldl_erase_ofRoutes`);
* `RouteTable.WellFormed` : the index is that of the routes, no two names are the same, every route
  is that of its entry; kept by `register` and `truncate`;
* `WellFormed.hasName_eq`, `WellFormed.find?_eq` : looking a name up is a search through the entries;
* `WellFormed.ext` : such a table is determined by its entries.
-/

namespace Routebook

open Text (sameText)

def Route.key (r : Route) : String := indexKey r.entry.name

/-! ## The index of a list of routes -/

namespace NameIndex

/-- The name of each route with its position. -/
def ofRoutes (routes : List Route) : NameIndex := routes.mapIdx fun i r => (r.key, i)

theorem ofRoutes_concat (routes : List Route) (r : Route) :
    ofRoutes (routes ++ [r]) = ofRoutes routes ++ [(r.key, routes.length)] := by
  rw [ofRoutes, List.mapIdx_concat, ofRoutes]

theorem map_fst_ofRoutes (routes : List Route) : (ofRoutes routes).map Prod.fst = routes.map Route.key := by
  apply List.ext_getElem?
  intro i
  cases h : routes[i]? <;> simp [ofRoutes, h]

theorem find?_ofRoutes (routes : List Route) (key : String) :
    (ofRoutes routes).find? key = routes.findIdx? fun r => r.key == key := by
  rw [find?, ofRoutes, List.mapIdx_eq_zipIdx_map, List.find?_map, Option.map_map,
    List.findIdx?_eq_fst_find?_zipIdx]
  rfl

theorem foldl_erase (routes : List Route) (index : NameIndex) :
    routes.foldl (fun index r => index.erase (indexKey r.entry.name)) index =
      index.filter fun e => !(routes.map Route.key).contains e.1 := by
  induction routes generalizing index with
  | nil => exact (List.filter_eq_self.2 fun _ _ => rfl).symm
  | cons r rest ih =>
    rw [List.foldl_cons, ih, erase, List.filter_filter]
    apply List.filter_congr
    intro e _
    rw [List.map_cons, List.contains_cons, Bool.not_or, Bool.and_comm]
    rfl

/-- Erasing the names of the routes behind a position leaves the index of those in front of it,
because no name in front is one behind. -/
theorem foldl_erase_ofRoutes {routes : List Route} (h : (routes.map Route.key).Nodup) (n : Nat) :
    (routes.drop n).foldl (fun index r => index.erase (indexKey r.entry.name)) (ofRoutes routes) =
      ofRoutes (routes.take n) := by
  have hsplit : ofRoutes routes = ofRoutes (routes.take n) ++
      (routes.drop n).mapIdx fun i r => (r.key, i + (routes.take n).length) := by
    rw [ofRoutes, ofRoutes, ← List.mapIdx_append, List.take_append_drop]
  have hdisjoint : ∀ k ∈ (routes.take n).map Route.key, k ∉ (routes.drop n).map Route.key := by
    rw [← List.take_append_drop n routes, List.map_append, List.nodup_append] at h
    intro k hk hk'
    exact h.2.2 k hk k hk' rfl
  rw [foldl_erase, hsplit, List.filter_append, List.filter_eq_self.2, List.filter_eq_nil_iff.2,
    List.append_nil]
  · intro e he
    obtain ⟨i, hi, rfl⟩ := List.mem_mapIdx.1 he
    have : (routes.drop n)[i].key ∈ (routes.drop n).map Route.key :=
      List.mem_map_of_mem (List.getElem_mem hi)
    simpa using this
  · intro e he
    have hk : e.1 ∈ (routes.take n).map Route.key := by
      rw [← map_fst_ofRoutes]
      exact List.mem_map_of_mem he
    simpa using hdisjoint e.1 hk

end NameIndex

/-! ## Routes of entries -/

theorem Route.entry_of_ofEntry {e : Entry} {r : Route} (h : Route.ofEntry e = .ok r) : r.entry = e := by
  unfold Route.ofEntry at h
  split at h
  · cases h
  · split at h
    · cases h
    · cases h
      rfl

theorem Route.eq_of_map_entry : ∀ {rs ss : List Route}, (∀ r ∈ rs, Route.ofEntry r.entry = .ok r) →
    (∀ s ∈ ss, Route.ofEntry s.entry = .ok s) → rs.map Route.entry = ss.map Route.entry → rs = ss
  | [], ss, _, _, h => (List.map_eq_nil_iff.1 h.symm).symm
  | _ :: _, [], _, _, h => nomatch h
  | r :: rs, s :: ss, hr, hs, h => by
    obtain ⟨hhead, htail⟩ := List.cons.inj h
    have hrs : r = s := by
      have := hr r List.mem_cons_self
      rw [hhead, hs s List.mem_cons_self] at this
      exact (Except.ok.inj this).symm
    rw [hrs, Route.eq_of_map_entry (fun r' h' => hr r' (List.mem_cons_of_mem _ h'))
      (fun s' h' => hs s' (List.mem_cons_of_mem _ h')) htail]

namespace RouteTable

/-! ## What the changes do -/

theorem register_eq_ok_iff {t u : RouteTable} {e : Entry} :
    t.register e = .ok u ↔ t.hasName e.name = false ∧ ∃ r, Route.ofEntry e = .ok r ∧
      u = ⟨t.routes ++ [r], t.index ++ [(indexKey e.name, t.size)]⟩ := by
  unfold register
  cases hn : t.hasName e.name with
  | true => simp
  | false =>
    cases hr : Route.ofEntry e with
    | error err => simp
    | ok r => simp [eq_comm]

theorem entries_of_register {t u : RouteTable} {e : Entry} (h : t.register e = .ok u) :
    u.entries = t.entries ++ [e] := by
  obtain ⟨-, r, hr, rfl⟩ := register_eq_ok_iff.1 h
  rw [entries, List.map_append, List.map_singleton, Route.entry_of_ofEntry hr, entries]

theorem entries_prefix_of_register {t u : RouteTable} {e : Entry} (h : t.register e = .ok u) :
    t.entries <+: u.entries := by
  rw [entries_of_register h]
  exact List.prefix_append _ _

@[simp] theorem entries_truncate (t : RouteTable) (n : Nat) :
    (t.truncate n).entries = t.entries.take n := by
  rw [entries, truncate, List.map_take, entries]

@[simp] theorem length_entries (t : RouteTable) : t.entries.length = t.size := by
  rw [entries, List.length_map, size]

theorem size_of_register {t u : RouteTable} {e : Entry} (h : t.register e = .ok u) : u.size = t.size + 1 := by
  rw [← length_entries, entries_of_register h, List.length_append, length_entries, List.length_singleton]

theorem registry_register (t : RouteTable) (e : Entry) : Registry.register t e = t.register e := rfl

theorem registry_hasName (t : RouteTable) (name : String) : Registry.hasName t name = t.hasName name :=
  rfl

@[simp] theorem registry_size (t : RouteTable) : Registry.size t = t.size := length_entries t

/-! ## Well-formed tables -/

/-- The parts of a table belong together. -/
structure WellFormed (t : RouteTable) : Prop where
  /-- The index has the name of each route with its position, and nothing else. -/
  index_eq : t.index = NameIndex.ofRoutes t.routes
  /-- No two routes have the same name. -/
  distinct : (t.routes.map Route.key).Nodup
  /-- Every route is that of its entry. -/
  ready : ∀ r ∈ t.routes, Route.ofEntry r.entry = .ok r

namespace WellFormed

variable {t u : RouteTable}

theorem empty : WellFormed RouteTable.empty := ⟨rfl, List.nodup_nil, fun _ h => nomatch h⟩

theorem index_find? (h : WellFormed t) (name : String) :
    t.index.find? (indexKey name) = t.routes.findIdx? fun r => sameText r.entry.name name := by
  rw [h.index_eq, NameIndex.find?_ofRoutes]
  rfl

theorem hasName_eq (h : WellFormed t) (name : String) :
    t.hasName name = t.entries.any fun e => sameText e.name name := by
  rw [hasName, h.index_find?, List.findIdx?_isSome, entries, List.any_map]
  rfl

/-- Looking up a name finds the first entry that has it. -/
theorem find?_eq (h : WellFormed t) (name : String) :
    t.find? name = t.entries.find? fun e => sameText e.name name := by
  rw [find?, h.index_find?, entries, List.find?_map, List.find?_eq_bind_findIdx?_getElem?]
  show _ = Option.map Route.entry ((t.routes.findIdx? fun r => sameText r.entry.name name).bind _)
  cases t.routes.findIdx? fun r => sameText r.entry.name name <;> rfl

theorem names_pairwise (h : WellFormed t) :
    t.entries.Pairwise fun a b => sameText a.name b.name = false := by
  have hd := h.distinct
  rw [List.nodup_iff_pairwise_ne, List.pairwise_map] at hd
  rw [entries, List.pairwise_map]
  exact hd.imp fun hne => beq_eq_false_iff_ne.2 hne

/-- An entry of the table is found by its name in any case. -/
theorem find?_eq_some_iff (h : WellFormed t) {name : String} {e : Entry} :
    t.find? name = some e ↔ e ∈ t.entries ∧ sameText e.name name = true := by
  rw [h.find?_eq]
  constructor
  · intro he
    have hname := List.find?_some he
    exact ⟨List.mem_of_find?_eq_some he, hname⟩
  · rintro ⟨he, hname⟩
    obtain ⟨before, after, hsplit⟩ := List.append_of_mem he
    refine List.find?_eq_some_iff_append.2 ⟨hname, before, after, hsplit, fun b hb => ?_⟩
    have hne := (List.pairwise_append.1 (hsplit ▸ h.names_pairwise)).2.2 b hb e List.mem_cons_self
    rw [Bool.not_eq_true', Bool.eq_false_iff, ne_eq, Text.sameText_iff]
    rw [Bool.eq_false_iff, ne_eq, Text.sameText_iff] at hne
    rw [Text.sameText_iff] at hname
    exact fun hb => hne (hb.trans hname.symm)

/-- Entries are at their positions and found by their names just when the table begins with them. -/
theorem forall_getElem?_iff (h : WellFormed t) {first : List Entry} :
    (∀ (i : Nat) e, first[i]? = some e → t.entries[i]? = some e ∧ t.find? e.name = some e) ↔
      first <+: t.entries := by
  rw [List.prefix_iff_getElem?]
  constructor
  · intro hplaces i hi
    rw [(hplaces i first[i] (List.getElem?_eq_getElem hi)).1]
  · intro hfirst i e he
    obtain ⟨hi, rfl⟩ := List.getElem?_eq_some_iff.1 he
    have hplace := hfirst i hi
    exact ⟨hplace, h.find?_eq_some_iff.2 ⟨List.mem_of_getElem? hplace, Text.sameText_refl _⟩⟩

theorem register (h : WellFormed t) {e : Entry} (hr : t.register e = .ok u) : WellFormed u := by
  obtain ⟨hname, r, hready, rfl⟩ := register_eq_ok_iff.1 hr
  have hkey : r.key = indexKey e.name := by rw [Route.key, Route.entry_of_ofEntry hready]
  have hnew : r.key ∉ t.routes.map Route.key := by
    rw [hkey, ← NameIndex.map_fst_ofRoutes, ← h.index_eq]
    rw [hasName, Option.isSome_eq_false_iff, Option.isNone_iff_eq_none, NameIndex.find?,
      Option.map_eq_none_iff, List.find?_eq_none] at hname
    intro hmem
    obtain ⟨entry, hentry, heq⟩ := List.mem_map.1 hmem
    exact hname entry hentry (beq_iff_eq.2 heq)
  constructor
  · show t.index ++ _ = _
    rw [NameIndex.ofRoutes_concat, h.index_eq, hkey, size]
  · show ((t.routes ++ [r]).map Route.key).Nodup
    rw [List.map_append, List.map_singleton]
    refine List.nodup_append.2 ⟨h.distinct, List.pairwise_singleton _ _, fun a ha b hb hab => ?_⟩
    rw [List.mem_singleton.1 hb] at hab
    exact hnew (hab ▸ ha)
  · intro s hs
    rcases List.mem_append.1 hs with hs | hs
    · exact h.ready s hs
    · rw [List.mem_singleton.1 hs, Route.entry_of_ofEntry hready, hready]

theorem truncate (h : WellFormed t) (n : Nat) : WellFormed (t.truncate n) where
  index_eq := by
    show (t.routes.drop n).foldl _ t.index = _
    rw [h.index_eq]
    exact NameIndex.foldl_erase_ofRoutes h.distinct n
  distinct := h.distinct.sublist ((List.take_sublist n t.routes).map _)
  ready r hr := h.ready r (List.mem_of_mem_take hr)

theorem ext (ht : WellFormed t) (hu : WellFormed u) (h : t.entries = u.entries) : t = u := by
  have hr : t.routes = u.routes := Route.eq_of_map_entry ht.ready hu.ready h
  have hi : t.index = u.index := by rw [ht.index_eq, hu.index_eq, hr]
  cases t
  cases u
  cases hr
  cases hi
  rfl

end WellFormed

end RouteTable

end Routebook
