import Routebook.Proofs.Table.WellFormed

/-!
# Histories of a table

A history is a list of changes, each an entry that is offered or a length that the table is cut
back to. A refused entry changes nothing.

* `RouteTable.replay` : runs a history; `RouteTable.Reachable` : some history leads to the table;
* `reachable_iff` : the reachable tables are the well-formed ones;
* `WellFormed.truncate_eq_replay` : cutting a table back gives what registering the entries in front
  gives;
* `RouteTable.IndexFaithful` : the names and the index agree, as they do after any history.
-/

namespace Routebook.RouteTable

open Text (sameText foldCase)

/-- A change of a table. -/
inductive Change where
  | register (entry : Entry)
  | truncate (length : Nat)

def change (t : RouteTable) : Change → RouteTable
  | .register e =>
    match t.register e with
    | .ok u => u
    | .error _ => t
  | .truncate n => t.truncate n

def replay (t : RouteTable) (changes : List Change) : RouteTable := changes.foldl change t

/-- Some history leads from the empty table to this one. -/
def Reachable (t : RouteTable) : Prop := ∃ changes, empty.replay changes = t

theorem mem_entries_change {t : RouteTable} {c : Change} {e : Entry} (h : e ∈ (t.change c).entries) :
    e ∈ t.entries ∨ c = .register e := by
  cases c with
  | register offered =>
    rw [change] at h
    cases hr : t.register offered with
    | ok u =>
      simp only [hr] at h
      rw [entries_of_register hr, List.mem_append, List.mem_singleton] at h
      exact h.imp_right fun heq => by rw [heq]
    | error err =>
      simp only [hr] at h
      exact .inl h
  | truncate n =>
    rw [change, entries_truncate] at h
    exact .inl (List.mem_of_mem_take h)

theorem mem_entries_replay {t : RouteTable} {changes : List Change} {e : Entry}
    (h : e ∈ (t.replay changes).entries) : e ∈ t.entries ∨ .register e ∈ changes := by
  induction changes generalizing t with
  | nil => exact .inl h
  | cons c rest ih =>
    rcases ih h with hmem | hrest
    · exact (mem_entries_change hmem).imp_right fun heq => by rw [heq]; exact List.mem_cons_self
    · exact .inr (List.mem_cons_of_mem c hrest)

/-! ## Reachable tables are well-formed -/

theorem WellFormed.change {t : RouteTable} (h : WellFormed t) (c : Change) :
    WellFormed (t.change c) := by
  cases c with
  | register e =>
    rw [RouteTable.change]
    cases hr : t.register e with
    | ok u => exact h.register hr
    | error err => exact h
  | truncate n => exact h.truncate n

theorem WellFormed.replay {t : RouteTable} (h : WellFormed t) (changes : List Change) :
    WellFormed (t.replay changes) := by
  induction changes generalizing t with
  | nil => exact h
  | cons c rest ih => exact ih (h.change c)

theorem Reachable.wellFormed {t : RouteTable} (h : Reachable t) : WellFormed t := by
  obtain ⟨changes, rfl⟩ := h
  exact WellFormed.empty.replay changes

/-! ## Cutting back is registering what is in front -/

/-- The entry at a position can be registered behind the entries in front of it. -/
theorem WellFormed.register_truncate {t : RouteTable} (h : WellFormed t) {n : Nat} {e : Entry}
    (he : t.entries[n]? = some e) : (t.truncate n).register e = .ok (t.truncate (n + 1)) := by
  obtain ⟨r, hr, rfl⟩ : ∃ r, t.routes[n]? = some r ∧ r.entry = e := by
    rwa [entries, List.getElem?_map, Option.map_eq_some_iff] at he
  have hlt : n < t.entries.length := (List.getElem?_eq_some_iff.1 he).1
  have htake : t.entries.take (n + 1) = t.entries.take n ++ [r.entry] := by
    rw [List.take_add_one, he, Option.toList_some]
  have hname : (t.truncate n).hasName r.entry.name = false := by
    rw [(h.truncate n).hasName_eq, entries_truncate, List.any_eq_false]
    have hpair := h.names_pairwise.sublist (List.take_sublist (n + 1) t.entries)
    rw [htake, List.pairwise_append] at hpair
    intro b hb
    exact Bool.eq_false_iff.1 (hpair.2.2 b hb _ (List.mem_singleton_self _))
  obtain ⟨u, hu⟩ : ∃ u, (t.truncate n).register r.entry = .ok u :=
    ⟨_, register_eq_ok_iff.2 ⟨hname, r, h.ready r (List.mem_of_getElem? hr), rfl⟩⟩
  rw [hu, ((h.truncate n).register hu).ext (h.truncate (n + 1)) ?_]
  rw [entries_of_register hu, entries_truncate, entries_truncate, htake]

theorem replay_concat (t : RouteTable) (changes : List Change) (c : Change) :
    t.replay (changes ++ [c]) = (t.replay changes).change c := by
  rw [replay, List.foldl_append, List.foldl_cons, List.foldl_nil, replay]

/-- A table that was cut back is as if only the entries that are left had been registered. -/
theorem WellFormed.truncate_eq_replay {t : RouteTable} (h : WellFormed t) (n : Nat) :
    t.truncate n = RouteTable.empty.replay ((t.entries.take n).map .register) := by
  induction n with
  | zero => exact (h.truncate 0).ext WellFormed.empty (entries_truncate t 0)
  | succ n ih =>
    cases he : t.entries[n]? with
    | some e =>
      rw [List.take_add_one, he, Option.toList_some, List.map_append, List.map_singleton, replay_concat,
        ← ih, RouteTable.change, h.register_truncate he]
    | none =>
      have hle : t.entries.length ≤ n := List.getElem?_eq_none_iff.1 he
      rw [List.take_of_length_le (by omega), ← List.take_of_length_le hle, ← ih]
      refine (h.truncate (n + 1)).ext (h.truncate n) ?_
      rw [entries_truncate, entries_truncate, List.take_of_length_le hle,
        List.take_of_length_le (by omega)]

/-- A well-formed table is that of its entries. -/
theorem WellFormed.replay_entries {t : RouteTable} (h : WellFormed t) :
    RouteTable.empty.replay (t.entries.map .register) = t := by
  have hall : t.entries.take t.size = t.entries := List.take_of_length_le (by simp)
  rw [← hall, ← h.truncate_eq_replay]
  refine (h.truncate t.size).ext h ?_
  rw [entries_truncate, hall]

theorem reachable_iff {t : RouteTable} : Reachable t ↔ WellFormed t :=
  ⟨Reachable.wellFormed, fun h => ⟨_, h.replay_entries⟩⟩

/-! ## Names and index -/

/-- The entries of a table, its index and what looking up a name gives belong together. -/
structure IndexFaithful (t : RouteTable) : Prop where
  /-- The index has one key for each route: its name in lower case, with its position. -/
  index_eq : t.index = t.routes.mapIdx fun i r => (foldCase r.entry.name, i)
  /-- No key is there twice. -/
  keys_nodup : (t.index.map Prod.fst).Nodup
  /-- No two entries have names that are the same up to case. -/
  names_pairwise : t.entries.Pairwise fun a b => sameText a.name b.name = false
  /-- A name finds the entry that has it in any case, -/
  find?_eq_some_iff : ∀ name e, t.find? name = some e ↔ e ∈ t.entries ∧ sameText e.name name = true
  /-- and nothing if no entry has it. -/
  find?_eq_none_iff : ∀ name, t.find? name = none ↔ ∀ e ∈ t.entries, sameText e.name name = false
  /-- Positions in the index are positions of routes. -/
  index_lt : ∀ key i, t.index.find? key = some i → i < t.routes.length
  /-- A name is there if it finds something. -/
  hasName_eq : ∀ name, t.hasName name = (t.find? name).isSome
  /-- A refused entry changes nothing. -/
  change_refused : ∀ e err, t.register e = .error err → t.change (.register e) = t
  /-- Cutting back leaves the routes and the index of the entries in front. -/
  truncate_eq : ∀ n, t.truncate n = empty.replay ((t.entries.take (min n t.size)).map .register)

/-- After any history, in which entries may be refused and the table cut back to any length, its
index is that of its routes. -/
theorem replay_indexFaithful (changes : List Change) : IndexFaithful (empty.replay changes) := by
  have h : WellFormed (empty.replay changes) := WellFormed.empty.replay changes
  generalize empty.replay changes = t at h
  constructor
  case index_eq => exact h.index_eq
  case keys_nodup => rw [h.index_eq, NameIndex.map_fst_ofRoutes]; exact h.distinct
  case names_pairwise => exact h.names_pairwise
  case find?_eq_some_iff => exact fun name e => h.find?_eq_some_iff
  case find?_eq_none_iff =>
    intro name
    rw [h.find?_eq, List.find?_eq_none]
    simp only [Bool.not_eq_true]
  case index_lt =>
    intro key i hi
    rw [h.index_eq, NameIndex.find?_ofRoutes, List.findIdx?_eq_some_iff_getElem] at hi
    exact hi.1
  case hasName_eq =>
    intro name
    rw [h.hasName_eq, h.find?_eq, List.isSome_find?]
  case change_refused =>
    intro e err herr
    rw [RouteTable.change, herr]
  case truncate_eq =>
    intro n
    rw [h.truncate_eq_replay, ← length_entries, ← List.take_eq_take_min]

end Routebook.RouteTable
