import Routebook.Text.Ascii

/-!
# Maps without regard to case

Maps that keep the order in which their keys first came. Keys compare without regard to ASCII case;
the spelling that came first stays.

* `CaselessMap.get?`, `CaselessMap.contains` : look a key up;
* `CaselessMap.insert` : writes a key, which keeps its place and spelling if it is there;
* `CaselessMap.insertIfNew?` : adds a new key only.
-/

namespace Routebook

open Text (sameText)

/-- An ordered map whose keys compare without regard to ASCII case. -/
structure CaselessMap (α : Type) where
  entries : List (String × α)
  /-- No two keys are the same. -/
  distinct : (entries.map Prod.fst).Pairwise fun a b => sameText a b = false

namespace CaselessMap

variable {α : Type}

def empty : CaselessMap α := ⟨[], .nil⟩

/-- The keys in order, as spelled when they came. -/
def keys (m : CaselessMap α) : List String := m.entries.map Prod.fst

def size (m : CaselessMap α) : Nat := m.entries.length

def isEmpty (m : CaselessMap α) : Bool := m.entries.isEmpty

def get? (m : CaselessMap α) (key : String) : Option α :=
  (m.entries.find? fun e => sameText e.1 key).map Prod.snd

def contains (m : CaselessMap α) (key : String) : Bool :=
  m.entries.any fun e => sameText e.1 key

def append (m : CaselessMap α) (key : String) (value : α) (h : m.contains key = false) :
    CaselessMap α where
  entries := m.entries ++ [(key, value)]
  distinct := by
    rw [List.map_append, List.pairwise_append]
    refine ⟨m.distinct, List.pairwise_singleton .., fun a ha b hb => ?_⟩
    obtain ⟨e, he, rfl⟩ := List.mem_map.1 ha
    rw [List.mem_singleton.1 hb]
    exact Bool.eq_false_iff.2 (List.any_eq_false.1 h e he)

/-- The entries with the value of a key overwritten. -/
def overwrite (key : String) (value : α) : List (String × α) → List (String × α)
  | [] => []
  | (k, v) :: rest =>
    if sameText k key then (k, value) :: rest else (k, v) :: overwrite key value rest

@[simp] theorem map_fst_overwrite (key : String) (value : α) (l : List (String × α)) :
    (overwrite key value l).map Prod.fst = l.map Prod.fst := by
  induction l with
  | nil => rfl
  | cons e rest ih =>
    rw [overwrite]
    split
    · rfl
    · rw [List.map_cons, ih, List.map_cons]

/-- Writes a value: a key that is there keeps its place and spelling, a new one goes to the end. -/
def insert (m : CaselessMap α) (key : String) (value : α) : CaselessMap α :=
  if h : m.contains key = false then m.append key value h
  else ⟨overwrite key value m.entries, map_fst_overwrite key value m.entries ▸ m.distinct⟩

/-- Adds a new key at the end; a key that is there is left as it is, and there is no result. -/
def insertIfNew? (m : CaselessMap α) (key : String) (value : α) : Option (CaselessMap α) :=
  if h : m.contains key = false then some (m.append key value h) else none

theorem entries_of_insertIfNew? {m n : CaselessMap α} {key : String} {value : α}
    (h : m.insertIfNew? key value = some n) : n.entries = m.entries ++ [(key, value)] := by
  unfold insertIfNew? at h
  split at h
  · cases h
    rfl
  · cases h

theorem eq_of_mem {m : CaselessMap α} {key key' : String} {value value' : α}
    (h : (key, value) ∈ m.entries) (h' : (key', value') ∈ m.entries)
    (hsame : sameText key key' = true) : key = key' ∧ value = value' := by
  obtain ⟨i, hi, hei⟩ := List.getElem_of_mem h
  obtain ⟨j, hj, hej⟩ := List.getElem_of_mem h'
  have hpair := List.pairwise_iff_getElem.1 (List.pairwise_map.1 m.distinct)
  rcases Nat.lt_trichotomy i j with hlt | rfl | hlt
  · have hne := hpair i j hi hj hlt
    rw [hei, hej, hsame] at hne
    cases hne
  · exact Prod.mk.inj (hei.symm.trans hej)
  · have hne := hpair j i hj hi hlt
    rw [hei, hej, Text.sameText_comm, hsame] at hne
    cases hne

/-- Writes the pairs of a list one after the other. -/
def insertMany (m : CaselessMap α) (pairs : List (String × α)) : CaselessMap α :=
  pairs.foldl (fun m e => m.insert e.1 e.2) m

/-- The map of a list of pairs, written one after the other. -/
def ofList (pairs : List (String × α)) : CaselessMap α := empty.insertMany pairs

/-- The same keys, in the same order and spelling, with values that pass a test. -/
def same (test : α → α → Bool) (m n : CaselessMap α) : Bool :=
  m.size == n.size &&
    (m.entries.zip n.entries).all fun (a, b) => a.1 == b.1 && test a.2 b.2

end CaselessMap

end Routebook
