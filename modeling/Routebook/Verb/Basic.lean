import Routebook.Text.Ascii
import Routebook.Text.Blank

/-!
# Verbs

The seven request verbs in their canonical order, and sets of them.

* `Verb.all` : the order in which sets list their members;
* `Verb.parse?` : the verb of a name, without regard to case and surrounding white space;
* `VerbSet` : a set of verbs as a byte of flags, which is told by its members (`VerbSet.ext`);
* `VerbSet.toList` : the members in canonical order.
-/

namespace Routebook

/-- A request verb. -/
inductive Verb where
  | get
  | post
  | put
  | delete
  | head
  | patch
  | options
deriving DecidableEq, Repr

namespace Verb

/-- Every verb, in canonical order. -/
def all : List Verb := [get, post, put, delete, head, patch, options]

/-- The method name of a request with this verb. -/
def name : Verb → String
  | get => "GET"
  | post => "POST"
  | put => "PUT"
  | delete => "DELETE"
  | head => "HEAD"
  | patch => "PATCH"
  | options => "OPTIONS"

def label : Verb → String
  | get => "Get"
  | post => "Post"
  | put => "Put"
  | delete => "Delete"
  | head => "Head"
  | patch => "Patch"
  | options => "Options"

def place : Verb → Nat
  | get => 0
  | post => 1
  | put => 2
  | delete => 3
  | head => 4
  | patch => 5
  | options => 6

def flag (v : Verb) : BitVec 8 := BitVec.twoPow 8 v.place

/-- The verb that a token names, ignoring case and white space at its ends. -/
def parse? (token : String) : Option Verb :=
  all.find? fun v => Text.sameText v.name (Text.trim token)

@[simp] theorem mem_all (v : Verb) : v ∈ all := by
  cases v <;> decide

theorem exists_place {i : Nat} (h : i < 7) : ∃ v : Verb, v.place = i := by
  have hall : ∀ i < 7, ∃ v ∈ all, v.place = i := by decide
  obtain ⟨v, -, hv⟩ := hall i h
  exact ⟨v, hv⟩

theorem flag_unused (v : Verb) : v.flag.getLsbD 7 = false := by
  cases v <;> rfl

theorem flag_ne_zero (v : Verb) : (v.flag != 0) = true := by
  cases v <;> rfl

theorem eq_of_sameText_name {v w : Verb} (h : Text.sameText v.name w.name = true) : v = w := by
  have hall : ∀ v ∈ all, ∀ w ∈ all, Text.sameText v.name w.name = true → v = w := by decide +kernel
  exact hall v (mem_all v) w (mem_all w) h

theorem parse?_eq_some_iff {token : String} {v : Verb} :
    parse? token = some v ↔ Text.sameText v.name (Text.trim token) = true := by
  unfold parse?
  generalize Text.trim token = text
  constructor
  · intro h
    have hv := List.find?_some h
    exact hv
  · intro h
    cases hp : all.find? fun v => Text.sameText v.name text with
    | none => exact absurd h (List.find?_eq_none.1 hp v (mem_all v))
    | some w =>
      have hw := List.find?_some hp
      rw [Text.sameText_iff] at h hw
      rw [eq_of_sameText_name (Text.sameText_iff.2 (hw.trans h.symm))]

/-- Without white space at its ends, the token is the name of the verb in any case. -/
def NamedBy (v : Verb) (token : String) : Prop := Text.sameText v.name (Text.trim token) = true

theorem parse?_eq_some_iff_namedBy {token : String} {v : Verb} : parse? token = some v ↔ v.NamedBy token :=
  parse?_eq_some_iff

theorem parse?_name (v : Verb) : parse? v.name = some v := by
  have hall : ∀ v ∈ all, parse? v.name = some v := by decide +kernel
  exact hall v (mem_all v)

end Verb

/-- A set of verbs: a byte with a flag for each verb, at its place in the canonical order. -/
structure VerbSet where
  flags : BitVec 8
  /-- No verb has the last flag. -/
  unused : flags.getLsbD 7 = false
deriving DecidableEq

namespace VerbSet

def empty : VerbSet := ⟨0, rfl⟩

instance : EmptyCollection VerbSet := ⟨empty⟩

def single (v : Verb) : VerbSet := ⟨v.flag, v.flag_unused⟩

def union (s t : VerbSet) : VerbSet where
  flags := s.flags ||| t.flags
  unused := by rw [BitVec.getLsbD_or, s.unused, t.unused, Bool.or_false]

/-- The set with one more member. -/
def insert (s : VerbSet) (v : Verb) : VerbSet where
  flags := s.flags ||| v.flag
  unused := by rw [BitVec.getLsbD_or, s.unused, v.flag_unused, Bool.or_false]

/-- The verb's flag is set. -/
def contains (s : VerbSet) (v : Verb) : Bool := s.flags &&& v.flag != 0

/-- No flag is set. -/
def isEmpty (s : VerbSet) : Bool := s.flags == 0

def size (s : VerbSet) : Nat := (List.range 8).countP s.flags.getLsbD

def ofList (vs : List Verb) : VerbSet := vs.foldl (fun s v => s.union (single v)) empty

/-- The members in canonical order. -/
def toList (s : VerbSet) : List Verb := Verb.all.filter s.contains

theorem contains_eq_getLsbD (s : VerbSet) (v : Verb) : s.contains v = s.flags.getLsbD v.place := by
  rw [contains, Verb.flag, BitVec.and_twoPow]
  cases h : s.flags.getLsbD v.place with
  | false => rfl
  | true => exact v.flag_ne_zero

@[simp] theorem contains_empty (v : Verb) : empty.contains v = false := by
  rw [contains_eq_getLsbD]
  exact BitVec.getLsbD_zero

@[simp] theorem contains_union (s t : VerbSet) (v : Verb) :
    (s.union t).contains v = (s.contains v || t.contains v) := by
  rw [contains_eq_getLsbD, contains_eq_getLsbD, contains_eq_getLsbD, union, BitVec.getLsbD_or]

@[simp] theorem contains_single (v w : Verb) : (single v).contains w = (w == v) := by
  cases v <;> cases w <;> rfl

theorem insert_eq_union (s : VerbSet) (v : Verb) : s.insert v = s.union (single v) := rfl

@[simp] theorem contains_insert (s : VerbSet) (v w : Verb) :
    (s.insert v).contains w = (s.contains w || w == v) := by
  rw [insert_eq_union, contains_union, contains_single]

@[ext] theorem ext {s t : VerbSet} (h : ∀ v, s.contains v = t.contains v) : s = t := by
  have hflags : s.flags = t.flags := by
    apply BitVec.eq_of_getLsbD_eq
    intro i hi
    rcases Nat.lt_or_eq_of_le (Nat.le_of_lt_succ hi) with hlt | rfl
    · obtain ⟨v, rfl⟩ := Verb.exists_place hlt
      rw [← contains_eq_getLsbD, ← contains_eq_getLsbD, h]
    · rw [s.unused, t.unused]
  cases s
  cases t
  cases hflags
  rfl

theorem mem_toList {s : VerbSet} {v : Verb} : v ∈ s.toList ↔ s.contains v = true := by
  simp [toList]

theorem toList_injective {s t : VerbSet} (h : s.toList = t.toList) : s = t := by
  ext v
  rw [Bool.eq_iff_iff, ← mem_toList, ← mem_toList, h]

theorem isEmpty_iff {s : VerbSet} : s.isEmpty = true ↔ ∀ v, s.contains v = false := by
  rw [isEmpty, beq_iff_eq]
  constructor
  · intro h v
    rw [contains_eq_getLsbD, h]
    exact BitVec.getLsbD_zero
  · intro h
    have hempty : s = empty := ext fun v => (h v).trans (contains_empty v).symm
    rw [hempty]
    rfl

theorem contains_foldl_insert {vs : List Verb} {s : VerbSet} {v : Verb} :
    (vs.foldl insert s).contains v = true ↔ s.contains v = true ∨ v ∈ vs := by
  induction vs generalizing s with
  | nil => simp
  | cons w rest ih =>
    rw [List.foldl_cons, ih, List.mem_cons]
    simp [or_assoc]

theorem contains_ofList {vs : List Verb} {v : Verb} : (ofList vs).contains v = true ↔ v ∈ vs := by
  show (vs.foldl insert empty).contains v = true ↔ v ∈ vs
  rw [contains_foldl_insert]
  simp

theorem isEmpty_ofList (vs : List Verb) : (ofList vs).isEmpty = vs.isEmpty := by
  rw [Bool.eq_iff_iff, isEmpty_iff, List.isEmpty_iff, List.eq_nil_iff_forall_not_mem]
  simp only [← Bool.not_eq_true, contains_ofList]

/-- The order in which verbs are put into a set does not matter. -/
theorem ofList_perm {vs ws : List Verb} (h : vs.Perm ws) : ofList vs = ofList ws := by
  ext v
  rw [Bool.eq_iff_iff, contains_ofList, contains_ofList, h.mem_iff]

def names (s : VerbSet) : List String := s.toList.map Verb.name

def label (s : VerbSet) : String := String.intercalate ", " (s.toList.map Verb.label)

/-- Some member has this method name. Method names are case-sensitive. -/
def allows (s : VerbSet) (method : String) : Bool := s.names.contains method

theorem allows_iff {s : VerbSet} {method : String} :
    s.allows method = true ↔ ∃ v, s.contains v = true ∧ v.name = method := by
  rw [allows, List.contains_iff_mem, names, List.mem_map]
  simp only [mem_toList]

end VerbSet

end Routebook
