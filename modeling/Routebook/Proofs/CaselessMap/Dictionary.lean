import Mathlib.Data.List.Induction
import Routebook.Proofs.CaselessMap

/-!
# A dictionary in the order of its first writes

A map is written in two ways: a value is replaced, or it is added only where its key is new. After any
writes the map is the dictionary that they describe: the keys in the order in which they first came and as
they were spelled then, each with the value of the last write under it that took effect.

* `Write`, `written` : a write, and the map after several from the empty one;
* `Write.TakesEffect`, `LastEffect` : a write behind others that changes the map, and the last of these under
  a key;
* `get?_write`, `keys_write` : what one write does; `get?_written`, `keys_written` : what all of them do;
* `Recalls` : every answer of a map is that of the writes, which holds for all of them
  (`written_recalls`).
-/

namespace Routebook.CaselessMap

open Text (sameText)

variable {α : Type}

/-- A write to a map. -/
inductive Write (α : Type) where
  /-- whatever was under the key before -/
  | replace (key : String) (value : α)
  /-- only if the key is new -/
  | add (key : String) (value : α)

namespace Write

def key : Write α → String
  | replace key _ | add key _ => key

def value : Write α → α
  | replace _ value | add _ value => value

/-- A value that is there makes no difference. -/
def replaces : Write α → Bool
  | replace _ _ => true
  | add _ _ => false

/-- The write changes a map to which others have been made. -/
def TakesEffect (before : List (Write α)) (w : Write α) : Prop :=
  w.replaces = true ∨ ∀ b ∈ before, sameText b.key w.key = false

end Write

def write (m : CaselessMap α) : Write α → CaselessMap α
  | .replace key value => m.insert key value
  | .add key value => (m.insertIfNew? key value).getD m

def written (ws : List (Write α)) : CaselessMap α := ws.foldl write empty

/-- The value was written under the key, and no write under this key has taken effect since. -/
def LastEffect (ws : List (Write α)) (key : String) (value : α) : Prop :=
  ∃ before w after, ws = before ++ w :: after ∧ w.TakesEffect before ∧ sameText w.key key = true ∧
    w.value = value ∧ ∀ mid x rest, after = mid ++ x :: rest → sameText x.key key = true →
      ¬ x.TakesEffect (before ++ w :: mid)

/-! ## One write -/

theorem insertIfNew?_eq (m : CaselessMap α) (key : String) (value : α) :
    m.insertIfNew? key value = if m.contains key = true then none else some (m.insert key value) := by
  unfold insertIfNew? insert
  split
  · rename_i hnew
    rw [if_neg (Bool.eq_false_iff.1 hnew)]
  · rename_i hold
    rw [if_pos (Bool.not_eq_false _ ▸ hold)]

theorem write_add (m : CaselessMap α) (key : String) (value : α) :
    m.write (.add key value) = if m.contains key = true then m else m.insert key value := by
  rw [write, insertIfNew?_eq]
  split <;> rfl

theorem get?_write (m : CaselessMap α) (w : Write α) (key : String) : (m.write w).get? key =
    if sameText w.key key = true ∧ (w.replaces = true ∨ m.contains w.key = false) then some w.value
    else m.get? key := by
  cases w with
  | replace k value => simp [write, get?_insert, Write.key, Write.replaces, Write.value]
  | add k value =>
    rw [write_add]
    cases h : m.contains k <;> simp [get?_insert, Write.key, Write.replaces, Write.value, h]

theorem keys_write (m : CaselessMap α) (w : Write α) :
    (m.write w).keys = if m.contains w.key = true then m.keys else m.keys ++ [w.key] := by
  cases w with
  | replace k value => exact keys_insert m k value
  | add k value =>
    rw [write_add, Write.key]
    split
    · rfl
    · rename_i hnew
      rw [keys_insert, if_neg hnew]

theorem contains_write (m : CaselessMap α) (w : Write α) (key : String) :
    (m.write w).contains key = (sameText w.key key || m.contains key) := by
  cases w with
  | replace k value => exact contains_insert m k key value
  | add k value =>
    rw [write_add, Write.key]
    split
    · rename_i hold
      cases hsame : sameText k key with
      | true => rw [← contains_congr m hsame, hold, Bool.true_or]
      | false => rw [Bool.false_or]
    · exact contains_insert m k key value

/-! ## Several writes -/

theorem written_concat (ws : List (Write α)) (w : Write α) :
    written (ws ++ [w]) = (written ws).write w := by
  rw [written, List.foldl_append]
  rfl

theorem contains_written {ws : List (Write α)} {key : String} :
    (written ws).contains key = true ↔ ∃ w ∈ ws, sameText w.key key = true := by
  induction ws using List.reverseRecOn with
  | nil => simp [written, contains, empty]
  | append_singleton ws w ih =>
    rw [written_concat, contains_write, Bool.or_eq_true, ih]
    simp [or_and_right, exists_or, or_comm]

theorem contains_written_eq_false_iff {ws : List (Write α)} {key : String} :
    (written ws).contains key = false ↔ ∀ w ∈ ws, sameText w.key key = false := by
  rw [← Bool.not_eq_true, contains_written]
  simp

theorem takesEffect_iff {ws : List (Write α)} {w : Write α} :
    w.TakesEffect ws ↔ w.replaces = true ∨ (written ws).contains w.key = false := by
  rw [Write.TakesEffect, contains_written_eq_false_iff]

theorem lastEffect_concat_of_effect {ws : List (Write α)} {w : Write α} {key : String} {value : α}
    (hkey : sameText w.key key = true) (heffect : w.TakesEffect ws) :
    LastEffect (ws ++ [w]) key value ↔ w.value = value := by
  constructor
  · rintro ⟨before, x, after, hsplit, hx, hxkey, hvalue, hsince⟩
    rcases List.eq_nil_or_concat after with rfl | ⟨mid, y, rfl⟩
    · obtain ⟨rfl, hw⟩ := List.append_inj' hsplit rfl
      cases hw
      exact hvalue
    · rw [List.concat_eq_append] at hsplit hsince
      rw [← List.cons_append, ← List.append_assoc] at hsplit
      obtain ⟨rfl, hw⟩ := List.append_inj' hsplit rfl
      cases hw
      exact absurd heffect (hsince mid w [] rfl hkey)
  · intro hvalue
    exact ⟨ws, w, [], rfl, heffect, hkey, hvalue, fun mid x rest hnil => absurd hnil (by simp)⟩

theorem lastEffect_concat_of_not {ws : List (Write α)} {w : Write α} {key : String} {value : α}
    (h : ¬ (sameText w.key key = true ∧ w.TakesEffect ws)) :
    LastEffect (ws ++ [w]) key value ↔ LastEffect ws key value := by
  constructor
  · rintro ⟨before, x, after, hsplit, hx, hxkey, hvalue, hsince⟩
    rcases List.eq_nil_or_concat after with rfl | ⟨mid, y, rfl⟩
    · obtain ⟨rfl, hw⟩ := List.append_inj' hsplit rfl
      cases hw
      exact absurd ⟨hxkey, hx⟩ h
    · rw [List.concat_eq_append] at hsplit hsince
      rw [← List.cons_append, ← List.append_assoc] at hsplit
      obtain ⟨rfl, hw⟩ := List.append_inj' hsplit rfl
      cases hw
      refine ⟨before, x, mid, rfl, hx, hxkey, hvalue, fun mid' y rest hmid => ?_⟩
      exact hsince mid' y (rest ++ [w]) (by rw [hmid, List.append_assoc, List.cons_append])
  · rintro ⟨before, x, after, rfl, hx, hxkey, hvalue, hsince⟩
    refine ⟨before, x, after ++ [w], by simp, hx, hxkey, hvalue, fun mid y rest hsplit hykey => ?_⟩
    rcases List.eq_nil_or_concat rest with rfl | ⟨rest, z, rfl⟩
    · obtain ⟨rfl, hwy⟩ := List.append_inj' hsplit rfl
      cases hwy
      exact fun heffect => h ⟨hykey, heffect⟩
    · rw [List.concat_eq_append, ← List.cons_append, ← List.append_assoc] at hsplit
      obtain ⟨rfl, -⟩ := List.append_inj' hsplit rfl
      exact hsince mid y rest rfl hykey

/-- Under a key is the value of the last write that took effect. -/
theorem get?_written {ws : List (Write α)} {key : String} {value : α} :
    (written ws).get? key = some value ↔ LastEffect ws key value := by
  induction ws using List.reverseRecOn with
  | nil =>
    refine iff_of_false nofun ?_
    rintro ⟨before, w, after, hsplit, -⟩
    exact absurd hsplit.symm (by simp)
  | append_singleton ws w ih =>
    rw [written_concat, get?_write]
    split
    · rename_i h
      rw [← takesEffect_iff] at h
      rw [Option.some.injEq, lastEffect_concat_of_effect h.1 h.2]
    · rename_i h
      rw [← takesEffect_iff] at h
      rw [ih, lastEffect_concat_of_not h]

/-- A text behind others is dropped if one of them is the same. -/
theorem eraseDupsBy_concat : ∀ (ks : List String) (k : String), (ks ++ [k]).eraseDupsBy sameText =
    if ∃ k' ∈ ks, sameText k' k = true then ks.eraseDupsBy sameText else ks.eraseDupsBy sameText ++ [k]
  | [], k => by simp [List.eraseDupsBy_cons]
  | a :: rest, k => by
    rw [List.cons_append, List.eraseDupsBy_cons, List.eraseDupsBy_cons, List.filter_append]
    cases hsame : sameText a k with
    | true => simp [Text.sameText_comm k a, hsame]
    | false =>
      -- What is the same as the new text differs from the first one, so it is still there.
      have hmem : (∃ k' ∈ rest.filter fun b => sameText b a = false, sameText k' k = true) ↔
          ∃ k' ∈ a :: rest, sameText k' k = true := by
        constructor
        · rintro ⟨k', hk', hkk'⟩
          exact ⟨k', List.mem_cons_of_mem a (List.mem_filter.1 hk' |>.1), hkk'⟩
        · rintro ⟨k', hk', hkk'⟩
          rcases List.mem_cons.1 hk' with rfl | hk'
          · rw [hsame] at hkk'
            cases hkk'
          · refine ⟨k', List.mem_filter.2 ⟨hk', decide_eq_true ?_⟩, hkk'⟩
            rw [Text.sameText_congr hkk', Text.sameText_comm, hsame]
      have hkept : [k].filter (fun b => sameText b a = false) = [k] := by
        simp [Text.sameText_comm k a, hsame]
      rw [hkept, eraseDupsBy_concat (rest.filter fun b => sameText b a = false) k]
      simp only [hmem]
      split <;> rfl
termination_by ks => ks.length
decreasing_by
  have := List.length_filter_le (fun b => sameText b a = false) rest
  simp only [List.length_cons]
  omega

/-- The keys are those that were written, each where and as it first came. -/
theorem keys_written (ws : List (Write α)) :
    (written ws).keys = (ws.map Write.key).eraseDupsBy sameText := by
  induction ws using List.reverseRecOn with
  | nil => rfl
  | append_singleton ws w ih =>
    rw [written_concat, keys_write, ih, List.map_append, List.map_singleton, eraseDupsBy_concat]
    simp only [contains_written, List.mem_map, exists_exists_and_eq_and]

theorem ofList_eq_written (pairs : List (String × α)) :
    ofList pairs = written (pairs.map fun e => .replace e.1 e.2) := by
  rw [written, List.foldl_map]
  rfl

/-! ## The dictionary -/

/-- A map gives every answer as writes to the empty map describe it. -/
structure Recalls (ws : List (Write α)) (m : CaselessMap α) : Prop where
  /-- No two keys are the same. -/
  distinct : m.keys.Pairwise fun a b => sameText a b = false
  /-- The keys come in the order in which they were first written, in the spelling of that write. -/
  keys_eq : m.keys = (ws.map Write.key).eraseDupsBy sameText
  /-- Under a key is the value of the last write that took effect. -/
  get?_eq_some_iff : ∀ key value, m.get? key = some value ↔ LastEffect ws key value
  /-- Under a key that was never written is nothing. -/
  get?_eq_none_iff : ∀ key, m.get? key = none ↔ ∀ w ∈ ws, sameText w.key key = false
  contains_eq : ∀ key, m.contains key = (m.get? key).isSome
  size_eq : m.size = m.keys.length
  /-- The entries are the keys with what is found under them. -/
  entries_eq : (m.entries.map fun e => (e.1, some e.2)) = m.keys.map fun k => (k, m.get? k)
  /-- Only a new key can be added. -/
  insertIfNew?_eq_none_iff : ∀ key value,
    m.insertIfNew? key value = none ↔ ∃ w ∈ ws, sameText w.key key = true
  /-- A new key and its value come last. -/
  entries_insertIfNew? : ∀ key value n,
    m.insertIfNew? key value = some n → n.entries = m.entries ++ [(key, value)]

/-- After any writes, of which some replace what is there and some only add new keys, the empty map is the
dictionary that they describe. So is a map that is made from pairs, each of which replaces what is there.
Adding a key that is there leaves the map as it is. -/
theorem written_recalls (ws : List (Write α)) : Recalls ws (written ws) ∧
    (∀ pairs : List (String × α), ofList pairs = written (pairs.map fun e => .replace e.1 e.2)) ∧
    ∀ key value, (∃ w ∈ ws, sameText w.key key = true) → written (ws ++ [.add key value]) = written ws := by
  refine ⟨?_, ofList_eq_written, fun key value hold => ?_⟩
  · constructor
    case distinct => exact (written ws).distinct
    case keys_eq => exact keys_written ws
    case get?_eq_some_iff => exact fun key value => get?_written
    case get?_eq_none_iff =>
      intro key
      rw [← contains_written_eq_false_iff, contains_eq_isSome, Option.isSome_eq_false_iff,
        Option.isNone_iff_eq_none]
    case contains_eq => exact contains_eq_isSome _
    case size_eq => rw [size, keys, List.length_map]
    case entries_eq =>
      rw [keys, List.map_map]
      exact List.map_congr_left fun e he => by rw [Function.comp, get?_of_mem he]
    case insertIfNew?_eq_none_iff =>
      intro key value
      rw [← contains_written, insertIfNew?_eq]
      cases (written ws).contains key <;> simp
    case entries_insertIfNew? => exact fun key value n h => entries_of_insertIfNew? h
  · rw [written_concat, write_add, if_pos (contains_written.2 hold)]

/-- Two keys in several spellings; the second write under each of them replaces and adds. -/
example : (written [.add "a" 1, .replace "B" 2, .replace "A" 3, .add "b" 4]).entries = [("a", 3), ("B", 2)] := by
  decide

end Routebook.CaselessMap
