/-!
# Pieces of a text

What holds of the pieces between the occurrences of a separator, besides the general facts about
`List.splitOn` and `List.intercalate`, and what stands before a given ending.

* `splitOn_intercalate` : splitting a text that was joined splits what was joined;
* `intercalate_eq_append` : a joined text is cut in front of each of its pieces;
* `stripSuffix?` : a text without a given ending.
-/

namespace Routebook.Text

/-- The pieces from a position on are joined to what is behind the separator in front of it. -/
theorem intercalate_eq_append {sep : Char} : ∀ {pieces : List (List Char)} {i : Nat}, i < pieces.length →
    [sep].intercalate pieces = (pieces.take i).flatMap (· ++ [sep]) ++ [sep].intercalate (pieces.drop i)
  | _, 0, _ => rfl
  | [_], _ + 1, h => absurd (Nat.lt_of_succ_lt_succ h) (Nat.not_lt_zero _)
  | piece :: next :: pieces, i + 1, h => by
    have hi : i < (next :: pieces).length := Nat.lt_of_succ_lt_succ h
    rw [List.intercalate_cons_cons, intercalate_eq_append hi]
    simp

theorem not_mem_of_mem_splitOn {sep : Char} {s piece : List Char} (h : piece ∈ s.splitOn sep) :
    sep ∉ piece := by
  induction s generalizing piece with
  | nil =>
    rw [List.splitOn_nil] at h
    rw [List.mem_singleton.1 h]
    exact List.not_mem_nil
  | cons c rest ih =>
    rw [List.splitOn_cons_eq_if_modifyHead] at h
    split at h
    · rcases List.mem_cons.1 h with rfl | h
      · exact List.not_mem_nil
      · exact ih h
    · rename_i hc
      cases hrest : rest.splitOn sep with
      | nil => exact absurd hrest (List.splitOn_ne_nil sep rest)
      | cons first pieces =>
        rw [hrest] at h ih
        rcases List.mem_cons.1 h with rfl | h
        · intro hmem
          rcases List.mem_cons.1 hmem with rfl | hmem
          · exact hc (beq_self_eq_true _)
          · exact ih List.mem_cons_self hmem
        · exact ih (List.mem_cons_of_mem first h)

theorem splitOn_intercalate {sep : Char} : ∀ {pieces : List (List Char)}, pieces ≠ [] →
    ([sep].intercalate pieces).splitOn sep = pieces.flatMap (List.splitOn sep)
  | [], h => absurd rfl h
  | [piece], _ => by rw [List.intercalate_singleton, List.flatMap_singleton]
  | piece :: next :: pieces, _ => by
    rw [List.intercalate_cons_cons, List.append_assoc, List.singleton_append, List.splitOn_append_cons_self,
      splitOn_intercalate (List.cons_ne_nil next pieces)]
    exact List.flatMap_cons.symm

theorem head?_intercalate_cons {sep : Char} {piece : List Char} (h : piece ≠ [])
    (pieces : List (List Char)) : ([sep].intercalate (piece :: pieces)).head? = piece.head? := by
  obtain ⟨c, rest, rfl⟩ := List.exists_cons_of_ne_nil h
  rw [List.intercalate_cons_cons_left]
  rfl

theorem getLast?_intercalate_cons_cons {sep : Char} {piece next : List Char} (h : next ≠ [])
    (pieces : List (List Char)) : ([sep].intercalate (piece :: next :: pieces)).getLast? =
      ([sep].intercalate (next :: pieces)).getLast? := by
  have hne : [sep].intercalate (next :: pieces) ≠ [] := by
    intro hnil
    have hhead := @head?_intercalate_cons sep next h pieces
    rw [hnil] at hhead
    exact h (List.head?_eq_none_iff.1 hhead.symm)
  rw [List.intercalate_cons_cons, List.getLast?_append]
  cases hlast : ([sep].intercalate (next :: pieces)).getLast? with
  | none => exact absurd (List.getLast?_eq_none_iff.1 hlast) hne
  | some c => rfl

/-- What stands before the ending `suffix`, if the text ends so. -/
def stripSuffix? (suffix s : List Char) : Option (List Char) :=
  if suffix.isSuffixOf s then some (s.take (s.length - suffix.length)) else none

end Routebook.Text
