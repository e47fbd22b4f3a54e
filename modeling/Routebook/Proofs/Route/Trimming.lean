import Mathlib.Data.List.DropRight
import Routebook.Route.Pattern

/-!
# Trimming paths

A path is trimmed in two moves: one tilde in front is dropped, then the slashes at both ends.

* `stripSlashes` : the second move by itself;
* `trimPathList_of_head?`, `trimPathList_tilde_cons` : the two moves, without a tilde in front and with
  one;
* `trimPathList_slash_cons`, `trimPathList_concat_slash` : what a slash more at either end changes;
* `trimPathList_slash_tilde_ne` : a tilde is kept behind a slash, so the two are not the same there;
* `trimPath_append_slash`, `trimPath_slash_append_iff` : the same of texts.
-/

namespace Routebook

/-! ## Slashes at the ends -/

/-- A text without the slashes at its ends. -/
def stripSlashes (path : List Char) : List Char := (path.dropWhile (· == '/')).rdropWhile (· == '/')

@[simp] theorem stripSlashes_concat_slash (path : List Char) :
    stripSlashes (path ++ ['/']) = stripSlashes path := by
  unfold stripSlashes
  rw [List.dropWhile_append]
  cases hfront : path.dropWhile (· == '/') with
  | nil => rfl
  | cons c rest =>
    rw [List.isEmpty_cons, if_neg Bool.false_ne_true]
    exact List.rdropWhile_concat_pos _ _ _ rfl

theorem getLast?_stripSlashes (path : List Char) : (stripSlashes path).getLast? ≠ some '/' := by
  intro hlast
  have hne : stripSlashes path ≠ [] := by
    intro hnil
    rw [hnil] at hlast
    cases hlast
  rw [List.getLast?_eq_some_getLast hne, Option.some.injEq] at hlast
  exact List.rdropWhile_last_not (· == '/') _ hne (beq_iff_eq.2 hlast)

theorem stripSlashes_eq_self {path : List Char} (hhead : path.head? ≠ some '/')
    (hlast : path.getLast? ≠ some '/') : stripSlashes path = path := by
  have hfront : path.dropWhile (· == '/') = path := by
    cases path with
    | nil => rfl
    | cons c rest =>
      rw [List.dropWhile_cons_of_neg]
      intro hc
      exact hhead (by rw [beq_iff_eq.1 hc]; rfl)
  rw [stripSlashes, hfront, List.rdropWhile_eq_self_iff]
  intro hne hslash
  exact hlast (by rw [List.getLast?_eq_some_getLast hne, beq_iff_eq.1 hslash])

/-- Nothing but slashes is lost. -/
theorem count_stripSlashes {c : Char} (hc : c ≠ '/') (path : List Char) :
    (stripSlashes path).count c = path.count c := by
  have hnone : ∀ l : List Char, (l.takeWhile (· == '/')).count c = 0 := by
    intro l
    rw [List.count_eq_zero]
    intro hmem
    have hslash := List.mem_takeWhile_imp hmem
    exact hc (beq_iff_eq.1 hslash)
  have hdrop : ∀ l : List Char, (l.dropWhile (· == '/')).count c = l.count c := by
    intro l
    have hsplit := congrArg (List.count c) (List.takeWhile_append_dropWhile (p := (· == '/')) (l := l))
    rw [List.count_append, hnone, Nat.zero_add] at hsplit
    exact hsplit
  rw [stripSlashes, List.rdropWhile, List.count_reverse, hdrop, List.count_reverse, hdrop]

/-! ## A tilde in front -/

@[simp] theorem trimPathList_tilde_cons (path : List Char) :
    trimPathList ('~' :: path) = stripSlashes path := rfl

theorem trimPathList_of_head? {path : List Char} (h : path.head? ≠ some '~') :
    trimPathList path = stripSlashes path := by
  unfold trimPathList
  split
  · exact absurd rfl h
  · rfl

theorem exists_trimPathList_eq (path : List Char) : ∃ rest, trimPathList path = stripSlashes rest := by
  by_cases h : path.head? = some '~'
  · obtain ⟨rest, rfl⟩ := List.head?_eq_some_iff.1 h
    exact ⟨rest, rfl⟩
  · exact ⟨path, trimPathList_of_head? h⟩

theorem getLast?_trimPathList (path : List Char) : (trimPathList path).getLast? ≠ some '/' := by
  obtain ⟨rest, hrest⟩ := exists_trimPathList_eq path
  rw [hrest]
  exact getLast?_stripSlashes rest

/-! ## A slash more -/

@[simp] theorem trimPathList_slash_cons (path : List Char) :
    trimPathList ('/' :: path) = stripSlashes path := rfl

@[simp] theorem trimPathList_concat_slash (path : List Char) :
    trimPathList (path ++ ['/']) = trimPathList path := by
  by_cases h : path.head? = some '~'
  · obtain ⟨rest, rfl⟩ := List.head?_eq_some_iff.1 h
    exact stripSlashes_concat_slash rest
  · have hmore : (path ++ ['/']).head? ≠ some '~' := by
      cases path with
      | nil => decide
      | cons c rest => exact h
    rw [trimPathList_of_head? hmore, trimPathList_of_head? h, stripSlashes_concat_slash]

theorem trimPathList_slash_tilde_ne (path : List Char) :
    trimPathList ('/' :: '~' :: path) ≠ trimPathList ('~' :: path) := by
  intro heq
  have hcount := congrArg (List.count '~') heq
  rw [trimPathList_slash_cons, trimPathList_tilde_cons, count_stripSlashes (by decide),
    count_stripSlashes (by decide), List.count_cons_self] at hcount
  omega

/-! ## Texts -/

theorem trimPath_append_slash (path : String) : trimPath (path ++ "/") = trimPath path := by
  rw [trimPath, String.toList_append]
  exact congrArg String.ofList (trimPathList_concat_slash path.toList)

/-- In front of a path a tilde is as good as a slash. -/
theorem trimPath_tilde_append (path : String) : trimPath ("~" ++ path) = trimPath ("/" ++ path) := by
  simp [trimPath]

/-- A slash in front is lost, unless it keeps a tilde from being dropped. -/
theorem trimPath_slash_append_iff {path : String} :
    trimPath ("/" ++ path) = trimPath path ↔ path.toList.head? ≠ some '~' := by
  have hslash : ("/" ++ path).toList = '/' :: path.toList := String.toList_append
  rw [trimPath, trimPath, hslash]
  constructor
  · intro htrim htilde
    obtain ⟨rest, hrest⟩ := List.head?_eq_some_iff.1 htilde
    rw [hrest] at htrim
    exact trimPathList_slash_tilde_ne rest (String.ofList_injective htrim)
  · intro htilde
    rw [trimPathList_slash_cons, trimPathList_of_head? htilde]

end Routebook
