import Routebook.Proofs.CaselessMap
import Routebook.Proofs.Route.Trimming
import Routebook.Proofs.Table.Dispatch

/-!
# Slashes and tildes around a path

A table looks at a path only after trimming it, unless a matcher of the host sees it as given. So an
answer changes with what is put around a path only as far as trimming does.

* `RouteTable.MatcherFree` : a table without matchers;
* `RouteTable.route_congr` : it answers paths alike that are trimmed to the same;
* `RouteTable.route_slash_iff` : a slash behind a path never changes the answer; a slash in front changes
  none unless the path begins with a tilde, and then the answer of some table;
* `RouteTable.not_route_slash` : a tilde with no slash behind it is such a case.
-/

namespace Routebook

open RouteTable (Reachable WellFormed)

/-! ## Trimmed alike -/

variable {method p q : String}

theorem UrlPattern.parse_congr (htrim : trimPath p = trimPath q) : parse p = parse q := by
  have hlist : trimPathList p.toList = trimPathList q.toList := String.ofList_injective htrim
  unfold parse
  rw [hlist]

theorem Constraint.accepts_of_trimPath {k : Constraint} {key : String} {values : RouteValues}
    (hk : ∀ m, k ≠ .custom m) (htrim : trimPath p = trimPath q)
    (h : k.Accepts ⟨method, p⟩ values key) : k.Accepts ⟨method, q⟩ values key := by
  cases k with
  | methods names => exact h
  | custom m => exact absurd rfl (hk m)
  | pattern source =>
    obtain ⟨r, hr, hvalue | ⟨hnone, hmatch⟩⟩ := h
    · exact ⟨r, hr, .inl hvalue⟩
    · refine ⟨r, hr, .inr ⟨hnone, ?_⟩⟩
      show r.isMatch (trimPath q) = true
      rw [← htrim]
      exact hmatch

theorem Entry.Takes.of_trimPath {e : Entry} {values : RouteValues}
    (he : ∀ key m, (key, Constraint.custom m) ∉ e.constraints.entries)
    (htrim : trimPath p = trimPath q) (h : e.Takes ⟨method, p⟩ values) :
    e.Takes ⟨method, q⟩ values := by
  constructor
  case matches_path =>
    obtain ⟨u, captures, hu, hc, hv⟩ := h.matches_path
    have hlist : trimPathList p.toList = trimPathList q.toList := String.ofList_injective htrim
    refine ⟨u, captures, hu, ?_, hv⟩
    rw [← hlist]
    exact hc
  case accepts =>
    intro key k hmem
    have hk : ∀ m, k ≠ .custom m := by
      rintro m rfl
      exact he key m hmem
    exact Constraint.accepts_of_trimPath hk htrim (h.accepts key k hmem)

/-! ## Tables -/

namespace RouteTable

variable {t : RouteTable}

/-- No constraint is a matcher of the host. -/
def MatcherFree (t : RouteTable) : Prop :=
  ∀ e ∈ t.entries, ∀ key m, (key, Constraint.custom m) ∉ e.constraints.entries

/-- Paths that are trimmed to the same have the same answer. -/
theorem route_congr (ht : WellFormed t) (hfree : t.MatcherFree) (htrim : trimPath p = trimPath q) :
    t.route method p = t.route method q := by
  have hanswer : ∀ {a b : String}, trimPath a = trimPath b → ∀ m, t.route method a = some m →
      t.route method b = some m := by
    intro a b hab m hm
    rw [ht.route_eq_some_iff] at hm ⊢
    obtain ⟨before, after, hsplit, htakes, hnone⟩ := hm
    have hfree' : ∀ e ∈ before ++ m.entry :: after, ∀ key k,
        (key, Constraint.custom k) ∉ e.constraints.entries := by
      rw [← hsplit]
      exact hfree
    refine ⟨before, after, hsplit, htakes.of_trimPath (hfree' _ (by simp)) hab, ?_⟩
    intro e he v hv
    exact hnone e he v (hv.of_trimPath (hfree' e (by simp [he])) hab.symm)
  apply Option.ext
  intro m
  exact ⟨hanswer htrim m, hanswer htrim.symm m⟩

/-- A table whose history offers no entries with matchers has none. -/
theorem matcherFree_replay {changes : List Change} (h : ∀ e, .register e ∈ changes →
    ∀ key m, (key, Constraint.custom m) ∉ e.constraints.entries) : (empty.replay changes).MatcherFree := by
  intro e he
  rcases mem_entries_replay he with hempty | hmem
  · exact nomatch hempty
  · exact h e hmem

theorem matcherFree_singleton {e : Entry} (h : ∀ key m, (key, Constraint.custom m) ∉ e.constraints.entries) :
    (empty.replay [.register e]).MatcherFree := by
  apply matcherFree_replay
  rintro e' (_ | ⟨_, ⟨⟩⟩)
  exact h

/-- The entry that takes every path, and binds the whole of it. -/
def wholePath : Entry := { name := "whole", url := "\x7b*path\x7d" }

def wholeTable : RouteTable := empty.replay [.register wholePath]

theorem wholeTable_routes : wholeTable.routes = [⟨wholePath, ⟨[.catchAll "path"]⟩, []⟩] := by
  dsimp only [wholeTable, wholePath]
  with_unfolding_all rfl

theorem wholeTable_matcherFree : wholeTable.MatcherFree := by
  apply matcherFree_singleton
  exact nofun

theorem matches?_catchAll (path : String) :
    (UrlPattern.mk [.catchAll "path"]).matches? path wholePath.defaults = some
      (CaselessMap.empty.insert "path" (if path.toList.isEmpty then .optional else .ofText path)) := by
  show UrlPattern.bind? .empty [.catchAll "path"] (pathPieces path.toList) .empty = _
  rw [UrlPattern.bind?, UrlPattern.bind?, intercalate_pathPieces, String.ofList_toList]
  cases path.toList.isEmpty <;> rfl

theorem wholeTable_route (method path : String) :
    ((wholeTable.route method path).bind fun m => m.text? "path").getD "" = trimPath path := by
  have hroute : wholeTable.route method path = some ⟨wholePath, CaselessMap.empty.insert "path"
      (if (trimPath path).toList.isEmpty then .optional else .ofText (trimPath path))⟩ := by
    rw [route, wholeTable_routes, List.findSome?_singleton, Route.match?]
    dsimp only
    rw [matches?_catchAll]
    rfl
  rw [hroute, Option.bind_some, RouteMatch.text?, CaselessMap.get?_insert, Text.sameText_refl, if_pos rfl]
  cases hempty : (trimPath path).toList.isEmpty with
  | true =>
    have hnil : trimPath path = "" := by
      rw [← String.ofList_toList (s := trimPath path), List.isEmpty_iff.1 hempty]
    rw [hnil]
    rfl
  | false => rfl

/-! ## A slash more -/

/-- A slash behind a path changes no answer, and none is changed when a tilde stands in front instead of a
slash. A slash in front changes no answer just when the path does not begin with a tilde, and the same
goes for patterns. -/
theorem route_slash_iff (method path : String) :
    (∀ t, Reachable t → t.MatcherFree → t.route method (path ++ "/") = t.route method path ∧
      t.route method ("~" ++ path) = t.route method ("/" ++ path)) ∧
    ((∀ t, Reachable t → t.MatcherFree → t.route method ("/" ++ path) = t.route method path) ↔
      path.toList.head? ≠ some '~') ∧
    UrlPattern.parse (path ++ "/") = UrlPattern.parse path ∧
    UrlPattern.parse ("~" ++ path) = UrlPattern.parse ("/" ++ path) ∧
    ∀ p, UrlPattern.parse path = .ok p →
      (UrlPattern.parse ("/" ++ path) = .ok p ↔ path.toList.head? ≠ some '~') := by
  have hbehind := trimPath_append_slash path
  have htilde := trimPath_tilde_append path
  refine ⟨?_, ⟨?_, ?_⟩, UrlPattern.parse_congr hbehind, UrlPattern.parse_congr htilde, fun p hp => ⟨?_, ?_⟩⟩
  · intro t ht hfree
    exact ⟨route_congr ht.wellFormed hfree hbehind, route_congr ht.wellFormed hfree htilde⟩
  · intro hsame
    -- The answers of the whole table are the trimmed paths, so these are the same.
    have hwhole := hsame wholeTable ⟨_, rfl⟩ wholeTable_matcherFree
    rw [← trimPath_slash_append_iff, ← wholeTable_route method, hwhole, wholeTable_route]
  · intro hhead t ht hfree
    exact route_congr ht.wellFormed hfree (trimPath_slash_append_iff.2 hhead)
  · intro hslash
    have hpieces := (UrlPattern.render_of_parse hslash).symm.trans (UrlPattern.render_of_parse hp)
    rw [← trimPath_slash_append_iff, trimPath, ← intercalate_pathPieces (trimPathList _), hpieces,
      intercalate_pathPieces, ← trimPath]
  · intro hhead
    rw [UrlPattern.parse_congr (trimPath_slash_append_iff.2 hhead)]
    exact hp

/-- A route with a constraint on the whole path, written with a tilde and a slash in front. -/
theorem route_slash_iff_whole :
    let e : Entry := { name := "item", url := "~/x/\x7bid\x7d",
                       constraints := .ofList [("where", .pattern "x/7")] }
    let t := RouteTable.empty.replay [.register e]
    Reachable t ∧ t.MatcherFree ∧ "x/7".toList.head? ≠ some '~' ∧
      (∃ m, t.route "GET" "x/7" = some m ∧ m.text? "id" = some "7") ∧
      t.route "GET" "/x/7" = t.route "GET" "x/7" ∧ t.route "GET" "x/7/" = t.route "GET" "x/7" := by
  intro e t
  have ht : Reachable t := ⟨_, rfl⟩
  have hfree : t.MatcherFree := by
    apply matcherFree_singleton
    intro key m hmem
    exact nomatch List.mem_singleton.1 hmem
  have htilde : "x/7".toList.head? ≠ some '~' := by decide
  have hanswer : (t.route "GET" "x/7").bind (fun m => m.text? "id") = some "7" := by
    dsimp only [t, e]
    decide +kernel
  obtain ⟨hbehind, hfront, -⟩ := route_slash_iff "GET" "x/7"
  exact ⟨ht, hfree, htilde, Option.bind_eq_some_iff.1 hanswer, hfront.2 htilde t ht hfree,
    (hbehind t ht hfree).1⟩

/-- A tilde with no slash behind it is dropped from a path and from a pattern, and kept behind a slash. -/
theorem not_route_slash :
    let e : Entry := { name := "r", url := "a" }
    let t := RouteTable.empty.replay [.register e]
    let u := RouteTable.empty.replay [.register { e with url := "~a" }]
    Reachable t ∧ t.MatcherFree ∧ Reachable u ∧ u.MatcherFree ∧ ¬ "~/".toList <+: "~a".toList ∧
      t.route "GET" "~a" = some ⟨e, .empty⟩ ∧ t.route "GET" "/~a" = none ∧
      u.route "GET" "/~a" = none ∧ u.route "GET" "/a" = some ⟨{ e with url := "~a" }, .empty⟩ := by
  intro e t u
  refine ⟨⟨_, rfl⟩, matcherFree_singleton nofun, ⟨_, rfl⟩, matcherFree_singleton nofun, by decide, ?_⟩
  refine ⟨?_, ?_, ?_, ?_⟩
  all_goals
    dsimp only [t, u, e]
    with_unfolding_all rfl

end RouteTable
end Routebook
