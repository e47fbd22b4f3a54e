import Routebook.Proofs.CaselessMap
import Routebook.Proofs.Route.Matching
import Routebook.Proofs.Route.Trimming

/-!
# What a match binds

Whether a path fits a pattern, and what each parameter is bound to then, can be said place by place: the
piece at the place of a segment decides, and for a catch-all all pieces from its place on.

* `Segment.Meets` : what a segment asks of the piece at its place; `UrlPattern.Meets` : what a pattern
  asks of all pieces;
* `Segment.taken?` : what a segment takes from the pieces from its place on; these are the captures of
  a path (`mem_captures_iff`);
* `UrlPattern.Binds` : the values of a match, parameter by parameter;
* `UrlPattern.matches_iff_meets` : a path has values just when its pieces meet the pattern, and then
  every parameter is bound once.
-/

namespace Routebook

open Text (sameText)

section Places

variable {α : Type} {P : Nat → α → Prop}

theorem forall_place_cons {a : α} {l : List α} : (∀ (i : Nat) x, (a :: l)[i]? = some x → P i x) ↔
    P 0 a ∧ ∀ (i : Nat) x, l[i]? = some x → P (i + 1) x := by
  constructor
  · intro h
    exact ⟨h 0 a rfl, fun i x hx => h (i + 1) x hx⟩
  · rintro ⟨hhead, htail⟩ i x hx
    cases i with
    | zero => exact Option.some.inj hx ▸ hhead
    | succ i => exact htail i x hx

theorem exists_place_cons {a : α} {l : List α} : (∃ (i : Nat) (x : α), (a :: l)[i]? = some x ∧ P i x) ↔
    P 0 a ∨ ∃ (i : Nat) (x : α), l[i]? = some x ∧ P (i + 1) x := by
  constructor
  · rintro ⟨i, x, hx, hP⟩
    cases i with
    | zero => exact .inl (Option.some.inj hx ▸ hP)
    | succ i => exact .inr ⟨i, x, hx, hP⟩
  · rintro (hP | ⟨i, x, hx, hP⟩)
    · exact ⟨0, a, rfl, hP⟩
    · exact ⟨i + 1, x, hx, hP⟩

end Places

namespace Segment

variable {defaults : RouteValues} {segments : List Segment} {pieces : List (List Char)}
  {captures : List (String × RouteValue)}

/-! ## What a path must be -/

/-- What a segment asks of the piece at its place, if there is one. A literal asks for its text in any
case, a parameter for a piece that is not empty, or a default where the path is at its end. -/
def Meets (defaults : RouteValues) (piece? : Option (List Char)) : Segment → Prop
  | literal text => ∃ piece, piece? = some piece ∧ sameText (String.ofList piece) text = true
  | param name => (∃ piece, piece? = some piece ∧ piece ≠ []) ∨
      piece? = none ∧ defaults.contains name = true
  | catchAll _ => True

section Inversion

variable {text name : String} {piece : List Char}

theorem exists_captures_literal : (∃ captures, Captures defaults (literal text :: segments) (piece :: pieces)
    captures) ↔ sameText (String.ofList piece) text = true ∧
      ∃ captures, Captures defaults segments pieces captures := by
  constructor
  · rintro ⟨captures, _ | ⟨hsame, htail⟩⟩
    exact ⟨hsame, captures, htail⟩
  · rintro ⟨hsame, captures, htail⟩
    exact ⟨captures, .literal hsame htail⟩

theorem exists_captures_param : (∃ captures, Captures defaults (param name :: segments) (piece :: pieces)
    captures) ↔ piece ≠ [] ∧ ∃ captures, Captures defaults segments pieces captures := by
  constructor
  · rintro ⟨_, _ | _ | ⟨hne, htail⟩⟩
    exact ⟨hne, _, htail⟩
  · rintro ⟨hne, captures, htail⟩
    exact ⟨_, .param hne htail⟩

theorem exists_captures_missing : (∃ captures, Captures defaults (param name :: segments) [] captures) ↔
    defaults.contains name = true ∧ ∃ captures, Captures defaults segments [] captures := by
  constructor
  · rintro ⟨captures, _ | _ | _ | ⟨hdefault, htail⟩⟩
    exact ⟨hdefault, captures, htail⟩
  · rintro ⟨hdefault, captures, htail⟩
    exact ⟨captures, .missing hdefault htail⟩

/-- A catch-all takes whatever is left. -/
theorem exists_captures_catchAll : ∃ captures, Captures defaults [catchAll name] pieces captures := by
  by_cases hjoin : ['/'].intercalate pieces = []
  · cases hdefault : defaults.contains name with
    | true => exact ⟨_, .default hjoin hdefault⟩
    | false => exact ⟨_, .leftOut hjoin hdefault⟩
  · exact ⟨_, .rest hjoin⟩

end Inversion

/-- A path gives captures just when there are not too many pieces and each segment is met at its place. -/
theorem exists_captures_iff (hlast : CatchAllLast segments) :
    (∃ captures, Captures defaults segments pieces captures) ↔
      UrlPattern.Fits segments pieces ∧
      ∀ (i : Nat) s, segments[i]? = some s → s.Meets defaults pieces[i]? := by
  induction segments generalizing pieces with
  | nil =>
    cases pieces with
    | nil => exact iff_of_true ⟨[], .done⟩ ⟨UrlPattern.fits_nil [], nofun⟩
    | cons piece rest =>
      refine iff_of_false ?_ ?_
      · rintro ⟨_, ⟨⟩⟩
      · rintro ⟨hend | hlong, -⟩
        · cases hend
        · exact absurd hlong (Nat.not_succ_le_zero _)
  | cons s segments ih =>
    rw [forall_place_cons]
    cases s with
    | literal text =>
      cases pieces with
      | nil =>
        refine iff_of_false ?_ ?_
        · rintro ⟨_, ⟨⟩⟩
        · rintro ⟨-, ⟨_, hnone, -⟩, -⟩
          cases hnone
      | cons piece pieces =>
        have hfits := @UrlPattern.fits_cons (literal text) segments piece pieces nofun
        have hmeets : (literal text).Meets defaults (piece :: pieces)[0]? ↔
            sameText (String.ofList piece) text = true := by
          simp [Meets]
        rw [exists_captures_literal, ih hlast.tail, hmeets, hfits]
        exact and_left_comm
    | param name =>
      cases pieces with
      | nil =>
        have hmeets : (param name).Meets defaults ([] : List (List Char))[0]? ↔
            defaults.contains name = true := by
          simp [Meets]
        rw [exists_captures_missing, ih hlast.tail, hmeets, and_iff_right (UrlPattern.fits_nil segments),
          and_iff_right (UrlPattern.fits_nil _)]
        rfl
      | cons piece pieces =>
        have hfits := @UrlPattern.fits_cons (param name) segments piece pieces nofun
        have hmeets : (param name).Meets defaults (piece :: pieces)[0]? ↔ piece ≠ [] := by
          simp [Meets]
        rw [exists_captures_param, ih hlast.tail, hmeets, hfits]
        exact and_left_comm
    | catchAll name =>
      obtain rfl := hlast.eq_nil
      exact iff_of_true exists_captures_catchAll ⟨.inl rfl, trivial, nofun⟩

/-! ## What is captured -/

/-- What a segment takes from the pieces from its place on. -/
def taken? (defaults : RouteValues) (left : List (List Char)) : Segment → Option (String × RouteValue)
  | literal _ => none
  | param name => left.head?.map fun piece => (name, .ofText (String.ofList piece))
  | catchAll name =>
    if ['/'].intercalate left ≠ [] then some (name, .ofText (String.ofList (['/'].intercalate left)))
    else if defaults.contains name then none else some (name, .optional)

theorem name?_of_taken? {left : List (List Char)} {s : Segment} {c : String × RouteValue}
    (h : s.taken? defaults left = some c) : s.name? = some c.1 := by
  cases s with
  | literal text => cases h
  | param name =>
    obtain ⟨piece, -, rfl⟩ := Option.map_eq_some_iff.1 h
    rfl
  | catchAll name =>
    simp only [taken?] at h
    split at h
    · cases h
      rfl
    · split at h
      · cases h
      · cases h
        rfl

theorem contains_of_taken?_nil {s : Segment} {c : String × RouteValue}
    (h : s.taken? defaults [] = some c) : defaults.contains c.1 = false := by
  cases s with
  | literal text => cases h
  | param name => cases h
  | catchAll name =>
    have hname : name = c.1 := Option.some.inj (name?_of_taken? h)
    cases hdefault : defaults.contains name with
    | true => simp [taken?, List.intercalate, hdefault] at h
    | false => rw [← hname, hdefault]

/-- The captures are what the segments take at their places. -/
theorem mem_captures_iff (h : Captures defaults segments pieces captures) {c : String × RouteValue} :
    c ∈ captures ↔ ∃ (i : Nat) (s : Segment), segments[i]? = some s ∧
      s.taken? defaults (pieces.drop i) = some c := by
  induction h with
  | done => simp
  | literal _ _ ih =>
    rw [exists_place_cons, ih]
    simp [taken?]
  | param _ _ ih =>
    rw [exists_place_cons, List.mem_cons, ih]
    simp [taken?, @eq_comm _ c]
  | missing _ _ ih =>
    rw [exists_place_cons, ih]
    simp [taken?]
  | rest hne =>
    rw [exists_place_cons]
    simp [taken?, hne, @eq_comm _ c]
  | leftOut hnil hdefault =>
    rw [exists_place_cons]
    simp [taken?, hnil, hdefault, @eq_comm _ c]
  | default hnil hdefault =>
    rw [exists_place_cons]
    simp [taken?, hnil, hdefault]

theorem captures_sublist (h : Captures defaults segments pieces captures) :
    (captures.map Prod.fst).Sublist (segments.filterMap name?) := by
  induction h with
  | done => exact .slnil
  | literal _ _ ih => exact ih
  | param _ _ ih => exact ih.cons_cons _
  | missing _ _ ih => exact ih.cons _
  | rest _ => exact List.Sublist.refl _
  | leftOut _ _ => exact List.Sublist.refl _
  | default _ _ => exact List.nil_sublist _

theorem filter_captures (h : Captures defaults segments pieces captures) :
    ((captures.map Prod.fst).filter fun name => !defaults.contains name) =
      (segments.filterMap name?).filter fun name => !defaults.contains name := by
  induction h with
  | done => rfl
  | literal _ _ ih => exact ih
  | param _ _ ih =>
    simp only [List.map_cons, List.filterMap_cons, name?, List.filter_cons, ih]
  | missing hdefault _ ih => simpa [name?, hdefault] using ih
  | rest _ => rfl
  | leftOut _ _ => rfl
  | default _ hdefault => simp [name?, hdefault]

theorem DistinctNames.eq_place (hdistinct : DistinctNames segments) {i j : Nat} {s s' : Segment}
    {m n : String} (hi : segments[i]? = some s) (hm : s.name? = some m) (hj : segments[j]? = some s')
    (hn : s'.name? = some n) (hsame : sameText m n = true) : i = j := by
  have hpair := List.pairwise_iff_getElem.1 (List.pairwise_filterMap.1 hdistinct)
  obtain ⟨hilt, rfl⟩ := List.getElem?_eq_some_iff.1 hi
  obtain ⟨hjlt, rfl⟩ := List.getElem?_eq_some_iff.1 hj
  rcases Nat.lt_trichotomy i j with hlt | heq | hlt
  · have hne := hpair i j hilt hjlt hlt m hm n hn
    rw [hsame] at hne
    cases hne
  · exact heq
  · have hne := hpair j i hjlt hilt hlt n hn m hm
    rw [Text.sameText_comm, hsame] at hne
    cases hne

/-- The name of a segment is written with what the segment takes at its place. -/
theorem lastWrite?_captures (h : Captures defaults segments pieces captures)
    (hdistinct : DistinctNames segments) {i : Nat} {s : Segment} {name : String}
    (hs : segments[i]? = some s) (hname : s.name? = some name) :
    CaselessMap.lastWrite? captures name = (s.taken? defaults (pieces.drop i)).map Prod.snd := by
  cases htaken : s.taken? defaults (pieces.drop i) with
  | some c =>
    have hmem : c ∈ captures := (mem_captures_iff h).2 ⟨i, s, hs, htaken⟩
    have hwritten := CaselessMap.lastWrite?_eq_some (hdistinct.sublist (captures_sublist h)) hmem
    rw [name?_of_taken? htaken, Option.some.injEq] at hname
    rw [← hname, hwritten, Option.map_some]
  | none =>
    apply CaselessMap.lastWrite?_eq_none
    intro c hc
    obtain ⟨j, s', hs', htaken'⟩ := (mem_captures_iff h).1 hc
    rw [Bool.eq_false_iff]
    intro hsame
    obtain rfl := hdistinct.eq_place hs' (name?_of_taken? htaken') hs hname hsame
    obtain rfl := Option.some.inj (hs.symm.trans hs')
    rw [htaken] at htaken'
    cases htaken'

end Segment

/-! ## Patterns -/

namespace UrlPattern

open Segment (Captures)

/-- What a pattern asks of the pieces of a path: that there are no more of them than segments, unless it
ends in a catch-all, and that each segment is met at its place. -/
structure Meets (p : UrlPattern) (defaults : RouteValues) (pieces : List (List Char)) : Prop where
  length : p.endsInCatchAll = true ∨ pieces.length ≤ p.segments.length
  place : ∀ (i : Nat) s, p.segments[i]? = some s → s.Meets defaults pieces[i]?

/-- The values of a match. -/
structure Binds (p : UrlPattern) (defaults : RouteValues) (path : List Char) (values : RouteValues) :
    Prop where
  /-- A parameter has the piece at its place, -/
  supplied : ∀ (i : Nat) name piece, p.segments[i]? = some (.param name) →
    (pathPieces path)[i]? = some piece → values.get? name = some (.ofText (String.ofList piece))
  /-- or its default if the path is at its end. -/
  omitted : ∀ (i : Nat) name, p.segments[i]? = some (.param name) → (pathPieces path).length ≤ i →
    ∃ v, defaults.get? name = some v ∧ values.get? name = some v
  /-- A catch-all has what is left of the path behind the pieces in front of it, -/
  rest : ∀ (i : Nat) name, p.segments[i]? = some (.catchAll name) → i < (pathPieces path).length →
    ∃ rest, path = ((pathPieces path).take i).flatMap (· ++ ['/']) ++ rest ∧
      values.get? name = some (.ofText (String.ofList rest))
  /-- or its default if the path is at its end, or else is marked as left out. -/
  absent : ∀ (i : Nat) name, p.segments[i]? = some (.catchAll name) → (pathPieces path).length ≤ i →
    values.get? name = some ((defaults.get? name).getD .optional)
  /-- The other defaults are kept. -/
  kept : ∀ key, defaults.contains key = true →
    (∀ (i : Nat) s name, p.segments[i]? = some s → s.name? = some name →
      i < (pathPieces path).length → sameText name key = false) →
    values.get? key = defaults.get? key
  /-- No name is bound twice. -/
  once : ∀ s ∈ p.segments, ∀ name, s.name? = some name →
    values.keys.countP (fun key => sameText key name) = 1
  /-- The keys of the defaults come first, then the names that have no default, in order. -/
  keys : values.keys = defaults.keys ++
    (p.segments.filterMap Segment.name?).filter fun name => !defaults.contains name

variable {url : String} {p : UrlPattern} {defaults : RouteValues}

theorem intercalate_drop_ne_nil {path : List Char} (hlast : path.getLast? ≠ some '/') {i : Nat}
    (hi : i < (pathPieces path).length) : ['/'].intercalate ((pathPieces path).drop i) ≠ [] := by
  intro hnil
  have hsplit := @Text.intercalate_eq_append '/' _ i hi
  rw [hnil, intercalate_pathPieces, List.append_nil] at hsplit
  cases i with
  | zero =>
    rw [List.take_zero, List.flatMap_nil] at hsplit
    rw [hsplit] at hi
    exact Nat.not_lt_zero _ hi
  | succ i =>
    have hlt : i < (pathPieces path).length := Nat.lt_of_succ_lt hi
    rw [List.take_add_one, List.getElem?_eq_getElem hlt, Option.toList_some, List.flatMap_append,
      List.flatMap_singleton, ← List.append_assoc] at hsplit
    rw [hsplit, List.getLast?_concat] at hlast
    exact hlast rfl

section Captured

variable {path : List Char} {captures : List (String × RouteValue)} {i : Nat} {s : Segment}
  {name key : String} {piece : List Char}

theorem get?_captured (hp : parse url = .ok p)
    (h : Captures defaults p.segments (pathPieces path) captures) (hs : p.segments[i]? = some s)
    (hname : s.name? = some name) : (defaults.insertMany captures).get? name =
      ((s.taken? defaults ((pathPieces path).drop i)).map Prod.snd).or (defaults.get? name) := by
  have hdistinct : Segment.DistinctNames p.segments := (parse_eq_ok_iff.1 hp).2.2.2
  rw [CaselessMap.get?_insertMany, Segment.lastWrite?_captures h hdistinct hs hname]

theorem get?_supplied (hp : parse url = .ok p)
    (h : Captures defaults p.segments (pathPieces path) captures)
    (hs : p.segments[i]? = some (.param name)) (hpiece : (pathPieces path)[i]? = some piece) :
    (defaults.insertMany captures).get? name = some (.ofText (String.ofList piece)) := by
  rw [get?_captured hp h hs rfl, Segment.taken?, List.head?_drop, hpiece]
  rfl

theorem get?_omitted (hp : parse url = .ok p)
    (h : Captures defaults p.segments (pathPieces path) captures)
    (hs : p.segments[i]? = some (.param name)) (hlong : (pathPieces path).length ≤ i) :
    ∃ v, defaults.get? name = some v ∧ (defaults.insertMany captures).get? name = some v := by
  have hnone : (pathPieces path)[i]? = none := List.getElem?_eq_none hlong
  have hmeets := ((Segment.exists_captures_iff (catchAllLast_of_parse hp)).1 ⟨captures, h⟩).2 i _ hs
  have hdefault : defaults.contains name = true := by
    rcases hmeets with ⟨piece, hpiece, -⟩ | ⟨-, hdefault⟩
    · rw [hnone] at hpiece
      cases hpiece
    · exact hdefault
  rw [CaselessMap.contains_eq_isSome, Option.isSome_iff_exists] at hdefault
  obtain ⟨v, hv⟩ := hdefault
  refine ⟨v, hv, ?_⟩
  rw [get?_captured hp h hs rfl, Segment.taken?, List.head?_drop, hnone, hv]
  rfl

theorem get?_rest (hp : parse url = .ok p)
    (h : Captures defaults p.segments (pathPieces path) captures) (hlast : path.getLast? ≠ some '/')
    (hs : p.segments[i]? = some (.catchAll name)) (hi : i < (pathPieces path).length) :
    (defaults.insertMany captures).get? name =
      some (.ofText (String.ofList (['/'].intercalate ((pathPieces path).drop i)))) := by
  rw [get?_captured hp h hs rfl, Segment.taken?, if_pos (intercalate_drop_ne_nil hlast hi)]
  rfl

theorem get?_absent (hp : parse url = .ok p)
    (h : Captures defaults p.segments (pathPieces path) captures)
    (hs : p.segments[i]? = some (.catchAll name)) (hlong : (pathPieces path).length ≤ i) :
    (defaults.insertMany captures).get? name = some ((defaults.get? name).getD .optional) := by
  rw [get?_captured hp h hs rfl, List.drop_eq_nil_of_le hlong]
  cases hdefault : defaults.get? name with
  | none => simp [Segment.taken?, List.intercalate, CaselessMap.contains_eq_isSome, hdefault]
  | some v => simp [Segment.taken?, List.intercalate, CaselessMap.contains_eq_isSome, hdefault]

theorem get?_kept (h : Captures defaults p.segments (pathPieces path) captures)
    (hkey : defaults.contains key = true)
    (hother : ∀ (i : Nat) s name, p.segments[i]? = some s → s.name? = some name →
      i < (pathPieces path).length → sameText name key = false) :
    (defaults.insertMany captures).get? key = defaults.get? key := by
  have hnone : CaselessMap.lastWrite? captures key = none := by
    apply CaselessMap.lastWrite?_eq_none
    intro c hc
    obtain ⟨i, s, hs, htaken⟩ := (Segment.mem_captures_iff h).1 hc
    by_cases hi : i < (pathPieces path).length
    · exact hother i s c.1 hs (Segment.name?_of_taken? htaken) hi
    · rw [List.drop_eq_nil_of_le (Nat.le_of_not_lt hi)] at htaken
      have hdefault := Segment.contains_of_taken?_nil htaken
      rw [Bool.eq_false_iff]
      intro hsame
      rw [defaults.contains_congr hsame, hkey] at hdefault
      cases hdefault
  rw [CaselessMap.get?_insertMany, hnone, Option.none_or]

theorem contains_captured (hp : parse url = .ok p)
    (h : Captures defaults p.segments (pathPieces path) captures) (hs : p.segments[i]? = some s)
    (hname : s.name? = some name) : (defaults.insertMany captures).contains name = true := by
  rw [CaselessMap.contains_eq_isSome]
  cases s with
  | literal text => cases hname
  | param n =>
    cases hname
    cases hpiece : (pathPieces path)[i]? with
    | some piece => rw [get?_supplied hp h hs hpiece, Option.isSome_some]
    | none =>
      obtain ⟨v, -, hv⟩ := get?_omitted hp h hs (List.getElem?_eq_none_iff.1 hpiece)
      rw [hv, Option.isSome_some]
  | catchAll n =>
    cases hname
    rw [get?_captured hp h hs rfl, Segment.taken?]
    split
    · rfl
    · cases hdefault : defaults.contains name with
      | true => simpa [CaselessMap.contains_eq_isSome] using hdefault
      | false => rfl

end Captured

/-- The captures of a trimmed path, written over the defaults, are the values of a match. -/
theorem binds_captures (hp : parse url = .ok p) {path : List Char} (hlast : path.getLast? ≠ some '/')
    {captures : List (String × RouteValue)}
    (h : Captures defaults p.segments (pathPieces path) captures) :
    p.Binds defaults path (defaults.insertMany captures) := by
  have hdistinct : Segment.DistinctNames p.segments := (parse_eq_ok_iff.1 hp).2.2.2
  constructor
  case supplied => exact fun i name piece => get?_supplied hp h
  case omitted => exact fun i name => get?_omitted hp h
  case rest =>
    intro i name hs hi
    refine ⟨_, ?_, get?_rest hp h hlast hs hi⟩
    rw [← Text.intercalate_eq_append hi, intercalate_pathPieces]
  case absent => exact fun i name => get?_absent hp h
  case kept => exact fun key => get?_kept h
  case once =>
    intro s hs name hname
    obtain ⟨i, hi⟩ := List.mem_iff_getElem?.1 hs
    exact CaselessMap.countP_keys (contains_captured hp h hi hname)
  case keys =>
    rw [CaselessMap.keys_insertMany _ (hdistinct.sublist (Segment.captures_sublist h)),
      Segment.filter_captures h]

/-- A trimmed path has values just when its pieces meet the pattern: there are not too many, and each
segment is met at its place. Then the values bind every parameter once, keep the other defaults, and
list the keys of the defaults first. -/
theorem matches_iff_meets (hp : parse url = .ok p) (path : String) (defaults : RouteValues) :
    ((∃ v, p.matches? (trimPath path) defaults = some v) ↔
      p.Meets defaults (pathPieces (trimPathList path.toList))) ∧
    ∀ v, p.matches? (trimPath path) defaults = some v →
      p.Binds defaults (trimPathList path.toList) v := by
  simp only [matches?_eq_some_iff hp, trimPath, String.toList_ofList]
  constructor
  · constructor
    · rintro ⟨_, captures, h, -⟩
      obtain ⟨hlength, hplace⟩ := (Segment.exists_captures_iff (catchAllLast_of_parse hp)).1 ⟨captures, h⟩
      exact ⟨hlength, hplace⟩
    · rintro ⟨hlength, hplace⟩
      obtain ⟨captures, h⟩ := (Segment.exists_captures_iff (catchAllLast_of_parse hp)).2 ⟨hlength, hplace⟩
      exact ⟨_, captures, h, rfl⟩
  · rintro v ⟨captures, h, rfl⟩
    exact binds_captures hp (getLast?_trimPathList _) h

/-- A path that ends two segments before the catch-all, with a default under another spelling for the
parameter between them. -/
theorem matches_iff_meets_short :
    let url := "a/\x7bx\x7d/\x7by\x7d/\x7b*rest\x7d"
    let p : UrlPattern := ⟨[.literal "a", .param "x", .param "y", .catchAll "rest"]⟩
    let defaults : RouteValues := .ofList [("k", .ofText "2"), ("Y", .ofText "1")]
    parse url = .ok p ∧ ∃ v, p.matches? (trimPath "/A/7") defaults = some v ∧
      v.get? "x" = some (.ofText "7") ∧ v.get? "y" = some (.ofText "1") ∧
      v.get? "rest" = some .optional ∧ v.get? "K" = some (.ofText "2") ∧
      v.keys = ["k", "Y", "x", "rest"] := by
  intro url p defaults
  have hp : parse url = .ok p := by dsimp only [url, p]; with_unfolding_all rfl
  have hpieces : pathPieces (trimPathList "/A/7".toList) = [['A'], ['7']] := by with_unfolding_all rfl
  obtain ⟨hiff, hbinds⟩ := matches_iff_meets hp "/A/7" defaults
  rw [hpieces] at hiff
  have hmeets : p.Meets defaults [['A'], ['7']] := by
    refine ⟨.inl rfl, ?_⟩
    dsimp only [p]
    rw [forall_place_cons, forall_place_cons, forall_place_cons, forall_place_cons]
    refine ⟨⟨_, rfl, rfl⟩, .inl ⟨_, rfl, List.cons_ne_nil _ _⟩, .inr ⟨rfl, rfl⟩, trivial, nofun⟩
  obtain ⟨v, hv⟩ := hiff.2 hmeets
  have hb := hbinds v hv
  have hy : v.get? "y" = some (.ofText "1") := by
    obtain ⟨w, hw, hvy⟩ := hb.omitted 2 "y" rfl (by rw [hpieces]; decide)
    rw [hvy, ← hw]
    rfl
  refine ⟨hp, v, hv, hb.supplied 1 "x" ['7'] rfl (by rw [hpieces]; rfl), hy,
    hb.absent 3 "rest" rfl (by rw [hpieces]; decide), ?_, hb.keys⟩
  have hother : ∀ n ∈ p.segments.filterMap Segment.name?, sameText n "K" = false := by
    dsimp only [p]
    decide
  rw [hb.kept "K" rfl fun i s name hs hname _ =>
    hother name (List.mem_filterMap.2 ⟨s, List.mem_of_getElem? hs, hname⟩)]
  rfl

end UrlPattern

end Routebook
