import Routebook.Route.Pattern
import Routebook.Text.Pieces

/-!
# Reading and writing patterns

A piece of a URL is read as the segment that writes it, so reading a pattern loses nothing.

* `IsPiece`, `IsName` : the texts that may stand between two slashes, and between two braces;
* `Segment.Legible` : a segment that is read again as it is written;
* `Segment.parse_eq_ok_iff` : a piece is read as the legible segment that writes it, if the segments in
  front leave room for it;
* `Segment.CatchAllLast`, `Segment.DistinctNames` : what the segments of a pattern leave room for;
* `UrlPattern.parse_eq_ok_iff` : the pattern of a URL is the one that writes its pieces.
-/

namespace Routebook

open Text (sameText)

/-- A text that may stand between two slashes. -/
structure IsPiece (s : List Char) : Prop where
  ne_nil : s ≠ []
  no_slash : '/' ∉ s

instance (s : List Char) : Decidable (IsPiece s) :=
  decidable_of_iff (s ≠ [] ∧ '/' ∉ s) ⟨fun h => ⟨h.1, h.2⟩, fun h => ⟨h.1, h.2⟩⟩

/-- A text that may stand between two braces. -/
structure IsName (s : List Char) : Prop where
  ne_nil : s ≠ []
  plain : ∀ c ∈ s, c ≠ '\x7b' ∧ c ≠ '\x7d' ∧ c ≠ '*'

theorem isName_iff {s : List Char} :
    IsName s ↔ (s.isEmpty || s.any fun c => Segment.isBrace c || c == '*') = false := by
  have hplain : (s.any fun c => Segment.isBrace c || c == '*') = false ↔
      ∀ c ∈ s, c ≠ '\x7b' ∧ c ≠ '\x7d' ∧ c ≠ '*' := by
    simp [List.any_eq_false, Segment.isBrace, and_assoc]
  rw [Bool.or_eq_false_iff, hplain, List.isEmpty_eq_false_iff]
  exact ⟨fun h => ⟨h.ne_nil, h.plain⟩, fun h => ⟨h.1, h.2⟩⟩

theorem IsName.head?_ne {s : List Char} (h : IsName s) : s.head? ≠ some '*' := by
  intro hhead
  have hmem : '*' ∈ s := List.mem_of_head? hhead
  exact (h.plain '*' hmem).2.2 rfl

namespace Segment

/-! ## One segment -/

theorem inner?_eq_some_iff {piece inner : List Char} :
    inner? piece = some inner ↔ piece = '\x7b' :: (inner ++ ['\x7d']) := by
  constructor
  · intro h
    unfold inner? at h
    split at h
    · rename_i rest
      split at h
      · rename_i hlast
        obtain ⟨front, rfl⟩ := List.getLast?_eq_some_iff.1 (beq_iff_eq.1 hlast)
        rw [List.dropLast_concat, Option.some.injEq] at h
        rw [h]
      · cases h
    · cases h
  · rintro rfl
    rw [inner?, if_pos (by simp), List.dropLast_concat]

@[simp] theorem toList_render_param (name : String) :
    (param name).render.toList = '\x7b' :: (name.toList ++ ['\x7d']) := by
  simp [render]

@[simp] theorem toList_render_catchAll (name : String) :
    (catchAll name).render.toList = '\x7b' :: '*' :: (name.toList ++ ['\x7d']) := by
  simp [render]

/-- The text of a literal has no braces, and a name may stand between them. -/
def Legible : Segment → Prop
  | literal text => text.toList ≠ [] ∧ ∀ c ∈ text.toList, isBrace c = false
  | param name => IsName name.toList
  | catchAll name => IsName name.toList

/-- What stands between the braces of a parameter or, behind a star, of a catch-all. -/
def starred (catching : Bool) (name : List Char) : List Char := if catching then '*' :: name else name

theorem exists_starred (inner : List Char) : ∃ (catching : Bool) (name : List Char),
    (catching = false → name.head? ≠ some '*') ∧ inner = starred catching name := by
  by_cases hhead : inner.head? = some '*'
  · obtain ⟨name, rfl⟩ := List.head?_eq_some_iff.1 hhead
    exact ⟨true, name, nofun, rfl⟩
  · exact ⟨false, inner, fun _ => hhead, rfl⟩

section Parse

variable {before : List Segment} {last catching : Bool} {piece name : List Char} {s : Segment}

theorem parse_between (hstar : catching = false → name.head? ≠ some '*') :
    parse before last ('\x7b' :: (starred catching name ++ ['\x7d'])) = .ok s ↔
      IsName name ∧ (catching = true → last = true) ∧
      before.any (hasName (String.ofList name)) = false ∧
      s = if catching then .catchAll (String.ofList name) else .param (String.ofList name) := by
  unfold parse
  rw [if_neg (by simp), inner?_eq_some_iff.2 rfl, isName_iff]
  dsimp only
  split
  case h_1 inner rest heq =>
    obtain ⟨rfl, rfl⟩ : catching = true ∧ name = rest := by
      cases catching with
      | true => simpa [starred] using heq
      | false => exact absurd (congrArg List.head? heq) (hstar rfl)
    cases name.isEmpty || name.any fun c => isBrace c || c == '*' <;>
      cases before.any (hasName (String.ofList name)) <;> cases last <;> simp [eq_comm]
  case h_2 inner hne =>
    obtain rfl : catching = false := by
      cases catching with
      | true => exact absurd rfl (hne name)
      | false => rfl
    simp only [starred, Bool.false_eq_true, if_false, Bool.false_and]
    cases name.isEmpty || name.any fun c => isBrace c || c == '*' <;>
      cases before.any (hasName (String.ofList name)) <;> simp [eq_comm]

theorem parse_plain (h : inner? piece = none) : parse before last piece = .ok s ↔
    piece ≠ [] ∧ (∀ c ∈ piece, isBrace c = false) ∧ s = .literal (String.ofList piece) := by
  unfold parse
  rw [h]
  by_cases hempty : piece = []
  · simp [hempty]
  · have hbraces : piece.any isBrace = false ↔ ∀ c ∈ piece, isBrace c = false := by
      simp
    rw [if_neg (by simpa using hempty), ← hbraces]
    cases piece.any isBrace <;> simp [hempty, eq_comm]

/-- A piece is read as the segment that writes it. The segment is legible, it is a catch-all only in
last place, and no segment in front has its name. -/
theorem parse_eq_ok_iff : parse before last piece = .ok s ↔ s.render.toList = piece ∧ s.Legible ∧
    (∀ name, s = catchAll name → last = true) ∧
    ∀ name, s.name? = some name → before.any (hasName name) = false := by
  constructor
  · intro h
    cases hinner : inner? piece with
    | none =>
      obtain ⟨hne, hplain, rfl⟩ := (parse_plain hinner).1 h
      have hlegible : (literal (String.ofList piece)).Legible := by
        rw [Legible, String.toList_ofList]
        exact ⟨hne, hplain⟩
      refine ⟨String.toList_ofList, hlegible, ?_, ?_⟩
      · intro name hs
        cases hs
      · intro name hs
        cases hs
    | some inner =>
      obtain rfl := inner?_eq_some_iff.1 hinner
      obtain ⟨catching, name, hstar, rfl⟩ := exists_starred inner
      obtain ⟨hname, hlast, hnew, rfl⟩ := (parse_between hstar).1 h
      rw [List.any_eq_false] at hnew
      cases catching with
      | true => simpa [Legible, name?, starred, hname, hlast] using hnew
      | false => simpa [Legible, name?, starred, hname] using hnew
  · rintro ⟨rfl, hlegible, hlast, hnew⟩
    cases s with
    | literal text =>
      have hinner : inner? text.toList = none := by
        cases hinner : inner? text.toList with
        | none => rfl
        | some inner =>
          have hmem : '\x7b' ∈ text.toList := by
            rw [inner?_eq_some_iff.1 hinner]
            exact List.mem_cons_self
          cases hlegible.2 '\x7b' hmem
      exact (parse_plain hinner).2 ⟨hlegible.1, hlegible.2, by rw [String.ofList_toList]⟩
    | param name =>
      have hread := (@parse_between before last false _ (param name) fun _ => IsName.head?_ne hlegible).2
        ⟨hlegible, (absurd · Bool.false_ne_true), by rw [String.ofList_toList]; exact hnew name rfl, by simp⟩
      simpa [starred] using hread
    | catchAll name =>
      have hread := (@parse_between before last true _ (catchAll name) (absurd ·.symm Bool.false_ne_true)).2
        ⟨hlegible, fun _ => hlast name rfl, by rw [String.ofList_toList]; exact hnew name rfl, by simp⟩
      simpa [starred] using hread

end Parse

theorem Legible.render_ne_nil {s : Segment} (h : s.Legible) : s.render.toList ≠ [] := by
  cases s with
  | literal text => exact h.1
  | param name => simp
  | catchAll name => simp

/-! ## Segments in order -/

/-- No catch-all stands in front of another segment. -/
def CatchAllLast (segments : List Segment) : Prop := ∀ name, catchAll name ∉ segments.dropLast

/-- No two parameters have names that are the same up to case. -/
def DistinctNames (segments : List Segment) : Prop :=
  (segments.filterMap name?).Pairwise fun a b => sameText a b = false

theorem catchAllLast_cons {s : Segment} {segments : List Segment} : CatchAllLast (s :: segments) ↔
    (∀ name, s = catchAll name → segments = []) ∧ CatchAllLast segments := by
  unfold CatchAllLast
  cases segments with
  | nil => simp
  | cons s' rest =>
    simp only [List.dropLast_cons_cons, List.mem_cons, not_or]
    constructor
    · intro h
      exact ⟨fun name hs => absurd hs.symm (h name).1, fun name => (h name).2⟩
    · rintro ⟨hs, hrest⟩ name
      exact ⟨fun h => List.cons_ne_nil _ _ (hs name h.symm), hrest name⟩

theorem catchAllLast_iff_getElem? {segments : List Segment} : CatchAllLast segments ↔
    ∀ (i : Nat) name, segments[i]? = some (catchAll name) → i + 1 = segments.length := by
  constructor
  · intro h i name hi
    have hlt : i < segments.length := (List.getElem?_eq_some_iff.1 hi).1
    by_cases hlast : i < segments.length - 1
    · have hfront : segments.dropLast[i]? = some (catchAll name) := by
        rw [List.getElem?_dropLast, if_pos hlast, hi]
      exact absurd (List.mem_of_getElem? hfront) (h name)
    · omega
  · intro h name hmem
    obtain ⟨i, hi⟩ := List.mem_iff_getElem?.1 hmem
    rw [List.getElem?_dropLast] at hi
    split at hi
    · have hlast := h i name hi
      omega
    · cases hi

theorem CatchAllLast.tail {s : Segment} {segments : List Segment} (h : CatchAllLast (s :: segments)) :
    CatchAllLast segments := (catchAllLast_cons.1 h).2

theorem CatchAllLast.eq_nil {name : String} {segments : List Segment}
    (h : CatchAllLast (catchAll name :: segments)) : segments = [] := (catchAllLast_cons.1 h).1 name rfl

theorem distinctNames_concat {before : List Segment} {s : Segment} :
    DistinctNames (before ++ [s]) ↔ DistinctNames before ∧
      ∀ name, s.name? = some name → before.any (hasName name) = false := by
  have hany : ∀ name, before.any (hasName name) = false ↔
      ∀ m ∈ before.filterMap name?, sameText m name = false := by
    intro name
    simp only [List.any_eq_false, List.mem_filterMap, hasName, Option.any_eq_true, not_exists, not_and,
      Bool.not_eq_true]
    exact ⟨fun h m ⟨s, hs, hm⟩ => h s hs m hm, fun h s hs m hm => h m ⟨s, hs, hm⟩⟩
  simp only [DistinctNames, List.filterMap_append, List.pairwise_append, hany]
  cases hs : s.name? with
  | none => simp [hs]
  | some name => simp [hs]

/-- Pieces are read as legible segments that write them, with catch-alls and names in order. -/
theorem parseAll_eq_ok_iff {before : List Segment} (hbefore : DistinctNames before)
    {pieces : List (List Char)} {segments : List Segment} :
    parseAll before pieces = .ok segments ↔ ∃ read, segments = before ++ read ∧
      read.map (·.render.toList) = pieces ∧ (∀ s ∈ read, s.Legible) ∧ CatchAllLast read ∧
      DistinctNames (before ++ read) := by
  induction pieces generalizing before with
  | nil =>
    constructor
    · intro h
      cases h
      exact ⟨[], by simp, rfl, by simp, nofun, by simpa using hbefore⟩
    · rintro ⟨read, rfl, hmap, -⟩
      obtain rfl := List.map_eq_nil_iff.1 hmap
      rw [List.append_nil]
      rfl
  | cons piece rest ih =>
    rw [parseAll]
    constructor
    · intro h
      cases hs : parse before rest.isEmpty piece with
      | error e => simp only [hs, reduceCtorEq] at h
      | ok s =>
        simp only [hs] at h
        obtain ⟨hrender, hlegible, hlast, hnew⟩ := parse_eq_ok_iff.1 hs
        obtain ⟨read, rfl, hmap, hread, hcatch, hnames⟩ :=
          (ih (distinctNames_concat.2 ⟨hbefore, hnew⟩)).1 h
        refine ⟨s :: read, by simp, by rw [List.map_cons, hrender, hmap], ?_, ?_, by simpa using hnames⟩
        · exact List.forall_mem_cons.2 ⟨hlegible, hread⟩
        · refine catchAllLast_cons.2 ⟨fun name hname => ?_, hcatch⟩
          rw [List.isEmpty_iff.1 (hlast name hname)] at hmap
          exact List.map_eq_nil_iff.1 hmap
    · rintro ⟨read, rfl, hmap, hlegible, hcatch, hnames⟩
      obtain ⟨s, read, rfl, hrender, hmap⟩ := List.map_eq_cons_iff.1 hmap
      rw [List.append_cons] at hnames
      have hfront : DistinctNames (before ++ [s]) :=
        hnames.sublist ((List.sublist_append_left _ read).filterMap name?)
      have hs : parse before rest.isEmpty piece = .ok s := by
        refine parse_eq_ok_iff.2 ⟨hrender, hlegible s List.mem_cons_self, fun name hname => ?_,
          (distinctNames_concat.1 hfront).2⟩
        rw [← hmap, (catchAllLast_cons.1 hcatch).1 name hname]
        rfl
      rw [hs]
      exact (ih hfront).2 ⟨read, by simp, hmap, fun s' hs' => hlegible s' (List.mem_cons_of_mem s hs'),
        hcatch.tail, hnames⟩

end Segment

/-! ## Patterns -/

theorem not_mem_of_mem_pathPieces {path piece : List Char} (h : piece ∈ pathPieces path) :
    '/' ∉ piece := by
  unfold pathPieces at h
  split at h
  · exact nomatch h
  · exact Text.not_mem_of_mem_splitOn h

theorem intercalate_pathPieces (path : List Char) : ['/'].intercalate (pathPieces path) = path := by
  unfold pathPieces
  split
  · rename_i hempty
    rw [List.isEmpty_iff.1 hempty]
    rfl
  · exact List.intercalate_splitOn '/'

theorem pathPieces_intercalate {pieces : List (List Char)} (h : ∀ piece ∈ pieces, IsPiece piece) :
    pathPieces (['/'].intercalate pieces) = pieces := by
  cases pieces with
  | nil => rfl
  | cons piece rest =>
    have hpiece := h piece List.mem_cons_self
    have hne : ['/'].intercalate (piece :: rest) ≠ [] := by
      intro hnil
      have hhead := @Text.head?_intercalate_cons '/' piece hpiece.ne_nil rest
      rw [hnil] at hhead
      exact hpiece.ne_nil (List.head?_eq_none_iff.1 hhead.symm)
    rw [pathPieces, if_neg (by simpa using hne)]
    exact List.splitOn_intercalate '/' (fun x hx => (h x hx).no_slash) (List.cons_ne_nil piece rest)

namespace UrlPattern

variable {url : String} {p : UrlPattern}

theorem parse_eq_ok_iff : parse url = .ok p ↔
    p.segments.map (·.render.toList) = pathPieces (trimPathList url.toList) ∧
    (∀ s ∈ p.segments, s.Legible) ∧ Segment.CatchAllLast p.segments ∧
    Segment.DistinctNames p.segments := by
  have hread := @Segment.parseAll_eq_ok_iff [] .nil (pathPieces (trimPathList url.toList)) p.segments
  simp only [List.nil_append, exists_eq_left'] at hread
  rw [← hread, parse]
  obtain ⟨segments⟩ := p
  cases Segment.parseAll [] (pathPieces (trimPathList url.toList)) <;> simp

theorem render_of_parse (h : parse url = .ok p) :
    p.segments.map (·.render.toList) = pathPieces (trimPathList url.toList) := (parse_eq_ok_iff.1 h).1

theorem catchAllLast_of_parse (h : parse url = .ok p) : Segment.CatchAllLast p.segments :=
  (parse_eq_ok_iff.1 h).2.2.1

theorem literal_of_parse (h : parse url = .ok p) {text : String}
    (hmem : Segment.literal text ∈ p.segments) : IsPiece text.toList := by
  have hpiece : text.toList ∈ pathPieces (trimPathList url.toList) := by
    rw [← render_of_parse h]
    exact List.mem_map_of_mem (f := fun s : Segment => s.render.toList) hmem
  have hlegible : (Segment.literal text).Legible := (parse_eq_ok_iff.1 h).2.1 _ hmem
  exact ⟨hlegible.1, not_mem_of_mem_pathPieces hpiece⟩

end UrlPattern

end Routebook
