import Routebook.Proofs.Route.Notation

/-!
# The grammar of patterns

Which texts are patterns can be said of their pieces alone, without the segments that they are read as.

* `PieceForm` : the forms of a piece; `IsNotation` : the pieces of a pattern;
* `Segment.Legible.eq_of_render` : a piece is written by one legible segment at most;
* `isNotation_render_iff` : legible segments write such pieces just when their catch-alls and names are
  in order, and all such pieces are written by legible segments (`IsNotation.exists_segments`);
* `UrlPattern.Readable` : a pattern that is read again as it is written;
* `UrlPattern.parse_iff_notation` : just the texts with such pieces are read, each as the one readable
  pattern that writes it.
-/

namespace Routebook

open Text (sameText)
open Segment (isBrace CatchAllLast DistinctNames)

/-! ## Pieces -/

/-- The forms of a piece: a text without braces, a name between braces or, if the piece is the last, a name
between braces behind a star. -/
inductive PieceForm (last : Prop) : List Char → Prop
  | plain {text} (hne : text ≠ []) (h : ∀ c ∈ text, c ≠ '\x7b' ∧ c ≠ '\x7d') : PieceForm last text
  | param {name} (h : IsName name) : PieceForm last ('\x7b' :: (name ++ ['\x7d']))
  | catchAll {name} (hlast : last) (h : IsName name) :
      PieceForm last ('\x7b' :: '*' :: (name ++ ['\x7d']))

/-- The piece writes a parameter of this name, or a catch-all. -/
def WritesName (piece : List Char) (name : String) : Prop := IsName name.toList ∧
  (piece = '\x7b' :: (name.toList ++ ['\x7d']) ∨ piece = '\x7b' :: '*' :: (name.toList ++ ['\x7d']))

/-- The pieces of a pattern. Each has one of the forms, and no two names are the same up to case. -/
structure IsNotation (pieces : List (List Char)) : Prop where
  form : ∀ (i : Nat) piece, pieces[i]? = some piece → PieceForm (i + 1 = pieces.length) piece
  names : pieces.Pairwise fun a b => ∀ m n, WritesName a m → WritesName b n → sameText m n = false

namespace Segment

theorem isBrace_eq_false_iff {c : Char} : isBrace c = false ↔ c ≠ '\x7b' ∧ c ≠ '\x7d' := by
  simp [isBrace]

/-- Legible segments that write the same piece are the same, since the piece is read as each of them. -/
theorem Legible.eq_of_render {s u : Segment} (h : s.Legible) (hu : u.Legible)
    (heq : s.render.toList = u.render.toList) : s = u := by
  have hread : ∀ v : Segment, v.Legible → parse [] true v.render.toList = .ok v := fun v hv =>
    parse_eq_ok_iff.2 ⟨rfl, hv, fun _ _ => rfl, fun _ _ => rfl⟩
  have hs := hread s h
  rw [heq, hread u hu] at hs
  exact (Except.ok.inj hs).symm

theorem writesName_render_iff {s : Segment} (h : s.Legible) {name : String} :
    WritesName s.render.toList name ↔ s.name? = some name := by
  constructor
  · rintro ⟨hname, hpiece | hpiece⟩
    · rw [← toList_render_param] at hpiece
      rw [h.eq_of_render (u := param name) hname hpiece]
      rfl
    · rw [← toList_render_catchAll] at hpiece
      rw [h.eq_of_render (u := catchAll name) hname hpiece]
      rfl
  · intro hs
    cases s with
    | literal text => cases hs
    | param n =>
      cases hs
      exact ⟨h, .inl (toList_render_param name)⟩
    | catchAll n =>
      cases hs
      exact ⟨h, .inr (toList_render_catchAll name)⟩

theorem legible_param {name : List Char} (h : IsName name) : (param (String.ofList name)).Legible := by
  rw [Legible, String.toList_ofList]
  exact h

theorem legible_catchAll {name : List Char} (h : IsName name) :
    (catchAll (String.ofList name)).Legible := by
  rw [Legible, String.toList_ofList]
  exact h

theorem exists_legible {last : Prop} {piece : List Char} (h : PieceForm last piece) :
    ∃ s : Segment, s.Legible ∧ s.render.toList = piece := by
  cases h with
  | plain hne hplain =>
    refine ⟨literal (String.ofList piece), ?_, String.toList_ofList⟩
    rw [Legible, String.toList_ofList]
    exact ⟨hne, fun c hc => isBrace_eq_false_iff.2 (hplain c hc)⟩
  | param hname => exact ⟨_, legible_param hname, by simp⟩
  | catchAll _ hname => exact ⟨_, legible_catchAll hname, by simp⟩

/-- The piece of a legible segment has one of the forms, except that of a catch-all that is not the last. -/
theorem Legible.pieceForm_iff {s : Segment} (h : s.Legible) {last : Prop} :
    PieceForm last s.render.toList ↔ ∀ name, s = catchAll name → last := by
  constructor
  · generalize hpiece : s.render.toList = piece
    rintro hform name rfl
    cases hform with
    | plain _ hplain =>
      rw [← hpiece, toList_render_catchAll] at hplain
      exact absurd rfl (hplain '\x7b' List.mem_cons_self).1
    | param hname =>
      have heq := h.eq_of_render (legible_param hname) (by rw [hpiece]; simp)
      cases heq
    | catchAll hlast _ => exact hlast
  · intro hlast
    cases s with
    | literal text => exact .plain h.1 fun c hc => isBrace_eq_false_iff.1 (h.2 c hc)
    | param name =>
      rw [toList_render_param]
      exact .param h
    | catchAll name =>
      rw [toList_render_catchAll]
      exact .catchAll (hlast name rfl) h

end Segment

/-! ## Lists of pieces -/

theorem isNotation_render_iff {segments : List Segment} (h : ∀ s ∈ segments, s.Legible) :
    IsNotation (segments.map (·.render.toList)) ↔ CatchAllLast segments ∧ DistinctNames segments := by
  have hform : CatchAllLast segments ↔ ∀ (i : Nat) s, segments[i]? = some s →
      ∀ name, s = .catchAll name → i + 1 = segments.length := by
    rw [Segment.catchAllLast_iff_getElem?]
    constructor
    · rintro hlast i s hs name rfl
      exact hlast i name hs
    · intro hlast i name hs
      exact hlast i _ hs name rfl
  have hnames : DistinctNames segments ↔ (segments.map (·.render.toList)).Pairwise fun a b =>
      ∀ m n, WritesName a m → WritesName b n → sameText m n = false := by
    rw [DistinctNames, List.pairwise_filterMap, List.pairwise_map]
    apply List.Pairwise.iff_of_mem
    intro a b ha hb
    simp only [Segment.writesName_render_iff (h a ha), Segment.writesName_render_iff (h b hb)]
    exact ⟨fun hab m n hm hn => hab m hm n hn, fun hab m hm n hn => hab m n hm hn⟩
  rw [hform, hnames]
  constructor
  · intro hn
    refine ⟨fun i s hs => ?_, hn.names⟩
    have hpiece := hn.form i s.render.toList (by simp [hs])
    rw [List.length_map] at hpiece
    exact (h s (List.mem_of_getElem? hs)).pieceForm_iff.1 hpiece
  · rintro ⟨hlast, hdistinct⟩
    refine ⟨fun i piece hpiece => ?_, hdistinct⟩
    rw [List.getElem?_map, Option.map_eq_some_iff] at hpiece
    obtain ⟨s, hs, rfl⟩ := hpiece
    rw [List.length_map]
    exact (h s (List.mem_of_getElem? hs)).pieceForm_iff.2 (hlast i s hs)

theorem IsNotation.exists_segments {pieces : List (List Char)} (h : IsNotation pieces) :
    ∃ segments : List Segment, (∀ s ∈ segments, s.Legible) ∧ segments.map (·.render.toList) = pieces := by
  have heach : ∀ piece ∈ pieces, ∃ s : Segment, s.Legible ∧ s.render.toList = piece := by
    intro piece hpiece
    obtain ⟨i, hi⟩ := List.mem_iff_getElem?.1 hpiece
    exact Segment.exists_legible (h.form i piece hi)
  clear h
  induction pieces with
  | nil => exact ⟨[], by simp, rfl⟩
  | cons piece rest ih =>
    obtain ⟨s, hs, rfl⟩ := heach piece List.mem_cons_self
    obtain ⟨segments, hlegible, rfl⟩ := ih fun x hx => heach x (List.mem_cons_of_mem _ hx)
    exact ⟨s :: segments, List.forall_mem_cons.2 ⟨hs, hlegible⟩, rfl⟩

/-! ## Patterns -/

namespace UrlPattern

/-- A pattern that is read again as it is written. -/
structure Readable (p : UrlPattern) : Prop where
  legible : ∀ s ∈ p.segments, s.Legible
  no_slash : ∀ s ∈ p.segments, '/' ∉ s.render.toList
  catchAllLast : CatchAllLast p.segments
  distinct : DistinctNames p.segments

theorem parse_eq_ok_iff_readable {url : String} {p : UrlPattern} :
    parse url = .ok p ↔ p.Readable ∧ p.render = trimPath url := by
  rw [parse_eq_ok_iff, render, trimPath]
  constructor
  · rintro ⟨hmap, hlegible, hlast, hdistinct⟩
    refine ⟨⟨hlegible, fun s hs => ?_, hlast, hdistinct⟩, ?_⟩
    · have hpiece : s.render.toList ∈ pathPieces (trimPathList url.toList) := by
        rw [← hmap]
        exact List.mem_map_of_mem (f := fun s : Segment => s.render.toList) hs
      exact not_mem_of_mem_pathPieces hpiece
    · rw [hmap, intercalate_pathPieces]
  · rintro ⟨hp, hrender⟩
    have hpieces : ∀ piece ∈ p.segments.map (·.render.toList), IsPiece piece := by
      rw [List.forall_mem_map]
      exact fun s hs => ⟨(hp.legible s hs).render_ne_nil, hp.no_slash s hs⟩
    rw [← String.ofList_injective hrender, pathPieces_intercalate hpieces]
    exact ⟨rfl, hp.legible, hp.catchAllLast, hp.distinct⟩

/-- A text is read as a pattern just when nothing is left of it between the slashes at its ends, or its
pieces are those of a pattern. It is read as the one readable pattern whose notation it is, so writing
what was read gives the text again. -/
theorem parse_iff_notation (url : String) :
    ((∃ p, parse url = .ok p) ↔
      trimPath url = "" ∨ IsNotation (List.splitOn '/' (trimPath url).toList)) ∧
    ∀ p, parse url = .ok p ↔ p.Readable ∧ p.render = trimPath url := by
  refine ⟨?_, fun p => parse_eq_ok_iff_readable⟩
  simp only [parse_eq_ok_iff, trimPath, String.toList_ofList]
  generalize trimPathList url.toList = path
  by_cases hempty : path = []
  · subst hempty
    exact iff_of_true ⟨⟨[]⟩, rfl, by simp, nofun, .nil⟩ (.inl rfl)
  · have hne : String.ofList path ≠ "" := fun h => hempty (String.ofList_injective h)
    rw [pathPieces, if_neg (by simpa using hempty), or_iff_right hne]
    constructor
    · rintro ⟨p, hmap, hlegible, horder⟩
      rw [← hmap]
      exact (isNotation_render_iff hlegible).2 horder
    · intro hn
      obtain ⟨segments, hlegible, hmap⟩ := hn.exists_segments
      rw [← hmap] at hn
      exact ⟨⟨segments⟩, hmap, hlegible, (isNotation_render_iff hlegible).1 hn⟩

end UrlPattern

end Routebook
