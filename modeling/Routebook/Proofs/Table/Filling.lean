import Routebook.Proofs.Route.Trimming
import Routebook.Proofs.Table.Admission
import Routebook.Proofs.Table.Dispatch

/-!
# Paths made from a pattern

A pattern is filled in by putting a text in the place of each segment, up to a tail that is left out.
The slashes of the path that results stand between the texts and inside that of a catch-all only, so
splitting it gives each segment its text back.

* `IsTrimmed` : a text with no slash at either end;
* `Segment.Admits`, `Segment.Omittable` : which texts may stand for a segment, and which segments may
  be left out;
* `UrlPattern.Filling` : a pattern filled in; `Filling.path` is the path, `Filling.captures` what the
  texts stand for;
* `Filling.captures_pieces` : the pieces of the path give these captures;
* `RouteTable.route_filling` : the only entry of a table answers every path made from its pattern.
-/

namespace Routebook

open Text (sameText)

/-! ## Segments -/

/-- A text with no slash at either end. -/
structure IsTrimmed (s : List Char) : Prop where
  ne_nil : s ≠ []
  head : s.head? ≠ some '/'
  last : s.getLast? ≠ some '/'

instance (s : List Char) : Decidable (IsTrimmed s) :=
  decidable_of_iff (s ≠ [] ∧ s.head? ≠ some '/' ∧ s.getLast? ≠ some '/')
    ⟨fun h => ⟨h.1, h.2.1, h.2.2⟩, fun h => ⟨h.1, h.2, h.3⟩⟩

theorem IsPiece.isTrimmed {s : List Char} (h : IsPiece s) : IsTrimmed s where
  ne_nil := h.ne_nil
  head hhead := h.no_slash (List.mem_of_head? hhead)
  last hlast := h.no_slash (List.mem_of_getLast? hlast)

namespace Segment

/-- The texts that may stand for a segment: for a literal its own text in any case, for a parameter a
text without slashes, and for a catch-all a text with no slash at either end. -/
def Admits : Segment → String → Prop
  | literal s, text => sameText text s = true
  | param _, text => IsPiece text.toList
  | catchAll _, text => IsTrimmed text.toList

instance : (s : Segment) → (text : String) → Decidable (s.Admits text)
  | literal s, text => inferInstanceAs (Decidable (sameText text s = true))
  | param _, text => inferInstanceAs (Decidable (IsPiece text.toList))
  | catchAll _, text => inferInstanceAs (Decidable (IsTrimmed text.toList))

/-- The segment may be left out: a parameter that has a default, or a catch-all. -/
def Omittable (defaults : RouteValues) : Segment → Prop
  | literal _ => False
  | param name => defaults.contains name = true
  | catchAll _ => True

instance (defaults : RouteValues) : (s : Segment) → Decidable (s.Omittable defaults)
  | literal _ => inferInstanceAs (Decidable False)
  | param name => inferInstanceAs (Decidable (defaults.contains name = true))
  | catchAll _ => inferInstanceAs (Decidable True)

/-- What a segment takes from the text that stands for it. -/
def capture? : Segment → String → Option (String × RouteValue)
  | literal _, _ => none
  | param name, text => some (name, .ofText text)
  | catchAll name, text => some (name, .ofText text)

/-- What a segment that is left out takes: a catch-all without a default is marked as left out. -/
def omission? (defaults : RouteValues) : Segment → Option (String × RouteValue)
  | catchAll name => if defaults.contains name then none else some (name, .optional)
  | _ => none

theorem eq_slash_of_toLower {c : Char} (h : c.toLower = '/') : c = '/' := by
  unfold Char.toLower at h
  split at h
  -- a letter becomes a letter
  · rename_i hupper
    have hval := congrArg (fun c : Char => c.val.toNat) h
    have hlow := UInt32.le_iff_toNat_le.1 hupper.1
    have hhigh := UInt32.le_iff_toNat_le.1 hupper.2
    simp [UInt32.toNat_add] at hval hlow hhigh
    omega
  · exact h

theorem isPiece_of_sameText {s text : String} (hsame : sameText text s = true)
    (h : IsPiece s.toList) : IsPiece text.toList := by
  have hfold : text.toList.map Char.toLower = s.toList.map Char.toLower :=
    String.ofList_injective (Text.sameText_iff.1 hsame)
  constructor
  · intro hnil
    rw [hnil, List.map_nil] at hfold
    exact h.ne_nil (List.map_eq_nil_iff.1 hfold.symm)
  · intro hmem
    have hlower : '/' ∈ s.toList.map Char.toLower := by
      rw [← hfold]
      exact List.mem_map.2 ⟨'/', hmem, rfl⟩
    obtain ⟨c, hc, hslash⟩ := List.mem_map.1 hlower
    exact h.no_slash (eq_slash_of_toLower hslash ▸ hc)

theorem Admits.isTrimmed {s : Segment} {text : String} (h : s.Admits text)
    (hliteral : ∀ t, s = literal t → IsPiece t.toList) : IsTrimmed text.toList := by
  cases s with
  | literal t => exact (isPiece_of_sameText h (hliteral t rfl)).isTrimmed
  | param name => exact IsPiece.isTrimmed h
  | catchAll name => exact h

theorem captures_omitted {defaults : RouteValues} {omitted : List Segment}
    (hlast : CatchAllLast omitted) (h : ∀ s ∈ omitted, s.Omittable defaults) :
    Captures defaults omitted [] (omitted.filterMap (omission? defaults)) := by
  induction omitted with
  | nil => exact .done
  | cons s rest ih =>
    have hs := h s List.mem_cons_self
    have hrest := ih hlast.tail fun s' hs' => h s' (List.mem_cons_of_mem s hs')
    cases s with
    | literal text => exact hs.elim
    | param name => exact .missing hs hrest
    | catchAll name =>
      obtain rfl := hlast.eq_nil
      cases hd : defaults.contains name with
      | true =>
        simp only [List.filterMap_cons, omission?, hd, if_true, List.filterMap_nil]
        exact .default rfl hd
      | false =>
        simp only [List.filterMap_cons, omission?, hd, Bool.false_eq_true, if_false,
          List.filterMap_nil]
        exact .leftOut rfl hd

/-- The pieces of the texts that stand for segments give each segment its text. -/
theorem captures_given {defaults : RouteValues} {given : List (Segment × String)}
    {omitted : List Segment} (hlast : CatchAllLast (given.map Prod.fst ++ omitted))
    (hliteral : ∀ t, literal t ∈ given.map Prod.fst → IsPiece t.toList)
    (hgiven : ∀ g ∈ given, g.1.Admits g.2) (homitted : ∀ s ∈ omitted, s.Omittable defaults) :
    Captures defaults (given.map Prod.fst ++ omitted) (given.flatMap fun g => List.splitOn '/' g.2.toList)
      (given.filterMap (fun g => g.1.capture? g.2) ++ omitted.filterMap (omission? defaults)) := by
  induction given with
  | nil => exact captures_omitted hlast homitted
  | cons g rest ih =>
    have hrest := ih hlast.tail (fun t ht => hliteral t (List.mem_cons_of_mem _ ht))
      fun g' hg' => hgiven g' (List.mem_cons_of_mem g hg')
    obtain ⟨s, text⟩ := g
    have hs : s.Admits text := hgiven (s, text) List.mem_cons_self
    rw [List.flatMap_cons]
    cases s with
    | literal t =>
      have hpiece := isPiece_of_sameText hs (hliteral t List.mem_cons_self)
      rw [List.splitOn_eq_singleton hpiece.no_slash]
      refine .literal ?_ hrest
      rw [String.ofList_toList]
      exact hs
    | param name =>
      have hpiece : IsPiece text.toList := hs
      rw [List.splitOn_eq_singleton hpiece.no_slash]
      have hcaptures : Captures defaults (param name :: _) _ _ := .param hpiece.ne_nil hrest
      rw [String.ofList_toList] at hcaptures
      exact hcaptures
    | catchAll name =>
      -- nothing stands behind a catch-all, which takes its text back with the slashes in it
      obtain ⟨hnil, rfl⟩ := List.append_eq_nil_iff.1 hlast.eq_nil
      obtain rfl := List.map_eq_nil_iff.1 hnil
      have hjoin : ['/'].intercalate (List.splitOn '/' text.toList) = text.toList := List.intercalate_splitOn '/'
      have hne : ['/'].intercalate (List.splitOn '/' text.toList) ≠ [] := by
        rw [hjoin]
        exact IsTrimmed.ne_nil hs
      have hcaptures : Captures defaults [catchAll name] (List.splitOn '/' text.toList) _ := .rest hne
      rw [hjoin, String.ofList_toList] at hcaptures
      show Captures defaults [catchAll name] (List.splitOn '/' text.toList ++ []) [(name, .ofText text)]
      rw [List.append_nil]
      exact hcaptures

end Segment

/-! ## Patterns -/

/-- A pattern filled in: a text for each segment up to a tail that is left out. -/
structure UrlPattern.Filling (p : UrlPattern) (defaults : RouteValues) where
  given : List (Segment × String)
  omitted : List Segment
  split : given.map Prod.fst ++ omitted = p.segments
  admitted : ∀ g ∈ given, g.1.Admits g.2
  omittable : ∀ s ∈ omitted, s.Omittable defaults

namespace UrlPattern.Filling

variable {p : UrlPattern} {defaults : RouteValues} {url : String}

/-- The texts with slashes between them. -/
def joined (f : p.Filling defaults) : List Char := ['/'].intercalate (f.given.map fun g => g.2.toList)

/-- The path: a slash and the texts with slashes between them. -/
def path (f : p.Filling defaults) : String := String.ofList ('/' :: f.joined)

/-- What the segments take, in the order of the pattern. -/
def captures (f : p.Filling defaults) : List (String × RouteValue) :=
  f.given.filterMap (fun g => g.1.capture? g.2) ++ f.omitted.filterMap (Segment.omission? defaults)

/-- The defaults overlaid with what the segments take. -/
def values (f : p.Filling defaults) : RouteValues := defaults.insertMany f.captures

variable (f : p.Filling defaults)

theorem literal_given (hp : parse url = .ok p) {t : String}
    (h : Segment.literal t ∈ f.given.map Prod.fst) : IsPiece t.toList := by
  apply literal_of_parse hp
  rw [← f.split]
  exact List.mem_append_left _ h

theorem isTrimmed_given (hp : parse url = .ok p) {g : Segment × String} (hg : g ∈ f.given) :
    IsTrimmed g.2.toList :=
  (f.admitted g hg).isTrimmed fun _ ht => f.literal_given hp (ht ▸ List.mem_map_of_mem hg)

theorem joined_ends (hp : parse url = .ok p) :
    f.joined.head? ≠ some '/' ∧ f.joined.getLast? ≠ some '/' := by
  have hgiven : ∀ g ∈ f.given, IsTrimmed g.2.toList := fun g hg => f.isTrimmed_given hp hg
  unfold joined
  generalize f.given = given at hgiven
  induction given with
  | nil => simp [List.intercalate]
  | cons g rest ih =>
    have hg := hgiven g List.mem_cons_self
    cases rest with
    | nil =>
      rw [List.map_singleton, List.intercalate_singleton]
      exact ⟨hg.head, hg.last⟩
    | cons g' rest =>
      have hrest := ih fun x hx => hgiven x (List.mem_cons_of_mem g hx)
      have hg' := hgiven g' (List.mem_cons_of_mem g List.mem_cons_self)
      rw [List.map_cons, Text.head?_intercalate_cons hg.ne_nil, List.map_cons,
        Text.getLast?_intercalate_cons_cons hg'.ne_nil]
      exact ⟨hg.head, hrest.2⟩

/-- Splitting the path gives the pieces of the texts. -/
theorem pieces_path (hp : parse url = .ok p) :
    pathPieces (trimPathList f.path.toList) = f.given.flatMap fun g => List.splitOn '/' g.2.toList := by
  obtain ⟨hhead, hlast⟩ := f.joined_ends hp
  rw [path, String.toList_ofList, trimPathList_slash_cons, stripSlashes_eq_self hhead hlast, pathPieces]
  cases hgiven : f.given with
  | nil => rw [joined, hgiven]; rfl
  | cons g rest =>
    have hne := (f.isTrimmed_given hp (hgiven ▸ List.mem_cons_self)).ne_nil
    have hjoined : f.joined.isEmpty = false := by
      rw [List.isEmpty_eq_false_iff, joined, hgiven, List.map_cons]
      intro hnil
      have hfirst := @Text.head?_intercalate_cons '/' _ hne (rest.map fun g => g.2.toList)
      rw [hnil] at hfirst
      exact hne (List.head?_eq_none_iff.1 hfirst.symm)
    rw [hjoined, if_neg Bool.false_ne_true, joined, hgiven, Text.splitOn_intercalate, List.flatMap_map]
    exact List.cons_ne_nil _ _

/-- The pieces of the path give just what the texts stand for. -/
theorem captures_pieces (hp : parse url = .ok p) :
    Segment.Captures defaults p.segments (pathPieces (trimPathList f.path.toList)) f.captures := by
  have hlast := catchAllLast_of_parse hp
  rw [← f.split] at hlast ⊢
  rw [f.pieces_path hp]
  exact Segment.captures_given hlast (fun _ => f.literal_given hp) f.admitted f.omittable

end UrlPattern.Filling

/-! ## Tables -/

theorem Entry.takes_filling {e : Entry} {p : UrlPattern} (hp : UrlPattern.parse e.url = .ok p)
    (hnone : e.constraints = .empty) (f : p.Filling e.defaults) (method : String) :
    e.Takes ⟨method, f.path⟩ f.values where
  matches_path := ⟨p, f.captures, hp, f.captures_pieces hp, rfl⟩
  accepts key k hmem := by
    rw [hnone] at hmem
    exact nomatch hmem

namespace RouteTable

/-- An entry without constraints, in a table by itself, answers every path made from its pattern, for
every method, with its defaults overlaid with the texts that the path was made from. -/
theorem route_filling {e : Entry} {t : RouteTable} (h : RouteTable.empty.register e = .ok t)
    (hnone : e.constraints = .empty) : ∃ p, UrlPattern.parse e.url = .ok p ∧
      ∀ (f : p.Filling e.defaults) method, t.route method f.path = some ⟨e, f.values⟩ := by
  obtain ⟨-, r, hr, -⟩ := register_eq_ok_iff.1 h
  obtain ⟨⟨p, hp⟩, -⟩ := Route.exists_ofEntry_iff.1 ⟨r, hr⟩
  refine ⟨p, hp, fun f method => ?_⟩
  have hentries : t.entries = [] ++ e :: [] := entries_of_register h
  rw [(WellFormed.empty.register h).route_eq_some_iff]
  exact ⟨[], [], hentries, e.takes_filling hp hnone f method, fun _ hmem => nomatch hmem⟩

/-- A tilde in front of a pattern, a default under another spelling of a parameter's name, and a
catch-all: once all are given, and once the tail is left out. -/
theorem route_filling_files :
    let e : Entry := { name := "files", url := "~/files/\x7bid\x7d/\x7b*rest\x7d",
                       defaults := .ofList [("ID", .ofText "1")] }
    let t := RouteTable.empty.replay [.register e]
    RouteTable.empty.register e = .ok t ∧ e.constraints = .empty ∧
      t.route "PUT" "/FILES/7/a//b" =
        some ⟨e, .ofList [("ID", .ofText "7"), ("rest", .ofText "a//b")]⟩ ∧
      t.route "PUT" "/Files" = some ⟨e, .ofList [("ID", .ofText "1"), ("rest", .optional)]⟩ := by
  intro e t
  have hregister : RouteTable.empty.register e = .ok t := by dsimp only [t, e]; with_unfolding_all rfl
  obtain ⟨p, hp, hroute⟩ := route_filling hregister rfl
  have hread : UrlPattern.parse "~/files/\x7bid\x7d/\x7b*rest\x7d" =
      .ok ⟨[.literal "files", .param "id", .catchAll "rest"]⟩ := by with_unfolding_all rfl
  have hsegments : p.segments = [.literal "files", .param "id", .catchAll "rest"] := by
    cases hp.symm.trans hread
    rfl
  let full : p.Filling e.defaults :=
    { given := [(.literal "files", "FILES"), (.param "id", "7"), (.catchAll "rest", "a//b")]
      omitted := []
      split := hsegments.symm
      admitted := by decide
      omittable := by decide }
  let short : p.Filling e.defaults :=
    { given := [(.literal "files", "Files")]
      omitted := [.param "id", .catchAll "rest"]
      split := hsegments.symm
      admitted := by decide
      omittable := by decide }
  exact ⟨hregister, rfl, hroute full "PUT", hroute short "PUT"⟩

end RouteTable

end Routebook
