import Mathlib.Data.List.Forall2
import Routebook.Catalog.Decode
import Routebook.Proofs.Json.Keys

/-!
# Places of a document

A document is interpreted at places: the file, its owners, and what is written in them down to single
constraints. At each of them certain fields are known.

* `Place`, `Place.fields` : the places, and the fields that are known there;
* `Datum.Stands` : what stands at each place of a document;
* `Place.Decodes` : a document that is decoded is decoded at each of its places (`Datum.Stands.decodes`);
* `Datum.Stands.known` : so it has no unknown field, but for two places that pass such fields over.
-/

namespace Routebook

open Source

/-! ## Places -/

/-- The name of a kind of markers that say nothing else. -/
def exclusionKind : String := "non_action"

def MarkerDocument.fields : String → List String
  | "route" => ["url", "name", "verb", "defaults", "constraints"]
  | "verb" => ["verb"]
  | "accept_verbs" => ["verbs"]
  | "default" => ["name", "value"]
  | "optional" => ["name"]
  | "url_param" => ["name", "default", "optional", "constraint"]
  | "constraint" => ["name", "pattern", "matcher"]
  | _ => []

/-- Where a document is interpreted. -/
inductive Place where
  | file
  | owner
  | initializer
  | route
  | handler
  | marker (kind : String)
  /-- a value in an object of constraints -/
  | constraint

namespace Place

def fields : Place → List String
  | file => ["owners"]
  | owner => ["name", "initializers", "handlers"]
  | initializer => ["name", "routes"]
  | route => ["name", "url", "defaults", "optional", "constraints", "verbs"]
  | handler => ["name", "markers"]
  | marker kind => Datum.kindKey :: MarkerDocument.fields kind
  | constraint => ["matcher"]

/-- Unknown fields are not passed over: the place is neither an exclusion nor a constraint. -/
def Strict : Place → Prop
  | marker kind => kind ≠ exclusionKind
  | constraint => False
  | _ => True

end Place

namespace Datum

/-- The value of a field: what stands under its name, or in a list what stands in its place. -/
inductive Under (names : List String) (name : String) : Datum → Datum → Prop
  | member {entries : List (Datum × Datum)} {v : Datum} (hmem : (.str name, v) ∈ entries) :
      Under names name (.map entries) v
  | item {items : List Datum} {v : Datum} {i : Nat} (hname : names[i]? = some name)
      (hitem : items[i]? = some v) : Under names name (.seq items) v

/-- The kind of a marker. -/
inductive HasKind (kind : String) : Datum → Prop
  | member {entries : List (Datum × Datum)} (hmem : (.str kindKey, .str kind) ∈ entries) :
      HasKind kind (.map entries)
  | item {rest : List Datum} : HasKind kind (.seq (.str kind :: rest))

/-- What stands at the places of a document. -/
inductive Stands (document : Datum) : Place → Datum → Prop
  | file : Stands document .file document
  | owner {d v : Datum} {items : List Datum} (h : Stands document .file d)
      (hitems : d.Under Place.file.fields "owners" (.seq items)) (hv : v ∈ items) :
      Stands document .owner v
  | initializer {d v : Datum} {items : List Datum} (h : Stands document .owner d)
      (hitems : d.Under Place.owner.fields "initializers" (.seq items)) (hv : v ∈ items) :
      Stands document .initializer v
  | route {d v : Datum} {items : List Datum} (h : Stands document .initializer d)
      (hitems : d.Under Place.initializer.fields "routes" (.seq items)) (hv : v ∈ items) :
      Stands document .route v
  | handler {d v : Datum} {items : List Datum} (h : Stands document .owner d)
      (hitems : d.Under Place.owner.fields "handlers" (.seq items)) (hv : v ∈ items) :
      Stands document .handler v
  | marker {d v : Datum} {items : List Datum} {kind : String} (h : Stands document .handler d)
      (hitems : d.Under Place.handler.fields "markers" (.seq items)) (hv : v ∈ items)
      (hkind : v.HasKind kind) : Stands document (.marker kind) v
  /-- A route and a marker that declares one have an object of constraints. -/
  | constraint {place : Place} {d : Datum} {entries : List (Datum × Datum)} {e : Datum × Datum}
      (hplace : place = .route ∨ place = .marker "route") (h : Stands document place d)
      (hentries : d.Under place.fields "constraints" (.map entries)) (he : e ∈ entries) :
      Stands document .constraint e.2

end Datum

/-! ## Records -/

theorem forall₂_of_mapM {α β : Type} {f : α → Option β} {as : List α} {bs : List β}
    (h : as.mapM f = some bs) : List.Forall₂ (fun a b => f a = some b) as bs := by
  induction as generalizing bs with
  | nil =>
    cases h
    exact .nil
  | cons a rest ih =>
    rw [List.mapM_cons] at h
    obtain ⟨b, hb, h⟩ := Option.bind_eq_some_iff.1 h
    obtain ⟨bs', hbs', h⟩ := Option.bind_eq_some_iff.1 h
    cases h
    exact .cons hb (ih hbs')

theorem exists_related {α β : Type} {R : α → β → Prop} {as : List α} {bs : List β}
    (h : List.Forall₂ R as bs) {a : α} (ha : a ∈ as) : ∃ b ∈ bs, R a b := by
  induction h with
  | nil => cases ha
  | @cons a' b' as' bs' hab _ ih =>
    rcases List.mem_cons.1 ha with rfl | ha
    · exact ⟨b', List.mem_cons_self, hab⟩
    · obtain ⟨b, hb, hR⟩ := ih ha
      exact ⟨b, List.mem_cons_of_mem b' hb, hR⟩

theorem exists_mem_of_mapM {α β : Type} {f : α → Option β} {as : List α} {bs : List β}
    (h : as.mapM f = some bs) {a : α} (ha : a ∈ as) : ∃ b ∈ bs, f a = some b :=
  exists_related (forall₂_of_mapM h) ha

theorem exists_mem_of_mem_mapM {α β : Type} {f : α → Option β} {as : List α} {bs : List β}
    (h : as.mapM f = some bs) {b : β} (hb : b ∈ bs) : ∃ a ∈ as, f a = some b := by
  have hflipped : List.Forall₂ (fun b a => f a = some b) bs as := (forall₂_of_mapM h).flip
  exact exists_related hflipped hb

namespace Source

theorem field?_of_mem {name : String} {v : Datum} : ∀ {fields : List (String × Datum)},
    distinct fields = true → (name, v) ∈ fields → field? name fields = some v
  | f :: rest, hdistinct, hmem => by
    rw [distinct, Bool.and_eq_true] at hdistinct
    obtain ⟨hnew, hrest⟩ := hdistinct
    rcases List.mem_cons.1 hmem with rfl | hmem
    · simp [field?]
    · have hne : f.1 ≠ name := by
        rintro rfl
        have hany : rest.any (fun g => g.1 == f.1) = true :=
          List.any_eq_true.2 ⟨_, hmem, beq_self_eq_true _⟩
        rw [hany] at hnew
        cases hnew
      have hfield := field?_of_mem hrest hmem
      unfold field? at hfield ⊢
      rw [List.find?_cons_of_neg (by simpa using hne), hfield]

variable {names : List String} {name : String} {d v : Datum} {fields : List (String × Datum)}

theorem record?_eq_some_iff : record? names d = some fields ↔ d.fields? names = some fields ∧
    (∀ f ∈ fields, f.1 ∈ names) ∧ distinct fields = true := by
  have hfields : Source.fields? names d = d.fields? names := rfl
  rw [record?, hfields]
  cases d.fields? names with
  | none => simp
  | some found =>
    by_cases hknown : (found.all (fun f => names.contains f.1) && distinct found) = true
    · have hparts := hknown
      rw [Bool.and_eq_true, List.all_eq_true] at hparts
      simp only [hknown, if_true, Option.some.injEq]
      constructor
      · rintro rfl
        exact ⟨rfl, fun f hf => List.contains_iff_mem.1 (hparts.1 f hf), hparts.2⟩
      · exact fun h => h.1
    · simp only [hknown, Bool.false_eq_true, if_false]
      refine iff_of_false nofun ?_
      rintro ⟨hfound, hnames, hdistinct⟩
      cases hfound
      apply hknown
      rw [Bool.and_eq_true, List.all_eq_true]
      exact ⟨fun f hf => List.contains_iff_mem.2 (hnames f hf), hdistinct⟩

theorem field?_of_under (hr : record? names d = some fields) (hv : d.Under names name v) :
    field? name fields = some v := by
  obtain ⟨hfields, -, hdistinct⟩ := record?_eq_some_iff.1 hr
  apply field?_of_mem hdistinct
  cases hv with
  | member hmem =>
    obtain ⟨f, hf, h⟩ := exists_mem_of_mapM hfields hmem
    cases h
    exact hf
  | @item items _ i hname hitem =>
    rw [Datum.fields?] at hfields
    split at hfields
    · cases hfields
      refine List.mem_of_getElem? (i := i) ?_
      simp [List.getElem?_zip_eq_some, hname, hitem]
    · cases hfields

theorem exists_of_listOf {α : Type} {decode? : Datum → Option α} {absent l : List α} {items : List Datum}
    (hr : record? names d = some fields) (hitems : d.Under names name (.seq items))
    (hl : optional? (listOf? decode?) absent name fields = some l) :
    ∀ w ∈ items, ∃ a, decode? w = some a := by
  intro w hw
  rw [optional?, field?_of_under hr hitems] at hl
  have hmapM : items.mapM decode? = some l := hl
  obtain ⟨a, -, ha⟩ := exists_mem_of_mapM hmapM hw
  exact ⟨a, ha⟩

end Source

/-! ## Decoding at every place -/

theorem CatalogDocument.exists_record {d : Datum} {r : CatalogDocument} (h : decode? d = some r) :
    ∃ fields, record? Place.file.fields d = some fields ∧
      optional? (listOf? OwnerDocument.decode?) [] "owners" fields = some r.owners := by
  obtain ⟨fields, hr, h⟩ := Option.bind_eq_some_iff.1 h
  obtain ⟨owners, howners, h⟩ := Option.bind_eq_some_iff.1 h
  cases h
  exact ⟨fields, hr, howners⟩

theorem OwnerDocument.exists_record {d : Datum} {r : OwnerDocument} (h : decode? d = some r) :
    ∃ fields, record? Place.owner.fields d = some fields ∧
      optional? (listOf? InitializerDocument.decode?) [] "initializers" fields = some r.initializers ∧
      optional? (listOf? HandlerDocument.decode?) [] "handlers" fields = some r.handlers := by
  obtain ⟨fields, hr, h⟩ := Option.bind_eq_some_iff.1 h
  obtain ⟨name, -, h⟩ := Option.bind_eq_some_iff.1 h
  obtain ⟨initializers, hinitializers, h⟩ := Option.bind_eq_some_iff.1 h
  obtain ⟨handlers, hhandlers, h⟩ := Option.bind_eq_some_iff.1 h
  cases h
  exact ⟨fields, hr, hinitializers, hhandlers⟩

theorem InitializerDocument.exists_record {d : Datum} {r : InitializerDocument} (h : decode? d = some r) :
    ∃ fields, record? Place.initializer.fields d = some fields ∧
      optional? (listOf? RouteDocument.decode?) [] "routes" fields = some r.routes := by
  obtain ⟨fields, hr, h⟩ := Option.bind_eq_some_iff.1 h
  obtain ⟨name, -, h⟩ := Option.bind_eq_some_iff.1 h
  obtain ⟨routes, hroutes, h⟩ := Option.bind_eq_some_iff.1 h
  cases h
  exact ⟨fields, hr, hroutes⟩

theorem HandlerDocument.exists_record {d : Datum} {r : HandlerDocument} (h : decode? d = some r) :
    ∃ fields, record? Place.handler.fields d = some fields ∧
      optional? (listOf? MarkerDocument.decode?) [] "markers" fields = some r.markers := by
  obtain ⟨fields, hr, h⟩ := Option.bind_eq_some_iff.1 h
  obtain ⟨name, -, h⟩ := Option.bind_eq_some_iff.1 h
  obtain ⟨markers, hmarkers, h⟩ := Option.bind_eq_some_iff.1 h
  cases h
  exact ⟨fields, hr, hmarkers⟩

/-- The kind of a marker that is decoded is the one that it is decoded by. -/
theorem MarkerDocument.exists_ofTagged {d : Datum} {m : MarkerDocument} {kind : String}
    (h : decode? d = some m) (hkind : d.HasKind kind) :
    ∃ rest, d.tagged? = some (kind, rest) ∧ ofTagged? kind rest = some m := by
  obtain ⟨⟨kind', rest⟩, htagged, hm⟩ := Option.bind_eq_some_iff.1 h
  suffices kind' = kind by
    subst this
    exact ⟨rest, htagged, hm⟩
  change d.tagged? = some (kind', rest) at htagged
  unfold Datum.tagged? at htagged
  cases hkind with
  | @member entries hmem =>
    dsimp only at htagged
    split at htagged
    · rename_i key kind'' hfilter
      cases htagged
      have hin : (Datum.str Datum.kindKey, Datum.str kind) ∈ entries.filter fun e => Datum.isKindKey e.1 :=
        List.mem_filter.2 ⟨hmem, by simp [Datum.isKindKey]⟩
      rw [hfilter, List.mem_singleton] at hin
      cases hin
      rfl
    · cases htagged
  | item =>
    cases htagged
    rfl

/-- Every kind but that of exclusions makes a record of the rest. -/
theorem MarkerDocument.exists_record {kind : String} {rest : Datum} {m : MarkerDocument}
    (h : ofTagged? kind rest = some m) (hkind : kind ≠ exclusionKind) :
    ∃ fields, record? (MarkerDocument.fields kind) rest = some fields := by
  unfold ofTagged? at h
  split at h
  case h_4 => exact absurd rfl hkind
  case h_9 => cases h
  all_goals
    obtain ⟨fields, hr, -⟩ := Option.bind_eq_some_iff.1 h
    exact ⟨fields, hr⟩

/-- What stands at a place is decoded as the place requires. -/
def Place.Decodes : Place → Datum → Prop
  | file, d => ∃ r : CatalogDocument, CatalogDocument.decode? d = some r
  | owner, d => ∃ r : OwnerDocument, OwnerDocument.decode? d = some r
  | initializer, d => ∃ r : InitializerDocument, InitializerDocument.decode? d = some r
  | route, d => ∃ r : RouteDocument, RouteDocument.decode? d = some r
  | handler, d => ∃ r : HandlerDocument, HandlerDocument.decode? d = some r
  | marker kind, d => d.HasKind kind ∧ ∃ m : MarkerDocument, MarkerDocument.decode? d = some m
  | constraint, _ => True

namespace Datum

variable {document d : Datum} {place : Place}

/-- A document that is decoded is decoded at each of its places. -/
theorem Stands.decodes (h : document.Stands place d) {r : CatalogDocument}
    (hr : CatalogDocument.decode? document = some r) : place.Decodes d := by
  induction h with
  | file => exact ⟨r, hr⟩
  | owner _ hitems hv ih =>
    obtain ⟨r, hr⟩ := ih
    obtain ⟨fields, hf, hl⟩ := CatalogDocument.exists_record hr
    exact exists_of_listOf hf hitems hl _ hv
  | initializer _ hitems hv ih =>
    obtain ⟨r, hr⟩ := ih
    obtain ⟨fields, hf, hl, -⟩ := OwnerDocument.exists_record hr
    exact exists_of_listOf hf hitems hl _ hv
  | route _ hitems hv ih =>
    obtain ⟨r, hr⟩ := ih
    obtain ⟨fields, hf, hl⟩ := InitializerDocument.exists_record hr
    exact exists_of_listOf hf hitems hl _ hv
  | handler _ hitems hv ih =>
    obtain ⟨r, hr⟩ := ih
    obtain ⟨fields, hf, -, hl⟩ := OwnerDocument.exists_record hr
    exact exists_of_listOf hf hitems hl _ hv
  | marker _ hitems hv hkind ih =>
    obtain ⟨r, hr⟩ := ih
    obtain ⟨fields, hf, hl⟩ := HandlerDocument.exists_record hr
    exact ⟨hkind, exists_of_listOf hf hitems hl _ hv⟩
  | constraint => trivial

theorem Under.keyed {names : List String} {name : String} {v : Datum} (h : d.Under names name v)
    (hd : d.Keyed) : v.Keyed := by
  cases h with
  | member hmem => exact hd.of_mem_map _ hmem
  | item _ hitem => exact hd.of_mem_seq _ (List.mem_of_getElem? hitem)

theorem Stands.keyed (h : document.Stands place d) (hdocument : document.Keyed) : d.Keyed := by
  induction h with
  | file => exact hdocument
  | owner _ hitems hv ih => exact (hitems.keyed ih).of_mem_seq _ hv
  | initializer _ hitems hv ih => exact (hitems.keyed ih).of_mem_seq _ hv
  | route _ hitems hv ih => exact (hitems.keyed ih).of_mem_seq _ hv
  | handler _ hitems hv ih => exact (hitems.keyed ih).of_mem_seq _ hv
  | marker _ hitems hv _ ih => exact (hitems.keyed ih).of_mem_seq _ hv
  | constraint _ _ hentries he ih => exact (hentries.keyed ih).of_mem_map _ he

end Datum

/-! ## Known fields -/

/-- The key is a field that is known at the place. -/
def Place.Knows (place : Place) (key : Datum) : Prop := ∃ name ∈ place.fields, key = .str name

namespace Datum

variable {document : Datum} {place : Place} {entries : List (Datum × Datum)}

theorem known_of_record {names : List String} {fields : List (String × Datum)}
    (hkeyed : (Datum.map entries).Keyed) (hr : record? names (Datum.map entries) = some fields) :
    ∀ e ∈ entries, ∃ name ∈ names, e.1 = .str name := by
  intro e he
  obtain ⟨hfields, hnames, -⟩ := record?_eq_some_iff.1 hr
  obtain ⟨s, hs⟩ := hkeyed.key_of_mem e he
  obtain ⟨f, hf, hread⟩ := exists_mem_of_mapM hfields he
  rw [hs, fieldName?, Option.map_some, Option.some.injEq] at hread
  refine ⟨s, ?_, hs⟩
  rw [← hread] at hf
  exact hnames _ hf

theorem eq_kindKey_of_isKindKey {key : Datum} (h : isKindKey key = true) : key = .str kindKey := by
  cases key with
  | str s => rw [beq_iff_eq.1 h]
  | _ => cases h

/-- A marker of any kind but an exclusion knows all its keys: the one of its kind, and those of its record. -/
theorem known_of_marker {kind : String} {m : MarkerDocument} (hkeyed : (Datum.map entries).Keyed)
    (hm : MarkerDocument.decode? (Datum.map entries) = some m) (hkind : (Datum.map entries).HasKind kind)
    (hstrict : kind ≠ exclusionKind) : ∀ e ∈ entries, (Place.marker kind).Knows e.1 := by
  obtain ⟨rest, htagged, hrest⟩ := MarkerDocument.exists_ofTagged hm hkind
  obtain ⟨fields, hr⟩ := MarkerDocument.exists_record hrest hstrict
  obtain rfl : rest = .map (entries.filter fun e => !isKindKey e.1) := by
    unfold tagged? at htagged
    dsimp only at htagged
    split at htagged <;> cases htagged
    rfl
  have hrestKeyed : (Datum.map (entries.filter fun e => !isKindKey e.1)).Keyed :=
    hkeyed.of_subset (List.filter_subset_self _)
  intro e he
  cases hkey : isKindKey e.1 with
  | true => exact ⟨kindKey, List.mem_cons_self, eq_kindKey_of_isKindKey hkey⟩
  | false =>
    have hin : e ∈ entries.filter fun e => !isKindKey e.1 := List.mem_filter.2 ⟨he, by rw [hkey]; rfl⟩
    obtain ⟨name, hname, heq⟩ := known_of_record hrestKeyed hr e hin
    exact ⟨name, List.mem_cons_of_mem kindKey hname, heq⟩

/-- An object in a document that is decoded has no unknown key, unless it is an exclusion or a constraint. -/
theorem Stands.known (h : document.Stands place (.map entries)) (hdocument : document.Keyed)
    {r : CatalogDocument} (hr : CatalogDocument.decode? document = some r) (hstrict : place.Strict) :
    ∀ e ∈ entries, place.Knows e.1 := by
  have hkeyed := h.keyed hdocument
  have hdecodes := h.decodes hr
  cases place with
  | file =>
    obtain ⟨r, hr⟩ := hdecodes
    obtain ⟨fields, hf, -⟩ := CatalogDocument.exists_record hr
    exact known_of_record hkeyed hf
  | owner =>
    obtain ⟨r, hr⟩ := hdecodes
    obtain ⟨fields, hf, -⟩ := OwnerDocument.exists_record hr
    exact known_of_record hkeyed hf
  | initializer =>
    obtain ⟨r, hr⟩ := hdecodes
    obtain ⟨fields, hf, -⟩ := InitializerDocument.exists_record hr
    exact known_of_record hkeyed hf
  | route =>
    obtain ⟨r, hr⟩ := hdecodes
    obtain ⟨fields, hf, -⟩ := Option.bind_eq_some_iff.1 hr
    exact known_of_record hkeyed hf
  | handler =>
    obtain ⟨r, hr⟩ := hdecodes
    obtain ⟨fields, hf, -⟩ := HandlerDocument.exists_record hr
    exact known_of_record hkeyed hf
  | marker kind =>
    obtain ⟨hkind, m, hm⟩ := hdecodes
    exact known_of_marker hkeyed hm hkind hstrict
  | constraint => cases hstrict

end Datum

end Routebook
