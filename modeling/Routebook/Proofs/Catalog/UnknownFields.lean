import Mathlib.Data.List.Permutation
import Routebook.Catalog.Text
import Routebook.Proofs.Catalog.PassedOver

/-!
# Unknown fields

A JSON text with an unknown field is refused, but for exclusions and constraints, where what is
unknown is passed over.

* `Datum.Stands.bare` : a bare document is bare at every place;
* `Datum.known_iff_bare` : a document that is decoded is bare just when all its keys are known;
* `Catalog.parse_unknown_fields` : which texts are refused for their unknown fields, and what becomes of
  the others.
-/

namespace Routebook

open Source

theorem Place.knows_iff {place : Place} {name : String} {key : Datum} (hfields : place.fields = [name]) :
    place.Knows key ↔ key = .str name := by
  rw [Place.Knows, hfields]
  simp only [List.mem_singleton, exists_eq_left]

namespace Datum

/-! ## What is left as it is -/

variable {names : List String} {name : String} {change : String → Datum → Datum} {f : Datum → Datum}
  {d v : Datum}

theorem changeItems_eq_self_iff : ∀ {names : List String} {items : List Datum},
    changeItems change names items = items ↔
      ∀ (i : Nat) (name : String) (v : Datum), names[i]? = some name → items[i]? = some v →
        change name v = v
  | [], items => by simp [changeItems]
  | name :: names, [] => by simp [changeItems]
  | name :: names, v :: items => by
    rw [changeItems, List.cons.injEq, changeItems_eq_self_iff]
    constructor
    · rintro ⟨hv, hitems⟩ i name' v' hname hv'
      cases i with
      | zero =>
        cases hname
        cases hv'
        exact hv
      | succ i => exact hitems i name' v' hname hv'
    · exact fun h => ⟨h 0 name v rfl rfl, fun i => h (i + 1)⟩

theorem changeFields_eq_self_iff :
    changeFields names change d = d ↔ ∀ name v, d.Under names name v → change name v = v := by
  cases d with
  | map entries =>
    have hmap : entries.map (changeEntry change) = entries ↔ ∀ e ∈ entries, changeEntry change e = e := by
      rw [← List.map_inj_left, List.map_id']
    rw [changeFields, map.injEq, hmap]
    constructor
    · intro h name v hv
      cases hv with
      | member hmem => exact congrArg Prod.snd (h _ hmem)
    · rintro h ⟨k, v⟩ he
      cases k with
      | str name => simp only [changeEntry, h name v (.member he)]
      | _ => rfl
  | seq items =>
    rw [changeFields, seq.injEq, changeItems_eq_self_iff]
    constructor
    · intro h name v hv
      cases hv with
      | item hname hitem => exact h _ _ _ hname hitem
    · exact fun h i name v hname hv => h name v (.item hname hv)
  | _ =>
    refine iff_of_true rfl ?_
    intro name v hv
    cases hv

theorem mapItems_eq_self_iff :
    d.mapItems f = d ↔ ∀ items, d = .seq items → ∀ w ∈ items, f w = w := by
  cases d with
  | seq items =>
    rw [mapItems, seq.injEq]
    have hmap : items.map f = items ↔ ∀ w ∈ items, f w = w := by
      rw [← List.map_inj_left, List.map_id']
    rw [hmap]
    constructor
    · rintro h _ ⟨⟩
      exact h
    · exact fun h => h items rfl
  | _ =>
    refine iff_of_true rfl ?_
    rintro _ ⟨⟩

theorem mapValues_eq_self_iff :
    d.mapValues f = d ↔ ∀ entries, d = .map entries → ∀ e ∈ entries, f e.2 = e.2 := by
  cases d with
  | map entries =>
    rw [mapValues, map.injEq]
    have hmap : entries.map (fun e => (e.1, f e.2)) = entries ↔ ∀ e ∈ entries, (e.1, f e.2) = e := by
      rw [← List.map_inj_left, List.map_id']
    rw [hmap]
    constructor
    · rintro h _ ⟨⟩ e he
      exact congrArg Prod.snd (h e he)
    · exact fun h e he => Prod.ext rfl (h entries rfl e he)
  | _ =>
    refine iff_of_true rfl ?_
    rintro _ ⟨⟩

theorem restrict_eq_self_iff :
    restrict name d = d ↔ ∀ entries, d = .map entries → ∀ e ∈ entries, e.1 = .str name := by
  cases d with
  | map entries =>
    rw [restrict, map.injEq, List.filter_eq_self]
    have hkey : ∀ e : Datum × Datum, (e.1.text? == some name) = true ↔ e.1 = .str name := by
      rintro ⟨k, v⟩
      cases k <;> simp [text?]
    simp only [hkey]
    constructor
    · rintro h _ ⟨⟩
      exact h
    · exact fun h => h entries rfl
  | _ =>
    refine iff_of_true rfl ?_
    rintro _ ⟨⟩

theorem item_of_changeFields {items : List Datum} (h : changeFields names change d = d)
    (hitems : d.Under names name (.seq items)) (hchange : change name = mapItems f) :
    ∀ w ∈ items, f w = w := by
  have hfield := changeFields_eq_self_iff.1 h _ _ hitems
  rw [hchange] at hfield
  exact mapItems_eq_self_iff.1 hfield _ rfl

theorem changeFields_mapItems_eq_self {field : String}
    (h : ∀ items, d.Under names field (.seq items) → ∀ w ∈ items, f w = w) :
    changeFields names (fun name => if name = field then mapItems f else id) d = d := by
  refine changeFields_eq_self_iff.2 ?_
  intro name v hv
  by_cases hname : name = field
  · subst hname
    rw [if_pos rfl]
    refine mapItems_eq_self_iff.2 ?_
    rintro items rfl
    exact h items hv
  · rw [if_neg hname, id]

/-! ## Bare documents -/

variable {document : Datum} {place : Place} {r : CatalogDocument}

theorem changeFields_of_bareMarker {m : MarkerDocument} (h : d.bareMarker = d)
    (hm : MarkerDocument.decode? d = some m) (hkind : d.HasKind "route") :
    changeFields (Place.marker "route").fields bareConstraints d = d := by
  obtain ⟨rest, htagged, -⟩ := MarkerDocument.exists_ofTagged hm hkind
  rw [bareMarker, htagged] at h
  exact h

theorem Stands.bare (h : document.Stands place d) (hr : CatalogDocument.decode? document = some r)
    (hbare : document.bare = document) : place.bare d = d := by
  induction h with
  | file => exact hbare
  | owner _ hitems hv ih => exact item_of_changeFields ih hitems rfl _ hv
  | initializer _ hitems hv ih => exact item_of_changeFields ih hitems rfl _ hv
  | route _ hitems hv ih => exact item_of_changeFields ih hitems rfl _ hv
  | handler _ hitems hv ih => exact item_of_changeFields ih hitems rfl _ hv
  | marker _ hitems hv _ ih => exact item_of_changeFields ih hitems rfl _ hv
  | @constraint place d entries e hplace h hentries he ih =>
    have hroute : changeFields place.fields bareConstraints d = d := by
      rcases hplace with rfl | rfl
      · exact ih
      · -- What is left of a marker depends on its kind, which its decoding settles.
        obtain ⟨hkind, m, hm⟩ := h.decodes hr
        exact changeFields_of_bareMarker ih hm hkind
    have hvalues : mapValues (restrict "matcher") (.map entries) = .map entries :=
      changeFields_eq_self_iff.1 hroute _ _ hentries
    exact mapValues_eq_self_iff.1 hvalues _ rfl _ he

theorem hasKind_of_tagged? {kind : String} {rest : Datum} (h : d.tagged? = some (kind, rest)) :
    d.HasKind kind := by
  unfold tagged? at h
  split at h
  · rename_i entries
    split at h
    · rename_i key kind' hfilter
      cases h
      have hin : (key, Datum.str kind) ∈ entries.filter fun e => isKindKey e.1 := by
        rw [hfilter]
        exact List.mem_cons_self
      obtain ⟨hmem, hkey⟩ := List.mem_filter.1 hin
      obtain rfl : key = .str kindKey := eq_kindKey_of_isKindKey hkey
      exact .member hmem
    · cases h
  · cases h
    exact .item
  · cases h

section

variable (hknown : ∀ place entries, document.Stands place (.map entries) →
  ∀ e ∈ entries, place.Knows e.1)
include hknown

theorem restrict_eq_self (hfields : place.fields = [name]) (h : document.Stands place d) :
    restrict name d = d := by
  refine restrict_eq_self_iff.2 ?_
  rintro entries rfl e he
  exact (Place.knows_iff hfields).1 (hknown _ _ h e he)

theorem changeFields_bareConstraints_eq_self (hplace : place = .route ∨ place = .marker "route")
    (h : document.Stands place d) : changeFields place.fields bareConstraints d = d := by
  refine changeFields_eq_self_iff.2 ?_
  intro name v hv
  by_cases hname : name = "constraints"
  · subst hname
    refine mapValues_eq_self_iff.2 ?_
    rintro entries rfl e he
    exact restrict_eq_self hknown rfl (.constraint hplace h hv he)
  · rw [bareConstraints, if_neg hname, id]

theorem bareInitializer_eq_self (h : document.Stands .initializer d) : d.bareInitializer = d :=
  changeFields_mapItems_eq_self fun _ hitems _ hw =>
    changeFields_bareConstraints_eq_self hknown (.inl rfl) (.route h hitems hw)

theorem bareMarker_eq_self (h : ∀ kind, d.HasKind kind → document.Stands (.marker kind) d) :
    d.bareMarker = d := by
  unfold bareMarker
  split
  · rename_i kind rest htagged
    have hstands := h kind (hasKind_of_tagged? htagged)
    split
    · rename_i hroute
      subst hroute
      exact changeFields_bareConstraints_eq_self hknown (.inr rfl) hstands
    · split
      · rename_i hexclusion
        subst hexclusion
        exact restrict_eq_self hknown rfl hstands
      · rfl
  · rfl

theorem bareHandler_eq_self (h : document.Stands .handler d) : d.bareHandler = d :=
  changeFields_mapItems_eq_self fun _ hitems _ hw =>
    bareMarker_eq_self hknown fun _ hkind => .marker h hitems hw hkind

theorem bareOwner_eq_self (h : document.Stands .owner d) : d.bareOwner = d := by
  refine changeFields_eq_self_iff.2 ?_
  intro name v hv
  split
  · rename_i hinitializers
    subst hinitializers
    refine mapItems_eq_self_iff.2 ?_
    rintro items rfl w hw
    exact bareInitializer_eq_self hknown (.initializer h hv hw)
  · split
    · rename_i hhandlers
      subst hhandlers
      refine mapItems_eq_self_iff.2 ?_
      rintro items rfl w hw
      exact bareHandler_eq_self hknown (.handler h hv hw)
    · rfl

/-- A document is bare if all keys in it are known. -/
theorem bare_eq_self : document.bare = document :=
  changeFields_mapItems_eq_self fun _ hitems _ hw =>
    bareOwner_eq_self hknown (.owner .file hitems hw)

end

theorem Stands.known_of_bare {entries : List (Datum × Datum)} (h : document.Stands place (.map entries))
    (hdocument : document.Keyed) (hr : CatalogDocument.decode? document = some r)
    (hbare : document.bare = document) : ∀ e ∈ entries, place.Knows e.1 := by
  by_cases hstrict : place.Strict
  · exact h.known hdocument hr hstrict
  · have hplace := h.bare hr hbare
    cases place with
    | marker kind =>
      obtain rfl : kind = exclusionKind := not_not.1 hstrict
      obtain ⟨hkind, m, hm⟩ := h.decodes hr
      obtain ⟨rest, htagged, -⟩ := MarkerDocument.exists_ofTagged hm hkind
      have hkept : restrict kindKey (.map entries) = .map entries := by
        rw [Place.bare, bareMarker, htagged] at hplace
        exact hplace
      intro e he
      exact (Place.knows_iff rfl).2 (restrict_eq_self_iff.1 hkept _ rfl e he)
    | constraint =>
      have hkept : restrict "matcher" (.map entries) = .map entries := hplace
      intro e he
      exact (Place.knows_iff rfl).2 (restrict_eq_self_iff.1 hkept _ rfl e he)
    | _ => exact absurd trivial hstrict

/-- A document that is decoded has no unknown keys just when it is bare. -/
theorem known_iff_bare (hdocument : document.Keyed) (hr : CatalogDocument.decode? document = some r) :
    (∀ place entries, document.Stands place (.map entries) → ∀ e ∈ entries, place.Knows e.1) ↔
      document.bare = document :=
  ⟨fun hknown => bare_eq_self hknown, fun hbare _ _ h => h.known_of_bare hdocument hr hbare⟩

end Datum

/-! ## Texts -/

namespace Catalog

variable {text : String} {d : Datum} (ms : Matchers)

theorem parse_json_of_datum? (hd : Json.datum? text = some d) :
    Catalog.parse .json text ms = match CatalogDocument.decode? d with
      | some r => r.catalog ms
      | none => .error { activities := [.decodingJson], cause := .json } := by
  rw [Catalog.parse, CatalogDocument.parse, CatalogDocument.ofJson?, hd, Option.bind_some]
  cases CatalogDocument.decode? d <;> rfl

theorem parse_json_bare (hd : Json.datum? text = some d) :
    Catalog.parse .json text ms = match CatalogDocument.decode? d.bare with
      | some r => r.catalog ms
      | none => .error { activities := [.decodingJson], cause := .json } := by
  rw [parse_json_of_datum? ms hd, CatalogDocument.decode?_bare (Json.keyed_of_datum? hd)]
  cases CatalogDocument.decode? d with
  | none => rfl
  | some r => exact (r.catalog_bare ms).symm

/-- A JSON text is refused if an object in it has an unknown key, unless the object is an exclusion or a
constraint. What these two have beside their known keys is passed over: any text that differs only there
has the same catalog, or the same failure. So an accepted text has no unknown key just when nothing in
it is passed over. -/
theorem parse_unknown_fields (text : String) (ms : Matchers) :
    (Json.datum? text = none →
      Catalog.parse .json text ms = .error { activities := [.decodingJson], cause := .json }) ∧
    ∀ d, Json.datum? text = some d →
      (∀ place entries, d.Stands place (.map entries) → place.Strict → ∀ e ∈ entries, ¬ place.Knows e.1 →
        Catalog.parse .json text ms = .error { activities := [.decodingJson], cause := .json }) ∧
      (∀ text' d', Json.datum? text' = some d' → d'.bare = d.bare →
        Catalog.parse .json text' ms = Catalog.parse .json text ms) ∧
      ∀ c, Catalog.parse .json text ms = .ok c →
        ((∀ place entries, d.Stands place (.map entries) → ∀ e ∈ entries, place.Knows e.1) ↔
          d.bare = d) := by
  refine ⟨?_, fun d hd => ⟨?_, ?_, ?_⟩⟩
  · intro hnone
    rw [Catalog.parse, CatalogDocument.parse, CatalogDocument.ofJson?, hnone, Option.bind_none]
  · intro place entries hstands hstrict e he hunknown
    rw [parse_json_of_datum? ms hd]
    cases hr : CatalogDocument.decode? d with
    | none => rfl
    | some r => exact absurd (hstands.known (Json.keyed_of_datum? hd) hr hstrict e he) hunknown
  · intro text' d' hd' hbare
    rw [parse_json_bare ms hd', parse_json_bare ms hd, hbare]
  · intro c hc
    rw [parse_json_of_datum? ms hd] at hc
    cases hr : CatalogDocument.decode? d with
    | none =>
      rw [hr] at hc
      cases hc
    | some r => exact Datum.known_iff_bare (Json.keyed_of_datum? hd) hr

/-- An owner with an unknown field, and an exclusion with one and without. -/
theorem parse_unknown_fields_exclusion :
    let owner := "\x7b\"owners\":[\x7b\"name\":\"T\",\"url\":\"x\"\x7d]\x7d"
    let exclusion := "\x7b\"owners\":[[\"T\",[]," ++
      "[[\"h\",[\x7b\"kind\":\"non_action\",\"url\":\"x\"\x7d]]]]]\x7d"
    let plain := "\x7b\"owners\":[[\"T\",[],[[\"h\",[\x7b\"kind\":\"non_action\"\x7d]]]]]\x7d"
    let refused : Except Failure Catalog := .error { activities := [.decodingJson], cause := .json }
    Catalog.parse .json "" [] = refused ∧ Catalog.parse .json owner [] = refused ∧
      Catalog.parse .json exclusion [] = Catalog.parse .json plain [] ∧
      (∃ c, Catalog.parse .json plain [] = .ok c) ∧
      ∃ d, Json.datum? plain = some d ∧
        ∀ place entries, d.Stands place (.map entries) → ∀ e ∈ entries, place.Knows e.1 := by
  intro owner exclusion plain refused
  let record : List (Datum × Datum) := [(.str "name", .str "T"), (.str "url", .str "x")]
  let file (rest : List (Datum × Datum)) : Datum :=
    .map [(.str "owners", .seq [.seq [.str "T", .seq [],
      .seq [.seq [.str "h", .seq [.map ((.str "kind", .str "non_action") :: rest)]]]]])]
  have hempty : Json.datum? "" = none := by cbv
  have howner : Json.datum? owner = some (.map [(.str "owners", .seq [.map record])]) := by
    dsimp only [owner, record]
    cbv
  have hexclusion : Json.datum? exclusion = some (file [(.str "url", .str "x")]) := by
    dsimp only [exclusion, file]
    cbv
  have hplain : Json.datum? plain = some (file []) := by
    dsimp only [plain, file]
    cbv
  have hparse : Catalog.parse .json plain [] = .ok ⟨[{ owner := "T", handlers := [.excluded "T" "h"] }]⟩ := by
    rw [parse_json_of_datum? [] hplain]
    rfl
  refine ⟨(parse_unknown_fields "" []).1 hempty, ?_, ?_, ⟨_, hparse⟩, file [], hplain, ?_⟩
  · have hstands : (Datum.map [(.str "owners", .seq [.map record])]).Stands .owner (.map record) :=
      .owner .file (.member List.mem_cons_self) List.mem_cons_self
    refine ((parse_unknown_fields owner []).2 _ howner).1 _ _ hstands trivial _
      (List.mem_cons_of_mem _ List.mem_cons_self) ?_
    simp [Place.Knows, Place.fields]
  · exact ((parse_unknown_fields plain []).2 _ hplain).2.1 exclusion _ hexclusion rfl
  · exact (((parse_unknown_fields plain []).2 _ hplain).2.2 _ hparse).2 rfl

/-- An exclusion with a URL, and a constraint with an expression beside its matcher: the text is accepted,
although a key in each of them is unknown. -/
theorem not_parse_known_fields :
    let m : Matcher := ⟨0, "m", fun _ _ _ => true⟩
    let text := "\x7b\"owners\":[\x7b\"name\":\"T\",\"handlers\":[\x7b\"name\":\"h\",\"markers\":[" ++
      "\x7b\"kind\":\"non_action\",\"url\":\"x\"\x7d," ++
      "\x7b\"kind\":\"route\",\"url\":\"y\",\"constraints\":" ++
      "\x7b\"p\":\x7b\"matcher\":\"m\",\"pattern\":\"a\"\x7d\x7d\x7d]\x7d]\x7d]\x7d"
    (∃ c, Catalog.parse .json text [m] = .ok c) ∧ ∃ d, Json.datum? text = some d ∧
      (∃ entries, d.Stands (.marker exclusionKind) (.map entries) ∧
        ∃ e ∈ entries, ¬ (Place.marker exclusionKind).Knows e.1) ∧
      ∃ entries, d.Stands .constraint (.map entries) ∧ ∃ e ∈ entries, ¬ Place.constraint.Knows e.1 := by
  intro m text
  let exclusion : List (Datum × Datum) := [(.str "kind", .str "non_action"), (.str "url", .str "x")]
  let constraint : List (Datum × Datum) := [(.str "matcher", .str "m"), (.str "pattern", .str "a")]
  let route : List (Datum × Datum) := [(.str "kind", .str "route"), (.str "url", .str "y"),
    (.str "constraints", .map [(.str "p", .map constraint)])]
  let handler : List (Datum × Datum) := [(.str "name", .str "h"),
    (.str "markers", .seq [.map exclusion, .map route])]
  let owner : List (Datum × Datum) := [(.str "name", .str "T"), (.str "handlers", .seq [.map handler])]
  let file : Datum := .map [(.str "owners", .seq [.map owner])]
  have htext : Json.datum? text = some file := by
    dsimp only [text, file, owner, handler, route, constraint, exclusion]
    cbv
  have hhandler : file.Stands .handler (.map handler) :=
    .handler (.owner .file (.member (.head _)) (.head _)) (.member (.tail _ (.head _))) (.head _)
  have hmarkers : (Datum.map handler).Under Place.handler.fields "markers"
      (.seq [.map exclusion, .map route]) := .member (.tail _ (.head _))
  have hexclusion : file.Stands (.marker exclusionKind) (.map exclusion) :=
    .marker hhandler hmarkers (.head _) (.member (.head _))
  have hroute : file.Stands (.marker "route") (.map route) :=
    .marker hhandler hmarkers (.tail _ (.head _)) (.member (.head _))
  have hconstraint : file.Stands .constraint (.map constraint) :=
    .constraint (.inr rfl) hroute (.member (.tail _ (.tail _ (.head _)))) (.head _)
  refine ⟨?_, file, htext, ⟨exclusion, hexclusion, _, .tail _ (.head _), ?_⟩,
    constraint, hconstraint, _, .tail _ (.head _), ?_⟩
  · rw [parse_json_of_datum? [m] htext]
    exact ⟨_, rfl⟩
  · simp [Place.Knows, Place.fields, MarkerDocument.fields, exclusionKind, Datum.kindKey]
  · simp [Place.Knows, Place.fields]

end Catalog

end Routebook
