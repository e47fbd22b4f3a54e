import Mathlib.Data.List.Basic
import Routebook.Catalog.OfDocument
import Routebook.Proofs.Catalog.KnownFields

/-!
# What a document passes over

Two objects of a document may have entries that nothing reads: an exclusion beside its kind, and a
constraint beside the name of its matcher. A document without such entries is bare.

* `Datum.bare` : a document as it is without them; `Place.bare` : what stands at a place;
* `CatalogDocument.decode?_bare`, `CatalogDocument.catalog_bare` : nothing is lost with them, neither
  when the document is decoded nor when its values are interpreted.
-/

namespace Routebook

open Source

/-! ## Bare documents -/

namespace Datum

/-- Changes values by the names in whose places they stand. -/
def changeItems (change : String → Datum → Datum) : List String → List Datum → List Datum
  | name :: names, v :: items => change name v :: changeItems change names items
  | _, items => items

def changeEntry (change : String → Datum → Datum) (e : Datum × Datum) : Datum × Datum :=
  match e.1 with
  | .str name => (e.1, change name e.2)
  | _ => e

def changeFields (names : List String) (change : String → Datum → Datum) : Datum → Datum
  | .map entries => .map (entries.map (changeEntry change))
  | .seq items => .seq (changeItems change names items)
  | d => d

def mapItems (f : Datum → Datum) : Datum → Datum
  | .seq items => .seq (items.map f)
  | d => d

def mapValues (f : Datum → Datum) : Datum → Datum
  | .map entries => .map (entries.map fun e => (e.1, f e.2))
  | d => d

/-- Keeps of an object the entries under one name. -/
def restrict (name : String) : Datum → Datum
  | .map entries => .map (entries.filter fun e => e.1.text? == some name)
  | d => d

/-- The constraints of a route, each without what it has beside its matcher. -/
def bareConstraints (name : String) : Datum → Datum :=
  if name = "constraints" then mapValues (restrict "matcher") else id

/-- A route without what is passed over. -/
def bareRoute : Datum → Datum := changeFields Place.route.fields bareConstraints

/-- An initializer without what is passed over. -/
def bareInitializer : Datum → Datum :=
  changeFields Place.initializer.fields fun name => if name = "routes" then mapItems bareRoute else id

/-- A marker without what is passed over: of an exclusion its kind is left. -/
def bareMarker (d : Datum) : Datum :=
  match d.tagged? with
  | some (kind, _) =>
    if kind = "route" then changeFields (Place.marker "route").fields bareConstraints d
    else if kind = exclusionKind then restrict kindKey d
    else d
  | none => d

/-- A handler without what is passed over. -/
def bareHandler : Datum → Datum :=
  changeFields Place.handler.fields fun name => if name = "markers" then mapItems bareMarker else id

/-- The part of an owner without what is passed over. -/
def bareOwner : Datum → Datum :=
  changeFields Place.owner.fields fun name =>
    if name = "initializers" then mapItems bareInitializer
    else if name = "handlers" then mapItems bareHandler
    else id

/-- A document without what is passed over. -/
def bare : Datum → Datum :=
  changeFields Place.file.fields fun name => if name = "owners" then mapItems bareOwner else id

end Datum

/-- What stands at a place, without what is passed over. -/
def Place.bare : Place → Datum → Datum
  | file => Datum.bare
  | owner => Datum.bareOwner
  | initializer => Datum.bareInitializer
  | route => Datum.bareRoute
  | handler => Datum.bareHandler
  | marker _ => Datum.bareMarker
  | constraint => Datum.restrict "matcher"

/-- A constraint without what is passed over: of an object the matcher's name is left. -/
def Json.bareConstraint : Json → Json
  | .obj members => .obj (members.filter fun e => e.1 == "matcher")
  | v => v

/-- Constraints, each without what it has beside its matcher. -/
def JsonMembers.bare (members : JsonMembers) : JsonMembers :=
  members.map fun e => (e.1, e.2.bareConstraint)

def RouteDocument.bare (r : RouteDocument) : RouteDocument := { r with constraints := r.constraints.bare }

def InitializerDocument.bare (i : InitializerDocument) : InitializerDocument :=
  { i with routes := i.routes.map RouteDocument.bare }

def MarkerDocument.bare : MarkerDocument → MarkerDocument
  | .route url name v defaults constraints => .route url name v defaults constraints.bare
  | m => m

def HandlerDocument.bare (h : HandlerDocument) : HandlerDocument :=
  { h with markers := h.markers.map MarkerDocument.bare }

def OwnerDocument.bare (o : OwnerDocument) : OwnerDocument :=
  { o with
    initializers := o.initializers.map InitializerDocument.bare
    handlers := o.handlers.map HandlerDocument.bare }

def CatalogDocument.bare (d : CatalogDocument) : CatalogDocument :=
  { owners := d.owners.map OwnerDocument.bare }

/-! ## Changed records -/

theorem mapM_map_of_forall {α β γ δ : Type} {f : α → Option γ} {g : β → Option δ} {change : α → β}
    {changed : γ → δ} {as : List α} (h : ∀ a ∈ as, g (change a) = (f a).map changed) :
    (as.map change).mapM g = (as.mapM f).map (List.map changed) := by
  induction as with
  | nil => rfl
  | cons a as ih =>
    rw [List.map_cons, List.mapM_cons, List.mapM_cons, h a List.mem_cons_self,
      ih fun a' ha' => h a' (List.mem_cons_of_mem a ha')]
    cases f a with
    | none => rfl
    | some c => cases as.mapM f <;> rfl

namespace Source

variable {names : List String} {change : String → Datum → Datum} {d : Datum}
  {fields : List (String × Datum)}

/-- Changes fields by their names. -/
def changed (change : String → Datum → Datum) (fields : List (String × Datum)) :
    List (String × Datum) :=
  fields.map fun f => (f.1, change f.1 f.2)

theorem zip_changeItems : ∀ (names : List String) (items : List Datum),
    names.zip (Datum.changeItems change names items) = changed change (names.zip items)
  | [], _ => rfl
  | _ :: _, [] => rfl
  | name :: names, v :: items => congrArg ((name, change name v) :: ·) (zip_changeItems names items)

theorem length_changeItems : ∀ (names : List String) (items : List Datum),
    (Datum.changeItems change names items).length = items.length
  | [], _ => rfl
  | _ :: _, [] => rfl
  | _ :: names, _ :: items => congrArg (· + 1) (length_changeItems names items)

theorem fields?_changeFields (hd : d.Keyed) :
    (Datum.changeFields names change d).fields? names = (d.fields? names).map (changed change) := by
  cases d with
  | map entries =>
    refine mapM_map_of_forall ?_
    intro e he
    obtain ⟨s, hs⟩ := hd.key_of_mem e he
    obtain ⟨_, v⟩ := e
    cases hs
    rfl
  | seq items =>
    simp only [Datum.changeFields, Datum.fields?, length_changeItems]
    split
    · rw [zip_changeItems, Option.map_some]
    · rfl
  | _ => rfl

theorem distinct_changed : ∀ fields : List (String × Datum),
    distinct (changed change fields) = distinct fields
  | [] => rfl
  | f :: rest => by
    have hany : (changed change rest).any (fun g => g.1 == f.1) = rest.any fun g => g.1 == f.1 :=
      List.any_map
    have hrest := distinct_changed rest
    rw [changed, List.map_cons, distinct, distinct, ← changed, hany, hrest]

theorem record?_changeFields (hd : d.Keyed) :
    record? names (Datum.changeFields names change d) = (record? names d).map (changed change) := by
  have hfields : Source.fields? names (Datum.changeFields names change d) =
      (Source.fields? names d).map (changed change) := fields?_changeFields hd
  rw [record?, record?, hfields]
  cases Source.fields? names d with
  | none => rfl
  | some fields =>
    have hall : (changed change fields).all (fun f => names.contains f.1) =
        fields.all fun f => names.contains f.1 := List.all_map
    simp only [Option.map_some, hall, distinct_changed]
    split <;> rfl

theorem keyed_of_record? (hd : d.Keyed) (hr : record? names d = some fields) :
    ∀ f ∈ fields, f.2.Keyed := by
  obtain ⟨hfields, -, -⟩ := record?_eq_some_iff.1 hr
  intro f hf
  cases d with
  | map entries =>
    obtain ⟨e, he, hread⟩ := exists_mem_of_mem_mapM hfields hf
    obtain ⟨_, -, rfl⟩ := Option.map_eq_some_iff.1 hread
    exact hd.of_mem_map e he
  | seq items =>
    unfold Datum.fields? at hfields
    dsimp only at hfields
    split at hfields
    · cases hfields
      exact hd.of_mem_seq _ (List.of_mem_zip (show (f.1, f.2) ∈ _ from hf)).2
    · cases hfields
  | _ => cases hfields

theorem field?_changed (name : String) (fields : List (String × Datum)) :
    field? name (changed change fields) = (field? name fields).map (change name) := by
  induction fields with
  | nil => rfl
  | cons f rest ih =>
    unfold field? changed at ih ⊢
    rw [List.map_cons]
    by_cases h : f.1 = name
    · subst h
      simp
    · rw [List.find?_cons_of_neg (by simpa using h), List.find?_cons_of_neg (by simpa using h), ih]

variable {α : Type} {decode? : Datum → Option α} {name : String} {v : Datum}

theorem mem_of_field? (h : field? name fields = some v) : (name, v) ∈ fields := by
  obtain ⟨f, hf, rfl⟩ := Option.map_eq_some_iff.1 h
  have hname := List.find?_some hf
  obtain rfl : f.1 = name := beq_iff_eq.1 hname
  exact List.mem_of_find?_eq_some hf

/-- A field that is not changed is decoded as it is. -/
theorem required?_changed (h : change name = id) :
    required? decode? name (changed change fields) = required? decode? name fields := by
  rw [required?, required?, field?_changed, h, Option.map_id, id]

theorem optional?_changed (h : change name = id) {absent : α} :
    optional? decode? absent name (changed change fields) = optional? decode? absent name fields := by
  rw [optional?, optional?, field?_changed, h, Option.map_id, id]

theorem optional?_changed_map {g : α → α} {absent : α} (hfields : ∀ f ∈ fields, f.2.Keyed)
    (h : ∀ v : Datum, v.Keyed → decode? (change name v) = (decode? v).map g)
    (habsent : g absent = absent) : optional? decode? absent name (changed change fields) =
      (optional? decode? absent name fields).map g := by
  rw [optional?, optional?, field?_changed]
  cases hfield : field? name fields with
  | none => rw [Option.map_none, Option.map_some, habsent]
  | some v => exact h v (hfields _ (mem_of_field? hfield))

theorem listOf?_mapItems {f : Datum → Datum} {g : α → α} (hv : v.Keyed)
    (h : ∀ w : Datum, w.Keyed → decode? (f w) = (decode? w).map g) :
    listOf? decode? (v.mapItems f) = (listOf? decode? v).map (List.map g) := by
  cases v with
  | seq items => exact mapM_map_of_forall fun w hw => h w (hv.of_mem_seq w hw)
  | _ => rfl

end Source

/-! ## Constraints -/

namespace Json

variable {members : JsonMembers} {key name : String} {v : Json}

theorem filter_setMember :
    (setMember key v members).filter (fun e => e.1 == name) =
      if key = name then setMember key v (members.filter fun e => e.1 == name)
      else members.filter fun e => e.1 == name := by
  induction members with
  | nil => by_cases h : key = name <;> simp [setMember, h]
  | cons e rest ih =>
    obtain ⟨k, w⟩ := e
    by_cases hk : k = key
    · subst hk
      by_cases h : k = name <;> simp [setMember, h]
    · by_cases hn : k = name
      · subst hn
        have hne : key ≠ k := Ne.symm hk
        simp [setMember, hk, hne, ih]
      · simp [setMember, hk, hn, ih]

theorem map_setMember {f : Json → Json} :
    (setMember key v members).map (fun e => (e.1, f e.2)) =
      setMember key (f v) (members.map fun e => (e.1, f e.2)) := by
  induction members with
  | nil => rfl
  | cons e rest ih =>
    obtain ⟨k, w⟩ := e
    by_cases hk : k = key <;> simp [setMember, hk, ih]

theorem member?_filter : member? name (members.filter fun e => e.1 == name) = member? name members := by
  induction members with
  | nil => rfl
  | cons e rest ih =>
    obtain ⟨k, w⟩ := e
    by_cases hk : k = name <;> simp [member?, hk, ih]

end Json

namespace Datum

variable {entries : List (Datum × Datum)} {v : Datum}

theorem membersToJson?_filter (name : String) (hkeyed : (Datum.map entries).Keyed) (members : JsonMembers) :
    membersToJson? (entries.filter fun e => e.1.text? == some name) (members.filter fun e => e.1 == name) =
      (membersToJson? entries members).map (List.filter fun e => e.1 == name) := by
  induction entries generalizing members with
  | nil => rfl
  | cons e rest ih =>
    obtain ⟨k, w⟩ := e
    obtain ⟨s, hs⟩ : ∃ s, k = .str s := hkeyed.key_of_mem _ List.mem_cons_self
    subst hs
    have hw : w.Keyed := hkeyed.of_mem_map _ List.mem_cons_self
    -- An entry without a JSON value would leave the whole object without one, and be missed when dropped.
    obtain ⟨j, hj⟩ := hw.exists_toJson?
    have hnext := ih (hkeyed.of_subset (List.subset_cons_self _ rest)) (Json.setMember s j members)
    rw [Json.filter_setMember] at hnext
    have htext : (Datum.str s).text? = some s := rfl
    by_cases h : s = name
    · subst h
      rw [if_pos rfl] at hnext
      simp [membersToJson?, htext, hj, hnext]
    · rw [if_neg h] at hnext
      simp [membersToJson?, htext, hj, hnext, h]

theorem toJson?_restrict (hv : v.Keyed) :
    (restrict "matcher" v).toJson? = v.toJson?.map Json.bareConstraint := by
  cases v with
  | map entries =>
    have h := membersToJson?_filter "matcher" hv []
    rw [List.filter_nil] at h
    rw [restrict, toJson?, toJson?, h]
    cases membersToJson? entries [] <;> rfl
  | seq items =>
    simp only [restrict, toJson?]
    cases itemsToJson? items <;> rfl
  | float x =>
    simp only [restrict, toJson?, ofFloat]
    split <;> rfl
  | _ => simp only [restrict, toJson?, Option.map_some, Json.bareConstraint]

theorem membersToJson?_bare (hkeyed : ∀ e ∈ entries, e.2.Keyed) (members : JsonMembers) :
    membersToJson? (entries.map fun e => (e.1, restrict "matcher" e.2)) members.bare =
      (membersToJson? entries members).map JsonMembers.bare := by
  induction entries generalizing members with
  | nil => rfl
  | cons e rest ih =>
    obtain ⟨k, w⟩ := e
    have hw : (restrict "matcher" w).toJson? = w.toJson?.map Json.bareConstraint :=
      toJson?_restrict (hkeyed _ List.mem_cons_self)
    simp only [List.map_cons, membersToJson?, hw, Option.bind_eq_bind]
    cases k.text? with
    | none => rfl
    | some key =>
      cases w.toJson? with
      | none => rfl
      | some j =>
        have hset : Json.setMember key j.bareConstraint members.bare =
            JsonMembers.bare (Json.setMember key j members) := Json.map_setMember.symm
        simp only [Option.map_some, Option.bind_some, hset]
        exact ih (fun e he => hkeyed e (List.mem_cons_of_mem _ he)) _

theorem members?_mapValues (hv : v.Keyed) :
    (mapValues (restrict "matcher") v).members? = v.members?.map JsonMembers.bare := by
  cases v with
  | map entries => exact membersToJson?_bare hv.of_mem_map []
  | _ => rfl

end Datum

/-! ## Decoding -/

namespace Source

theorem record?_bind_changeFields {β : Type} {names : List String} {change : String → Datum → Datum}
    {d : Datum} {decode? : List (String × Datum) → Option β} {g : β → β} (hd : d.Keyed)
    (h : ∀ fields : List (String × Datum), (∀ f ∈ fields, f.2.Keyed) →
      decode? (changed change fields) = (decode? fields).map g) :
    (record? names (Datum.changeFields names change d)).bind decode? =
      ((record? names d).bind decode?).map g := by
  rw [record?_changeFields hd]
  cases hr : record? names d with
  | none => rfl
  | some fields => exact h fields (keyed_of_record? hd hr)

variable {fields : List (String × Datum)}

theorem bareConstraints_of_ne {name : String} (h : name ≠ "constraints") : Datum.bareConstraints name = id :=
  if_neg h

theorem optional?_bareConstraints (hfields : ∀ f ∈ fields, f.2.Keyed) :
    optional? members? [] "constraints" (changed Datum.bareConstraints fields) =
      (optional? members? [] "constraints" fields).map JsonMembers.bare :=
  optional?_changed_map hfields (fun _ hv => Datum.members?_mapValues hv) rfl

end Source

variable {d : Datum}

theorem RouteDocument.decode?_bare (hd : d.Keyed) :
    decode? d.bareRoute = (decode? d).map RouteDocument.bare := by
  refine record?_bind_changeFields hd ?_
  intro fields hfields
  rw [optional?_bareConstraints hfields, required?_changed (bareConstraints_of_ne (by decide)),
    required?_changed (bareConstraints_of_ne (by decide)),
    optional?_changed (bareConstraints_of_ne (by decide)),
    optional?_changed (bareConstraints_of_ne (by decide)),
    optional?_changed (bareConstraints_of_ne (by decide))]
  cases required? text? "name" fields with
  | none => rfl
  | some name =>
  cases required? text? "url" fields with
  | none => rfl
  | some url =>
  cases optional? members? [] "defaults" fields with
  | none => rfl
  | some defaults =>
  cases optional? (listOf? text?) [] "optional" fields with
  | none => rfl
  | some optional =>
  cases optional? members? [] "constraints" fields with
  | none => rfl
  | some constraints => cases optional? (listOf? text?) [] "verbs" fields <;> rfl

theorem InitializerDocument.decode?_bare (hd : d.Keyed) :
    decode? d.bareInitializer = (decode? d).map InitializerDocument.bare := by
  refine record?_bind_changeFields hd ?_
  intro fields hfields
  rw [required?_changed (if_neg (by decide)), optional?_changed_map hfields
    (fun v hv => listOf?_mapItems hv fun _ hw => RouteDocument.decode?_bare hw) rfl]
  cases required? text? "name" fields with
  | none => rfl
  | some name => cases optional? (listOf? RouteDocument.decode?) [] "routes" fields <;> rfl

namespace Datum

theorem isKindKey_eq (key : Datum) : isKindKey key = (key.text? == some kindKey) := by
  cases key <;> rfl

/-- The entry of the kind is not changed, and the rest of the record is changed as a record is. -/
theorem tagged?_changeFields {names : List String} {change : String → Datum → Datum}
    (hkind : change kindKey = id) : (changeFields (kindKey :: names) change d).tagged? =
      d.tagged?.map fun t => (t.1, changeFields names change t.2) := by
  cases d with
  | map entries =>
    have hkey : ∀ e : Datum × Datum, (changeEntry change e).1 = e.1 := by
      rintro ⟨k, v⟩
      cases k <;> rfl
    have hkept : ∀ e ∈ entries.filter fun e => isKindKey e.1, changeEntry change e = e := by
      rintro ⟨k, v⟩ he
      obtain rfl : k = .str kindKey := eq_kindKey_of_isKindKey (List.mem_filter.1 he).2
      simp only [changeEntry, hkind, id]
    have hsame : (entries.map (changeEntry change)).filter (fun e => isKindKey e.1) =
        entries.filter fun e => isKindKey e.1 := by
      rw [List.filter_map]
      simp only [Function.comp_def, hkey]
      exact List.map_congr_left hkept |>.trans (List.map_id _)
    have hrest : (entries.map (changeEntry change)).filter (fun e => !isKindKey e.1) =
        (entries.filter fun e => !isKindKey e.1).map (changeEntry change) := by
      rw [List.filter_map]
      simp only [Function.comp_def, hkey]
    simp only [changeFields, tagged?, hsame, hrest]
    split <;> rfl
  | seq items =>
    cases items with
    | nil => rfl
    | cons v rest =>
      simp only [changeFields, changeItems, hkind, id]
      cases v <;> rfl
  | _ => rfl

/-- Of an exclusion the kind is left. -/
theorem tagged?_restrict {kind : String} {rest : Datum} (h : d.tagged? = some (kind, rest)) :
    ∃ rest', (restrict kindKey d).tagged? = some (kind, rest') ∧
      MarkerDocument.ofExclusion? rest' = MarkerDocument.ofExclusion? rest := by
  cases d with
  | map entries =>
    have hsame : (entries.filter fun e => e.1.text? == some kindKey).filter (fun e => isKindKey e.1) =
        entries.filter fun e => isKindKey e.1 := by
      simp only [isKindKey_eq, List.filter_filter, Bool.and_self]
    simp only [restrict, tagged?, hsame] at h ⊢
    split at h
    · cases h
      exact ⟨_, rfl, rfl⟩
    · cases h
  | seq items => exact ⟨rest, h, rfl⟩
  | _ => cases h

end Datum

namespace MarkerDocument

theorem ofRoute?_bare (hd : d.Keyed) :
    ofRoute? (Datum.changeFields (fields "route") Datum.bareConstraints d) = (ofRoute? d).map bare := by
  refine record?_bind_changeFields hd ?_
  intro fields hfields
  rw [optional?_bareConstraints hfields, required?_changed (bareConstraints_of_ne (by decide)),
    optional?_changed (bareConstraints_of_ne (by decide)),
    optional?_changed (bareConstraints_of_ne (by decide)),
    optional?_changed (bareConstraints_of_ne (by decide))]
  cases required? text? "url" fields with
  | none => rfl
  | some url =>
  cases optional? (nullable? text?) none "name" fields with
  | none => rfl
  | some name =>
  cases optional? (nullable? text?) none "verb" fields with
  | none => rfl
  | some token =>
  cases optional? members? [] "defaults" fields with
  | none => rfl
  | some defaults => cases optional? members? [] "constraints" fields <;> rfl

theorem bare_of_ofTagged? {kind : String} {rest : Datum} {m : MarkerDocument}
    (h : ofTagged? kind rest = some m) (hkind : kind ≠ "route") : m.bare = m := by
  unfold ofTagged? at h
  split at h
  case h_1 => exact absurd rfl hkind
  case h_2 | h_3 | h_6 =>
    simp only [Option.bind_eq_bind, Option.bind_eq_some_iff] at h
    obtain ⟨_, -, _, -, ⟨⟩⟩ := h
    rfl
  case h_4 =>
    unfold ofExclusion? at h
    split at h <;> cases h <;> rfl
  case h_5 =>
    simp only [Option.bind_eq_bind, Option.bind_eq_some_iff] at h
    obtain ⟨_, -, _, -, _, -, ⟨⟩⟩ := h
    rfl
  case h_7 =>
    simp only [ofUrlParam?, Option.bind_eq_bind, Option.bind_eq_some_iff] at h
    obtain ⟨_, -, _, -, _, -, _, -, _, -, ⟨⟩⟩ := h
    rfl
  case h_8 =>
    simp only [ofConstraint?, Option.bind_eq_bind, Option.bind_eq_some_iff] at h
    obtain ⟨_, -, _, -, _, -, _, -, ⟨⟩⟩ := h
    rfl
  case h_9 => cases h

theorem keyed_of_tagged? {kind : String} {rest : Datum} (hd : d.Keyed) (h : d.tagged? = some (kind, rest)) :
    rest.Keyed := by
  cases d with
  | map entries =>
    simp only [Datum.tagged?] at h
    split at h
    · cases h
      exact hd.of_subset (List.filter_subset_self _)
    · cases h
  | seq items =>
    cases items with
    | nil => cases h
    | cons v items =>
      cases v with
      | str s =>
        cases h
        exact .seq fun w hw => hd.of_mem_seq w (List.mem_cons_of_mem _ hw)
      | _ => cases h
  | _ => cases h

theorem decode?_bare (hd : d.Keyed) : decode? d.bareMarker = (decode? d).map bare := by
  have hdecode : ∀ v : Datum, decode? v = v.tagged?.bind fun t => ofTagged? t.1 t.2 := fun _ => rfl
  unfold Datum.bareMarker
  rw [hdecode d]
  cases htagged : d.tagged? with
  | none => rw [hdecode, htagged, Option.bind_none, Option.map_none]
  | some t =>
    obtain ⟨kind, rest⟩ := t
    dsimp only [Option.bind_some]
    by_cases hroute : kind = "route"
    · subst hroute
      rw [if_pos rfl, hdecode, Place.fields, Datum.tagged?_changeFields (if_neg (by decide)), htagged]
      exact ofRoute?_bare (keyed_of_tagged? hd htagged)
    · -- Markers of the other kinds have nothing that could be left out once they are decoded.
      have hbare : (ofTagged? kind rest).map bare = ofTagged? kind rest := by
        cases hm : ofTagged? kind rest with
        | none => rfl
        | some m => rw [Option.map_some, bare_of_ofTagged? hm hroute]
      rw [if_neg hroute, hbare]
      by_cases hexclusion : kind = exclusionKind
      · obtain ⟨rest', htagged', hrest⟩ := Datum.tagged?_restrict htagged
        subst hexclusion
        rw [if_pos rfl, hdecode, htagged']
        exact hrest
      · rw [if_neg hexclusion, hdecode, htagged, Option.bind_some]

end MarkerDocument

theorem HandlerDocument.decode?_bare (hd : d.Keyed) :
    decode? d.bareHandler = (decode? d).map HandlerDocument.bare := by
  refine record?_bind_changeFields hd ?_
  intro fields hfields
  rw [required?_changed (if_neg (by decide)), optional?_changed_map hfields
    (fun v hv => listOf?_mapItems hv fun _ hw => MarkerDocument.decode?_bare hw) rfl]
  cases required? text? "name" fields with
  | none => rfl
  | some name => cases optional? (listOf? MarkerDocument.decode?) [] "markers" fields <;> rfl

theorem OwnerDocument.decode?_bare (hd : d.Keyed) :
    decode? d.bareOwner = (decode? d).map OwnerDocument.bare := by
  refine record?_bind_changeFields hd ?_
  intro fields hfields
  rw [required?_changed rfl,
    optional?_changed_map hfields
      (fun v hv => listOf?_mapItems hv fun _ hw => InitializerDocument.decode?_bare hw) rfl,
    optional?_changed_map hfields
      (fun v hv => listOf?_mapItems hv fun _ hw => HandlerDocument.decode?_bare hw) rfl]
  cases required? text? "name" fields with
  | none => rfl
  | some name =>
  cases optional? (listOf? InitializerDocument.decode?) [] "initializers" fields with
  | none => rfl
  | some initializers => cases optional? (listOf? HandlerDocument.decode?) [] "handlers" fields <;> rfl

/-- What a document passes over makes no difference when it is decoded. -/
theorem CatalogDocument.decode?_bare (hd : d.Keyed) :
    decode? d.bare = (decode? d).map CatalogDocument.bare := by
  refine record?_bind_changeFields hd ?_
  intro fields hfields
  rw [optional?_changed_map hfields
    (fun v hv => listOf?_mapItems hv fun _ hw => OwnerDocument.decode?_bare hw) rfl]
  cases optional? (listOf? OwnerDocument.decode?) [] "owners" fields <;> rfl

/-! ## Interpreting -/

variable (ms : Matchers)

theorem constraintOf_bareConstraint (v : Json) : constraintOf ms v.bareConstraint = constraintOf ms v := by
  cases v with
  | obj members => simp only [Json.bareConstraint, constraintOf, Json.member?_filter]
  | _ => rfl

theorem constraintsOf_bare (members : JsonMembers) :
    constraintsOf ms members.bare = constraintsOf ms members := by
  simp only [constraintsOf, JsonMembers.bare, List.mapM_map, Function.comp_def, constraintOf_bareConstraint]

theorem RouteDocument.entry_bare (r : RouteDocument) : r.bare.entry ms = r.entry ms := by
  simp only [entry, bare, constraintsOf_bare]
  rfl

theorem MarkerDocument.marker_bare (m : MarkerDocument) : m.bare.marker ms = m.marker ms := by
  cases m with
  | route => simp only [bare, marker, constraintsOf_bare]
  | _ => rfl

theorem InitializerDocument.initializer_bare (owner : String) (i : InitializerDocument) :
    i.bare.initializer ms owner = i.initializer ms owner := by
  simp only [initializer, bare, List.mapM_map, Function.comp_def, RouteDocument.entry_bare]
  rfl

theorem HandlerDocument.handler_bare (owner : String) (h : HandlerDocument) :
    h.bare.handler ms owner = h.handler ms owner := by
  simp only [handler, bare, List.mapM_map, Function.comp_def, MarkerDocument.marker_bare]

theorem OwnerDocument.addTo_bare (c : Catalog) (o : OwnerDocument) : o.bare.addTo ms c = o.addTo ms c := by
  simp only [addTo, bare, List.foldlM_map, InitializerDocument.initializer_bare,
    HandlerDocument.handler_bare]

theorem CatalogDocument.catalog_bare (d : CatalogDocument) : d.bare.catalog ms = d.catalog ms := by
  simp only [catalog, bare, List.foldlM_map, OwnerDocument.addTo_bare]

end Routebook
