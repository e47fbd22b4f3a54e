import Routebook.Proofs.Catalog.Conversion
import Routebook.Proofs.Catalog.Grouping

/-!
# The catalog of a document

A document is interpreted item by item: the routes of its initializers and the markers of its
handlers. Owners that are written more than once are merged.

* `errorOf?` : the error of a reading, which for a list is that of the first element that has one;
* `CatalogDocument.items` : the items in the order in which they are interpreted;
* `DocumentItem.failure?` : the failure that an item gives; a document has that of its first such
  item (`errorOf?_catalog`);
* `foldlM_eq_ok_iff` : the value of a reading that succeeds;
* `Script.RegistersInOrder` : what a program does that registers given entries;
* `CatalogDocument.Describes` : the catalog holds what the document says, owner by owner, kept by
  each owner that is added (`Describes.addTo`);
* `CatalogDocument.catalog_in_order` : both for every document.
-/

namespace Routebook

/-! ## Errors of readings -/

/-- The error of a reading that fails. -/
def errorOf? {ε α : Type} : Except ε α → Option ε
  | .ok _ => none
  | .error e => some e

section Errors

variable {ε α β γ : Type}

theorem errorOf?_eq_some_iff {x : Except ε α} {e : ε} : errorOf? x = some e ↔ x = .error e := by
  cases x <;> simp [errorOf?]

theorem errorOf?_eq_none_iff {x : Except ε α} : errorOf? x = none ↔ ∃ a, x = .ok a := by
  cases x <;> simp [errorOf?]

/-- The error of two readings, when that of the second does not depend on the first. -/
theorem errorOf?_bind {x : Except ε α} {f : α → Except ε β} {e : Option ε}
    (hf : ∀ a, errorOf? (f a) = e) : errorOf? (x >>= f) = (errorOf? x).or e := by
  cases x with
  | error _ => rfl
  | ok a => exact hf a

theorem errorOf?_bind_pure (x : Except ε α) (f : α → β) :
    errorOf? (x >>= fun a => pure (f a)) = errorOf? x := by
  rw [errorOf?_bind (e := none) fun _ => rfl, Option.or_none]

theorem errorOf?_mapM (f : α → Except ε β) (as : List α) :
    errorOf? (as.mapM f) = as.findSome? fun a => errorOf? (f a) := by
  induction as with
  | nil => rfl
  | cons a rest ih =>
    rw [List.mapM_cons, List.findSome?_cons, errorOf?_bind fun b => errorOf?_bind_pure _ (b :: ·), ih]
    cases errorOf? (f a) <;> rfl

theorem errorOf?_foldlM {f : β → α → Except ε β} {e : α → Option ε}
    (hf : ∀ b a, errorOf? (f b a) = e a) (as : List α) (b : β) :
    errorOf? (as.foldlM f b) = as.findSome? e := by
  induction as generalizing b with
  | nil => rfl
  | cons a rest ih =>
    rw [List.foldlM_cons, List.findSome?_cons, errorOf?_bind ih, hf]
    cases e a <;> rfl

theorem findSome?_flatMap (f : β → Option γ) (g : α → List β) (as : List α) :
    (as.flatMap g).findSome? f = as.findSome? fun a => (g a).findSome? f := by
  induction as with
  | nil => rfl
  | cons a rest ih =>
    rw [List.flatMap_cons, List.findSome?_append, ih, List.findSome?_cons]
    cases (g a).findSome? f <;> rfl

theorem errorOf?_faultDuring (activity : Activity) (x : Except CatalogFault α) :
    errorOf? (faultDuring activity x) =
      (errorOf? x).map fun fault => { activities := [activity], cause := .fault fault } := by
  cases x <;> rfl

theorem errorOf?_duringActivity (activity : Activity) (x : Except Failure α) :
    errorOf? (duringActivity activity x) = (errorOf? x).map (·.within activity) := by
  cases x <;> rfl

/-! ## Values of readings -/

theorem faultDuring_eq_ok_iff {activity : Activity} {x : Except CatalogFault α} {a : α} :
    faultDuring activity x = .ok a ↔ x = .ok a := by
  cases x <;> simp [faultDuring]

/-- Adding what is read one after the other is reading first and adding then. -/
theorem foldlM_eq_ok_iff {f : α → Except ε γ} {g : β → γ → β} {as : List α} {b b' : β} :
    as.foldlM (fun b a => do return g b (← f a)) b = .ok b' ↔
      ∃ cs, List.Forall₂ (fun a c => f a = .ok c) as cs ∧ b' = cs.foldl g b := by
  induction as generalizing b with
  | nil =>
    simp only [List.forall₂_nil_left_iff, exists_eq_left]
    constructor
    · intro h
      exact (Except.ok.inj h).symm
    · intro h
      rw [h]
      rfl
  | cons a rest ih =>
    rw [List.foldlM_cons, bind_eq_ok_iff]
    simp only [List.forall₂_cons_left_iff]
    constructor
    · rintro ⟨b₁, hb₁, hrest⟩
      obtain ⟨c, hc, hok⟩ := bind_eq_ok_iff.1 hb₁
      obtain rfl := Except.ok.inj hok
      obtain ⟨cs, hcs, rfl⟩ := ih.1 hrest
      exact ⟨c :: cs, ⟨c, cs, hc, hcs, rfl⟩, rfl⟩
    · rintro ⟨_, ⟨c, cs, hc, hcs, rfl⟩, rfl⟩
      exact ⟨g b c, bind_eq_ok_iff.2 ⟨c, hc, rfl⟩, ih.2 ⟨cs, hcs, rfl⟩⟩

end Errors

/-! ## Items -/

/-- What is interpreted by itself: a route of an initializer, or a marker of a handler. -/
inductive DocumentItem where
  | route (owner initializer : String) (route : RouteDocument)
  | marker (owner handler : String) (marker : MarkerDocument)

/-- The items of an owner: the routes of the initializers, then the markers of the handlers. -/
def OwnerDocument.items (o : OwnerDocument) : List DocumentItem :=
  o.initializers.flatMap (fun i => i.routes.map (.route o.name i.name)) ++
    o.handlers.flatMap (fun h => h.markers.map (.marker o.name h.name))

/-- The items of a document, owner by owner. -/
def CatalogDocument.items (d : CatalogDocument) : List DocumentItem := d.owners.flatMap (·.items)

namespace DocumentItem

/-- The item stands for an entry or a marker. -/
def Converts (ms : Matchers) : DocumentItem → Prop
  | route _ _ r => ∃ e, r.StandsFor ms e
  | marker _ _ m => ∃ k, m.StandsFor ms k

/-- The failure of an item that cannot be interpreted, with what was being done. -/
def failure? (ms : Matchers) : DocumentItem → Option Failure
  | route owner initializer r => (errorOf? (r.entry ms)).map fun fault =>
    { activities := [.addingOwner owner, .addingRoute r.name initializer], cause := .fault fault }
  | marker owner handler m => (errorOf? (m.marker ms)).map fun fault =>
    { activities := [.addingHandler handler owner], cause := .fault fault }

theorem failure?_eq_none_iff {ms : Matchers} {item : DocumentItem} :
    item.failure? ms = none ↔ item.Converts ms := by
  cases item with
  | route owner initializer r =>
    rw [failure?, Option.map_eq_none_iff, errorOf?_eq_none_iff, Converts]
    simp only [RouteDocument.entry_eq_ok_iff]
  | marker owner handler m =>
    rw [failure?, Option.map_eq_none_iff, errorOf?_eq_none_iff, Converts]
    simp only [MarkerDocument.marker_eq_ok_iff]

end DocumentItem

variable {ms : Matchers}

theorem InitializerDocument.errorOf?_initializer (owner : String) (i : InitializerDocument) :
    errorOf? (duringActivity (.addingOwner owner) (i.initializer ms owner)) =
      (i.routes.map (DocumentItem.route owner i.name)).findSome? (DocumentItem.failure? ms) := by
  rw [errorOf?_duringActivity, initializer, errorOf?_bind_pure, errorOf?_mapM, List.map_findSome?,
    List.findSome?_map]
  congr 1
  funext r
  rw [Function.comp_apply, errorOf?_faultDuring, Option.map_map]
  rfl

theorem HandlerDocument.errorOf?_handler (owner : String) (h : HandlerDocument) :
    errorOf? (h.handler ms owner) =
      (h.markers.map (DocumentItem.marker owner h.name)).findSome? (DocumentItem.failure? ms) := by
  rw [handler, errorOf?_bind_pure, errorOf?_faultDuring, errorOf?_mapM, List.map_findSome?,
    List.findSome?_map]
  rfl

theorem OwnerDocument.errorOf?_addTo (c : Catalog) (o : OwnerDocument) :
    errorOf? (o.addTo ms c) = o.items.findSome? (DocumentItem.failure? ms) := by
  have hinitializer : ∀ (c : Catalog) (i : InitializerDocument), errorOf? (do
      return c.addInitializer (← duringActivity (.addingOwner o.name) (i.initializer ms o.name))) =
      (i.routes.map (DocumentItem.route o.name i.name)).findSome? (DocumentItem.failure? ms) := by
    intro c i
    rw [errorOf?_bind_pure, i.errorOf?_initializer]
  have hhandler : ∀ (c : Catalog) (h : HandlerDocument), errorOf? (do
      return c.addHandler (← h.handler ms o.name)) =
      (h.markers.map (DocumentItem.marker o.name h.name)).findSome? (DocumentItem.failure? ms) := by
    intro c h
    rw [errorOf?_bind_pure, h.errorOf?_handler]
  rw [addTo, errorOf?_bind fun c => errorOf?_foldlM hhandler o.handlers c,
    errorOf?_foldlM hinitializer, items, List.findSome?_append, findSome?_flatMap, findSome?_flatMap]

/-- A document fails like its first item that cannot be interpreted. -/
theorem CatalogDocument.errorOf?_catalog (d : CatalogDocument) :
    errorOf? (d.catalog ms) = d.items.findSome? (DocumentItem.failure? ms) := by
  rw [catalog, errorOf?_foldlM fun c o => o.errorOf?_addTo c, items, findSome?_flatMap]

/-! ## Programs that register entries -/

/-- Registering entries one after the other leads from one state of a registry to another. -/
def Registry.Adds {σ : Type} [Registry σ] : List Entry → σ → σ → Prop
  | [], t, u => u = t
  | e :: rest, t, v => ∃ u, Registry.register t e = .ok u ∧ Adds rest u v

/-- On every registry the program registers the entries in order: all of them, or those in front of
the first that is refused, whose error it gives. -/
def Script.RegistersInOrder (s : Script (Except TableError Unit)) (es : List Entry) : Prop :=
  ∀ {σ : Type} [Registry σ] (t : σ),
    (∃ u, Registry.Adds es t u ∧ s.run t = (.ok (), u)) ∨
    ∃ before e after u err, es = before ++ e :: after ∧ Registry.Adds before t u ∧
      Registry.register u e = .error err ∧ s.run t = (.error err, u)

theorem Script.registersInOrder_registerAll (es : List Entry) :
    (Script.registerAll es).RegistersInOrder es := by
  intro σ _ t
  induction es generalizing t with
  | nil => exact .inl ⟨t, rfl, rfl⟩
  | cons e rest ih =>
    rw [registerAll, run]
    cases he : Registry.register t e with
    | error err => exact .inr ⟨[], e, rest, t, err, rfl, rfl, he, rfl⟩
    | ok w =>
      rcases ih w with ⟨u, hadds, hrun⟩ | ⟨before, e', after, u, err, rfl, hadds, hrefused, hrun⟩
      · exact .inl ⟨u, ⟨w, he, hadds⟩, hrun⟩
      · exact .inr ⟨e :: before, e', after, u, err, rfl, ⟨w, he, hadds⟩, hrefused, hrun⟩

/-! ## What a catalog holds -/

/-- The initializer is of the owner and the name that its document says, has the accepted shape, and
registers in order the entries that its routes stand for. -/
structure InitializerDocument.Describes (ms : Matchers) (owner : String) (d : InitializerDocument)
    (i : Initializer) : Prop where
  owner : i.owner = owner
  name : i.name = d.name
  signature : i.signature = .expected
  entries : ∃ es, List.Forall₂ (RouteDocument.StandsFor ms) d.routes es ∧ i.callback.RegistersInOrder es

/-- The handler is of the owner and the name that its document says, with what its markers stand for, one
for one. -/
structure HandlerDocument.Describes (ms : Matchers) (owner : String) (d : HandlerDocument)
    (h : Handler) : Prop where
  owner : h.owner = owner
  name : h.name = d.name
  markers : List.Forall₂ (MarkerDocument.StandsFor ms) d.markers h.markers

theorem InitializerDocument.describes_of_initializer {owner : String} {d : InitializerDocument}
    {i : Initializer} (h : d.initializer ms owner = .ok i) : d.Describes ms owner i := by
  obtain ⟨es, hes, hi⟩ := bind_eq_ok_iff.1 h
  obtain rfl := Except.ok.inj hi
  simp only [mapM_eq_ok_iff, faultDuring_eq_ok_iff, RouteDocument.entry_eq_ok_iff] at hes
  exact ⟨rfl, rfl, rfl, es, hes, Script.registersInOrder_registerAll es⟩

theorem HandlerDocument.describes_of_handler {owner : String} {d : HandlerDocument} {h : Handler}
    (hd : d.handler ms owner = .ok h) : d.Describes ms owner h := by
  obtain ⟨ks, hks, hh⟩ := bind_eq_ok_iff.1 hd
  obtain rfl := Except.ok.inj hh
  refine ⟨rfl, rfl, (mapM_eq_ok_iff.1 (faultDuring_eq_ok_iff.1 hks)).imp fun _ _ => ?_⟩
  exact MarkerDocument.marker_eq_ok_iff.1

namespace CatalogDocument

/-- The initializers that a document writes for an owner, over all places where it is written. -/
def initializers (d : CatalogDocument) (owner : String) : List InitializerDocument :=
  (d.owners.filter (·.name == owner)).flatMap (·.initializers)

/-- The handlers that a document writes for an owner, over all places where it is written. -/
def handlers (d : CatalogDocument) (owner : String) : List HandlerDocument :=
  (d.owners.filter (·.name == owner)).flatMap (·.handlers)

/-- The catalog has the owners of the document in the order in which they are first written, and for
each owner what the document writes for it. -/
structure Describes (ms : Matchers) (d : CatalogDocument) (c : Catalog) : Prop where
  owners : c.owners = (d.owners.map (·.name)).eraseDups
  initializers : ∀ owner, List.Forall₂ (InitializerDocument.Describes ms owner)
    (d.initializers owner) (c.initializers owner)
  handlers : ∀ owner, List.Forall₂ (HandlerDocument.Describes ms owner)
    (d.handlers owner) (c.handlers owner)

end CatalogDocument

theorem OwnerDocument.addTo_eq_ok_iff {o : OwnerDocument} {c c' : Catalog} :
    o.addTo ms c = .ok c' ↔ ∃ is hs,
      List.Forall₂ (fun d i => InitializerDocument.initializer ms o.name d = .ok i) o.initializers is ∧
      List.Forall₂ (fun d h => HandlerDocument.handler ms o.name d = .ok h) o.handlers hs ∧
      c' = hs.foldl Catalog.addHandler (is.foldl Catalog.addInitializer (c.addOwner o.name)) := by
  rw [addTo, bind_eq_ok_iff]
  simp only [foldlM_eq_ok_iff, duringActivity_eq_ok_iff]
  constructor
  · rintro ⟨_, ⟨is, his, rfl⟩, hs, hhs, rfl⟩
    exact ⟨is, hs, his, hhs, rfl⟩
  · rintro ⟨is, hs, his, hhs, rfl⟩
    exact ⟨_, ⟨is, his, rfl⟩, hs, hhs, rfl⟩

theorem forall_mem_of_forall₂ {α β : Type} {R : α → β → Prop} {P : β → Prop} {as : List α}
    {bs : List β} (h : List.Forall₂ R as bs) (hP : ∀ a b, R a b → P b) : ∀ b ∈ bs, P b := by
  induction h with
  | nil => exact fun _ h => nomatch h
  | cons hab _ ih => exact List.forall_mem_cons.2 ⟨hP _ _ hab, ih⟩

/-- An element that is put behind others counts only if it is new. -/
theorem eraseDups_concat (l : List String) (a : String) :
    (l ++ [a]).eraseDups = if a ∈ l then l.eraseDups else l.eraseDups ++ [a] := by
  rw [List.eraseDups_append]
  by_cases h : a ∈ l <;> simp [h, List.removeAll, List.eraseDups_cons]

namespace CatalogDocument

/-- Items that all belong to one owner are those of this owner, and no other has any. -/
theorem filter_owner {α : Type} {ownerOf : α → String} {xs : List α} {owner : String}
    (h : ∀ x ∈ xs, ownerOf x = owner) (o : String) :
    xs.filter (ownerOf · == o) = if owner = o then xs else [] := by
  by_cases ho : owner = o
  · rw [if_pos ho, List.filter_eq_self]
    intro x hx
    rw [h x hx, ho, beq_self_eq_true]
  · rw [if_neg ho, List.filter_eq_nil_iff]
    intro x hx
    rw [h x hx, beq_iff_eq]
    exact ho

/-- What is written for an owner when one more is written. -/
theorem flatMap_owner_concat {α : Type} (items : OwnerDocument → List α) (owners : List OwnerDocument)
    (o : OwnerDocument) (owner : String) : ((owners ++ [o]).filter (·.name == owner)).flatMap items =
      (owners.filter (·.name == owner)).flatMap items ++ if o.name = owner then items o else [] := by
  rw [List.filter_append, List.flatMap_append]
  by_cases h : o.name = owner <;> simp [h]

theorem forall₂_ite {α β : Type} {R : α → β → Prop} {as : List α} {bs : List β} {p : Prop} [Decidable p]
    (h : p → List.Forall₂ R as bs) : List.Forall₂ R (if p then as else []) (if p then bs else []) := by
  by_cases hp : p
  · rw [if_pos hp, if_pos hp]
    exact h hp
  · rw [if_neg hp, if_neg hp]
    exact .nil

/-- Adding an owner keeps a catalog what the document says so far. -/
theorem Describes.addTo {owners : List OwnerDocument} {o : OwnerDocument} {c c' : Catalog}
    (h : Describes ms ⟨owners⟩ c) (hadd : o.addTo ms c = .ok c') :
    Describes ms ⟨owners ++ [o]⟩ c' := by
  obtain ⟨is, hs, his, hhs, rfl⟩ := OwnerDocument.addTo_eq_ok_iff.1 hadd
  have his := his.imp fun _ _ => InitializerDocument.describes_of_initializer
  have hhs := hhs.imp fun _ _ => HandlerDocument.describes_of_handler
  have hiowner : ∀ i ∈ is, i.owner = o.name := forall_mem_of_forall₂ his fun _ _ hd => hd.owner
  have hhowner : ∀ x ∈ hs, x.owner = o.name := forall_mem_of_forall₂ hhs fun _ _ hd => hd.owner
  have hmentioned : o.name ∈ (c.addOwner o.name).owners := by
    rw [Catalog.owners_addOwner]
    split <;> simp_all
  have hinitialized : (is.foldl Catalog.addInitializer (c.addOwner o.name)).owners =
      (c.addOwner o.name).owners :=
    Catalog.owners_foldl (fun _ => Catalog.owners_addInitializer)
      fun i hi => (hiowner i hi).symm ▸ hmentioned
  constructor
  · rw [Catalog.owners_foldl (fun _ => Catalog.owners_addHandler), hinitialized,
      Catalog.owners_addOwner, h.owners, List.map_append, List.map_singleton, eraseDups_concat]
    · simp only [List.mem_eraseDups]
    · intro x hx
      rw [hinitialized, hhowner x hx]
      exact hmentioned
  · intro owner
    rw [Catalog.initializers_foldl_addHandler, Catalog.initializers_foldl_addInitializer,
      Catalog.initializers_addOwner, CatalogDocument.initializers, flatMap_owner_concat, filter_owner hiowner]
    exact List.rel_append (h.initializers owner) (forall₂_ite fun ho => ho ▸ his)
  · intro owner
    rw [Catalog.handlers_foldl_addHandler, Catalog.handlers_foldl_addInitializer,
      Catalog.handlers_addOwner, CatalogDocument.handlers, flatMap_owner_concat, filter_owner hhowner]
    exact List.rel_append (h.handlers owner) (forall₂_ite fun ho => ho ▸ hhs)

theorem describes_empty : Describes ms ⟨[]⟩ .empty := ⟨rfl, fun _ => .nil, fun _ => .nil⟩

theorem Describes.addAll {before owners : List OwnerDocument} {c c' : Catalog}
    (h : Describes ms ⟨before⟩ c) (hadd : owners.foldlM (OwnerDocument.addTo ms) c = .ok c') :
    Describes ms ⟨before ++ owners⟩ c' := by
  induction owners generalizing before c with
  | nil =>
    obtain rfl := Except.ok.inj hadd
    rw [List.append_nil]
    exact h
  | cons o rest ih =>
    rw [List.foldlM_cons, bind_eq_ok_iff] at hadd
    obtain ⟨w, hw, hrest⟩ := hadd
    rw [← List.singleton_append, ← List.append_assoc]
    exact ih (h.addTo hw) hrest

theorem describes_of_catalog {d : CatalogDocument} {c : Catalog} (h : d.catalog ms = .ok c) :
    d.Describes ms c := by
  have hdescribes := describes_empty.addAll h
  rw [List.nil_append] at hdescribes
  exact hdescribes

theorem exists_catalog_iff {d : CatalogDocument} :
    (∃ c, d.catalog ms = .ok c) ↔ ∀ item ∈ d.items, item.Converts ms := by
  rw [← errorOf?_eq_none_iff, d.errorOf?_catalog, List.findSome?_eq_none_iff]
  simp only [DocumentItem.failure?_eq_none_iff]

/-- A document gives a catalog just when each of its items can be interpreted, and then the catalog
holds what the document says, in order. Otherwise the failure is that of the first item that cannot
be interpreted. -/
theorem catalog_in_order (d : CatalogDocument) (ms : Matchers) :
    ((∃ c, d.catalog ms = .ok c) ↔ ∀ item ∈ d.items, item.Converts ms) ∧
    (∀ c, d.catalog ms = .ok c → d.Describes ms c) ∧
    ∀ f, d.catalog ms = .error f ↔ ∃ before item after, d.items = before ++ item :: after ∧
      (∀ i ∈ before, i.Converts ms) ∧ item.failure? ms = some f := by
  refine ⟨exists_catalog_iff, fun c => describes_of_catalog, fun f => ?_⟩
  rw [← errorOf?_eq_some_iff, d.errorOf?_catalog, List.findSome?_eq_some_iff]
  simp only [DocumentItem.failure?_eq_none_iff]
  constructor
  · rintro ⟨before, item, after, hsplit, hf, hbefore⟩
    exact ⟨before, item, after, hsplit, hbefore, hf⟩
  · rintro ⟨before, item, after, hsplit, hbefore, hf⟩
    exact ⟨before, item, after, hsplit, hf, hbefore⟩

/-- An owner that is written before and after another one; and an owner whose handler and whose
initializer both fail, of which the initializer comes first. -/
theorem catalog_in_order_merged :
    let a : OwnerDocument :=
      { name := "A", initializers := [⟨"i", [{ name := "r", url := "x" }]⟩], handlers := [⟨"h", []⟩] }
    let b : OwnerDocument := { name := "B", handlers := [⟨"g", [.nonAction]⟩] }
    let again : OwnerDocument := { name := "A", handlers := [⟨"k", [.verb "get"]⟩] }
    let faulty : OwnerDocument :=
      { name := "B", handlers := [⟨"g", [.verb "GRAB"]⟩],
        initializers := [⟨"j", [{ name := "s", url := "y", constraints := [("k", .null)] }]⟩] }
    (∃ c, catalog [] ⟨[a, b, again]⟩ = .ok c ∧ Describes [] ⟨[a, b, again]⟩ c ∧
      c.owners = ["A", "B"] ∧ (c.handlers "A").map Handler.name = ["h", "k"]) ∧
    catalog [] ⟨[a, faulty]⟩ =
      .error ⟨[.addingOwner "B", .addingRoute "s" "j"], .fault (.unsupportedConstraint .null)⟩ := by
  intro a b again faulty
  obtain ⟨hok, hdescribes, -⟩ := catalog_in_order ⟨[a, b, again]⟩ []
  obtain ⟨-, -, hfails⟩ := catalog_in_order ⟨[a, faulty]⟩ []
  have hroute : DocumentItem.Converts [] (.route "A" "i" { name := "r", url := "x" }) :=
    ⟨_, .plain rfl .nil⟩
  have hverb : DocumentItem.Converts [] (.marker "A" "k" (.verb "get")) :=
    ⟨_, .verb (v := .get) (by unfold Verb.NamedBy; decide +kernel)⟩
  constructor
  · have hitems : items ⟨[a, b, again]⟩ = [.route "A" "i" { name := "r", url := "x" },
      .marker "B" "g" .nonAction, .marker "A" "k" (.verb "get")] := rfl
    obtain ⟨c, hc⟩ := hok.2 (by
      rw [hitems]
      simp only [List.forall_mem_cons]
      exact ⟨hroute, ⟨_, .nonAction⟩, hverb, fun _ h => nomatch h⟩)
    have hd := hdescribes c hc
    have hhandlers : List.Forall₂ (HandlerDocument.Describes [] "A")
      [⟨"h", []⟩, ⟨"k", [.verb "get"]⟩] (c.handlers "A") := hd.handlers "A"
    obtain ⟨h, rest, hh, hrest, hcons⟩ := List.forall₂_cons_left_iff.1 hhandlers
    obtain ⟨k, rest', hk, hnil, hcons'⟩ := List.forall₂_cons_left_iff.1 hrest
    rw [List.forall₂_nil_left_iff] at hnil
    exact ⟨c, hc, hd, hd.owners, by simp [hcons, hcons', hnil, hh.name, hk.name]⟩
  · apply (hfails _).2
    refine ⟨[.route "A" "i" { name := "r", url := "x" }], _, _, rfl, ?_, rfl⟩
    rw [List.forall_mem_singleton]
    exact hroute

end CatalogDocument

end Routebook
