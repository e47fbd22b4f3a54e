import Routebook.Catalog.Text

/-!
# Initializers of written catalogs

A document writes no programs, only routes. So every initializer of a catalog that was read from a
text registers given entries in order.

* `foldlM_of_forall` : what every step of a reading keeps, the reading keeps;
* `Catalog.EachInitializer` : all initializers of a catalog have a property;
* `Catalog.initializer_of_parse` : what the initializers of a written catalog are.
-/

namespace Routebook

/-! ## Readings that succeed -/

section Readings

variable {ε α β : Type}

theorem bind_eq_ok_iff {x : Except ε α} {f : α → Except ε β} {b : β} :
    x >>= f = .ok b ↔ ∃ a, x = .ok a ∧ f a = .ok b := by
  cases x with
  | error e =>
    constructor
    · rintro ⟨⟩
    · rintro ⟨_, ⟨⟩, _⟩
  | ok a =>
    constructor
    · intro h
      exact ⟨a, rfl, h⟩
    · rintro ⟨_, ⟨⟩, h⟩
      exact h

theorem foldlM_of_forall {P : β → Prop} {f : β → α → Except ε β}
    (hf : ∀ b a b', P b → f b a = .ok b' → P b') :
    ∀ {as : List α} {b r : β}, P b → as.foldlM f b = .ok r → P r
  | [], _, _, hb, h => Except.ok.inj h ▸ hb
  | a :: rest, b, r, hb, h => by
    rw [List.foldlM_cons, bind_eq_ok_iff] at h
    obtain ⟨b', hstep, hrest⟩ := h
    exact foldlM_of_forall hf (hf b a b' hb hstep) hrest

end Readings

theorem duringActivity_eq_ok_iff {α : Type} {activity : Activity} {x : Except Failure α} {a : α} :
    duringActivity activity x = .ok a ↔ x = .ok a := by
  cases x <;> simp [duringActivity]

/-! ## Properties of all initializers -/

namespace Catalog

theorem updateScopes_forall {P : Scope → Prop} {owner : String} {change : Scope → Scope}
    (hnew : P (change { owner })) (hchange : ∀ s, P s → P (change s)) :
    ∀ {scopes : List Scope}, (∀ s ∈ scopes, P s) → ∀ s ∈ updateScopes owner change scopes, P s
  | [], _ => List.forall_mem_singleton.2 hnew
  | s :: rest, h => by
    obtain ⟨hs, hrest⟩ := List.forall_mem_cons.1 h
    unfold updateScopes
    split
    · exact List.forall_mem_cons.2 ⟨hchange s hs, hrest⟩
    · exact List.forall_mem_cons.2 ⟨hs, updateScopes_forall hnew hchange hrest⟩

/-- Every initializer of the catalog has a property. -/
def EachInitializer (P : Initializer → Prop) (c : Catalog) : Prop :=
  ∀ s ∈ c.scopes, ∀ i ∈ s.initializers, P i

namespace EachInitializer

variable {P : Initializer → Prop} {c : Catalog}

theorem empty : EachInitializer P Catalog.empty := fun _ h => nomatch h

theorem addOwner (h : EachInitializer P c) (owner : String) : EachInitializer P (c.addOwner owner) :=
  updateScopes_forall (fun _ h => nomatch h) (fun _ hs => hs) h

theorem addHandler (h : EachInitializer P c) (hd : Handler) : EachInitializer P (c.addHandler hd) := by
  refine updateScopes_forall (fun _ h => nomatch h) (fun s hs => ?_) h
  exact hs

theorem addInitializer (h : EachInitializer P c) {i : Initializer} (hi : P i) :
    EachInitializer P (c.addInitializer i) := by
  refine updateScopes_forall (List.forall_mem_singleton.2 hi) (fun s hs => ?_) h
  exact List.forall_mem_append.2 ⟨hs, List.forall_mem_singleton.2 hi⟩

theorem of_mem (h : EachInitializer P c) {owner : String} {i : Initializer}
    (hi : i ∈ c.initializers owner) : P i := by
  unfold initializers scope scope? at hi
  cases hs : c.scopes.find? fun s => s.owner == owner with
  | none =>
    rw [hs] at hi
    exact nomatch hi
  | some s =>
    rw [hs] at hi
    exact h s (List.mem_of_find?_eq_some hs) i hi

end EachInitializer

end Catalog

/-! ## Documents -/

theorem InitializerDocument.initializer_eq_ok {ms : Matchers} {owner : String}
    {d : InitializerDocument} {i : Initializer} (h : d.initializer ms owner = .ok i) :
    ∃ es, i = .ofEntries owner d.name es := by
  obtain ⟨es, -, hi⟩ := bind_eq_ok_iff.1 h
  exact ⟨es, (Except.ok.inj hi).symm⟩

/-- The initializer registers given entries in order. -/
def Initializer.Written (i : Initializer) : Prop := ∃ es, i = .ofEntries i.owner i.name es

theorem OwnerDocument.addTo_written {ms : Matchers} {d : OwnerDocument} {c c' : Catalog}
    (hc : c.EachInitializer Initializer.Written) (h : d.addTo ms c = .ok c') :
    c'.EachInitializer Initializer.Written := by
  obtain ⟨withInitializers, hinit, hhandlers⟩ := bind_eq_ok_iff.1 h
  have hwritten : withInitializers.EachInitializer Initializer.Written := by
    refine foldlM_of_forall (fun b i b' hb hi => ?_) (hc.addOwner d.name) hinit
    obtain ⟨i', hi', hadd⟩ := bind_eq_ok_iff.1 hi
    obtain ⟨es, rfl⟩ := InitializerDocument.initializer_eq_ok (duringActivity_eq_ok_iff.1 hi')
    cases hadd
    exact hb.addInitializer ⟨es, rfl⟩
  refine foldlM_of_forall (fun b hd b' hb hh => ?_) hwritten hhandlers
  obtain ⟨hd', -, hadd⟩ := bind_eq_ok_iff.1 hh
  cases hadd
  exact hb.addHandler hd'

/-- Every initializer of a written catalog registers given entries in order. -/
theorem Catalog.initializer_of_parse {n : CatalogNotation} {text : String} {ms : Matchers}
    {c : Catalog} (h : Catalog.parse n text ms = .ok c) {owner : String} {i : Initializer}
    (hi : i ∈ c.initializers owner) : i.Written := by
  unfold Catalog.parse at h
  cases hd : CatalogDocument.parse n text with
  | error f =>
    rw [hd] at h
    cases h
  | ok d =>
    rw [hd] at h
    have hwritten : c.EachInitializer Initializer.Written :=
      foldlM_of_forall (fun b o b' hb ho => OwnerDocument.addTo_written hb ho) EachInitializer.empty h
    exact hwritten.of_mem hi

end Routebook
