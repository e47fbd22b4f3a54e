import Mathlib.Data.Option.Basic
import Routebook.Json.Reader

/-!
# The keys of JSON data

A datum may have keys of any kind; one that was read from a JSON text has none but texts. So it has a JSON
value.

* `Datum.Keyed` : every key in the datum is a text;
* `Datum.Keyed.exists_toJson?` : such a datum has a JSON value;
* `Json.keyed_of_datum?` : what a JSON text writes is such a datum.
-/

namespace Routebook

namespace Datum

/-- Every key of every mapping in the datum is a text. -/
inductive Keyed : Datum → Prop
  | null : Keyed .null
  | bool (value : Bool) : Keyed (.bool value)
  | int (value : Int) : Keyed (.int value)
  | float (value : Float) : Keyed (.float value)
  | str (value : String) : Keyed (.str value)
  | seq {items : List Datum} (hitems : ∀ d ∈ items, Keyed d) : Keyed (.seq items)
  | map {entries : List (Datum × Datum)} (hkeys : ∀ e ∈ entries, ∃ s, e.1 = .str s)
      (hvalues : ∀ e ∈ entries, Keyed e.2) : Keyed (.map entries)

namespace Keyed

theorem of_mem_seq {items : List Datum} (h : (Datum.seq items).Keyed) : ∀ d ∈ items, d.Keyed := by
  cases h with
  | seq hitems => exact hitems

theorem key_of_mem {entries : List (Datum × Datum)} (h : (Datum.map entries).Keyed) :
    ∀ e ∈ entries, ∃ s, e.1 = .str s := by
  cases h with
  | map hkeys _ => exact hkeys

theorem of_mem_map {entries : List (Datum × Datum)} (h : (Datum.map entries).Keyed) :
    ∀ e ∈ entries, e.2.Keyed := by
  cases h with
  | map _ hvalues => exact hvalues

theorem of_subset {entries kept : List (Datum × Datum)} (h : (Datum.map entries).Keyed)
    (hkept : kept ⊆ entries) : (Datum.map kept).Keyed :=
  .map (fun e he => h.key_of_mem e (hkept he)) fun e he => h.of_mem_map e (hkept he)

theorem exists_itemsToJson? {items : List Datum} (h : ∀ d ∈ items, ∃ j, d.toJson? = some j) :
    ∃ js, itemsToJson? items = some js := by
  induction items with
  | nil => exact ⟨[], rfl⟩
  | cons d rest ih =>
    obtain ⟨j, hj⟩ := h d List.mem_cons_self
    obtain ⟨js, hjs⟩ := ih fun d' hd' => h d' (List.mem_cons_of_mem d hd')
    exact ⟨j :: js, by simp [itemsToJson?, hj, hjs]⟩

theorem exists_membersToJson? {entries : List (Datum × Datum)} (hkeys : ∀ e ∈ entries, ∃ s, e.1 = .str s)
    (hvalues : ∀ e ∈ entries, ∃ j, e.2.toJson? = some j) (members : List (String × Json)) :
    ∃ result, membersToJson? entries members = some result := by
  induction entries generalizing members with
  | nil => exact ⟨members, rfl⟩
  | cons e rest ih =>
    obtain ⟨key, value⟩ := e
    obtain ⟨s, rfl⟩ : ∃ s, key = .str s := hkeys (key, value) List.mem_cons_self
    obtain ⟨j, hj⟩ : ∃ j, value.toJson? = some j := hvalues (_, value) List.mem_cons_self
    obtain ⟨result, hresult⟩ := ih (fun e he => hkeys e (List.mem_cons_of_mem _ he))
      (fun e he => hvalues e (List.mem_cons_of_mem _ he)) (Json.setMember s j members)
    exact ⟨result, by simp [membersToJson?, text?, hj, hresult]⟩

theorem exists_toJson? {d : Datum} (h : d.Keyed) : ∃ j, d.toJson? = some j := by
  induction h with
  | null => exact ⟨.null, by rw [toJson?]⟩
  | bool b => exact ⟨.bool b, by rw [toJson?]⟩
  | int n => exact ⟨.num (.int n), by rw [toJson?]⟩
  | float x => exact ⟨ofFloat x, by rw [toJson?]⟩
  | str s => exact ⟨.str s, by rw [toJson?]⟩
  | seq _ ih =>
    obtain ⟨js, hjs⟩ := exists_itemsToJson? ih
    exact ⟨.arr js, by rw [toJson?, hjs, Option.map_some]⟩
  | map hkeys _ ih =>
    obtain ⟨members, hmembers⟩ := exists_membersToJson? hkeys ih []
    exact ⟨.obj members, by rw [toJson?, hmembers, Option.map_some]⟩

end Keyed

end Datum

/-! ## What is read -/

namespace Json

variable {negative : Bool} {s rest : List Char} {d : Datum}

theorem keyed_of_finish {sig : Nat} {e : Int} {isInt : Bool}
    (h : readNumber.finish negative sig e isInt s = some (d, rest)) : d.Keyed := by
  unfold readNumber.finish at h
  split at h
  · cases h
    exact .int _
  · split at h
    · cases h
      exact .int _
    · obtain ⟨f, -, hf⟩ := Option.map_eq_some_iff.1 h
      cases hf
      exact .float _

theorem keyed_of_tail {sig : Nat} {e : Int} {isInt : Bool} (h : (match s with
      | c :: tail =>
        if c == 'e' || c == 'E' then (readExponent tail).bind fun x =>
          match x.2.1 with
          | some n => (floatOf negative sig (if x.1 then e + n else e - n)).bind fun f =>
            some (Datum.float f, x.2.2)
          | none => Option.bind (guard (sig == 0 || !x.1)) fun _ =>
            some (Datum.float (if negative then -0.0 else 0.0), x.2.2)
        else readNumber.finish negative sig e isInt s
      | [] => readNumber.finish negative sig e isInt s) = some (d, rest)) : d.Keyed := by
  split at h
  · split at h
    · obtain ⟨x, -, h⟩ := Option.bind_eq_some_iff.1 h
      split at h
      · obtain ⟨f, -, hf⟩ := Option.bind_eq_some_iff.1 h
        cases hf
        exact .float _
      · obtain ⟨_, -, hf⟩ := Option.bind_eq_some_iff.1 h
        cases hf
        exact .float _
    · exact keyed_of_finish h
  · exact keyed_of_finish h

theorem keyed_of_readNumber (h : readNumber negative s = some (d, rest)) : d.Keyed := by
  unfold readNumber at h
  obtain ⟨_, -, h⟩ := Option.bind_eq_some_iff.1 h
  dsimp only at h
  split at h
  · obtain ⟨_, -, h⟩ := Option.bind_eq_some_iff.1 h
    exact keyed_of_tail h
  · exact keyed_of_tail h

/-- Whatever the readers read has texts for keys, by induction on the fuel that they share. -/
theorem keyed_of_read (fuel : Nat) :
    (∀ {depth s d rest}, readValue fuel depth s = some (d, rest) → d.Keyed) ∧
    (∀ {depth s ds rest}, readItems fuel depth s = some (ds, rest) → ∀ d ∈ ds, d.Keyed) ∧
    ∀ {depth s es rest}, readMembers fuel depth s = some (es, rest) →
      ∀ e ∈ es, (∃ key, e.1 = .str key) ∧ e.2.Keyed := by
  induction fuel with
  | zero => exact ⟨nofun, nofun, nofun⟩
  | succ fuel ih =>
    obtain ⟨hvalue, hitems, hmembers⟩ := ih
    refine ⟨?_, ?_, ?_⟩
    · intro depth s d rest h
      unfold readValue at h
      split at h
      · cases h
        exact .null
      · cases h
        exact .bool _
      · cases h
        exact .bool _
      · obtain ⟨r, -, hr⟩ := Option.map_eq_some_iff.1 h
        cases hr
        exact .str _
      · exact keyed_of_readNumber h
      · cases depth with
        | zero => cases h
        | succ depth =>
          dsimp only at h
          split at h
          · cases h
            exact .seq nofun
          · obtain ⟨⟨ds, rest⟩, hds, hr⟩ := Option.map_eq_some_iff.1 h
            cases hr
            exact .seq (hitems hds)
      · cases depth with
        | zero => cases h
        | succ depth =>
          dsimp only at h
          split at h
          · cases h
            exact .map nofun nofun
          · obtain ⟨⟨es, rest⟩, hes, hr⟩ := Option.map_eq_some_iff.1 h
            cases hr
            exact .map (fun e he => (hmembers hes e he).1) fun e he => (hmembers hes e he).2
      · exact keyed_of_readNumber h
    · intro depth s ds rest h
      unfold readItems at h
      obtain ⟨⟨v, tail⟩, hv, h⟩ := Option.bind_eq_some_iff.1 h
      dsimp only at h
      split at h
      · obtain ⟨⟨vs, tail'⟩, hvs, h⟩ := Option.bind_eq_some_iff.1 h
        cases h
        exact List.forall_mem_cons.2 ⟨hvalue hv, hitems hvs⟩
      · cases h
        exact List.forall_mem_singleton.2 (hvalue hv)
      · cases h
    · intro depth s es rest h
      unfold readMembers at h
      split at h
      · obtain ⟨⟨key, tail⟩, -, h⟩ := Option.bind_eq_some_iff.1 h
        dsimp only at h
        split at h
        · obtain ⟨⟨v, tail'⟩, hv, h⟩ := Option.bind_eq_some_iff.1 h
          dsimp only at h
          split at h
          · obtain ⟨⟨vs, tail''⟩, hvs, h⟩ := Option.bind_eq_some_iff.1 h
            cases h
            exact List.forall_mem_cons.2 ⟨⟨⟨key, rfl⟩, hvalue hv⟩, hmembers hvs⟩
          · cases h
            exact List.forall_mem_singleton.2 ⟨⟨key, rfl⟩, hvalue hv⟩
          · cases h
        · cases h
      · cases h

/-- A JSON text has no keys but texts. -/
theorem keyed_of_datum? {text : String} (h : datum? text = some d) : d.Keyed := by
  obtain ⟨⟨v, rest⟩, hread, h⟩ := Option.bind_eq_some_iff.1 h
  dsimp only at h
  split at h
  · cases h
    exact (keyed_of_read _).1 hread
  · cases h

end Json

end Routebook
