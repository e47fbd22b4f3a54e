import Routebook.CommandLine.Run
import Routebook.Proofs.Json.Layout
import Routebook.Proofs.Table.Dispatch

/-!
# What a command prints

A command prints piece by piece. Whatever can fail comes before its first piece.

* `Printed.Prints` : a part succeeds and has printed a text; `Printed.Clean` : a part that fails has printed
  nothing;
* `CaselessMap.laidOut`, `Entry.laidOut` : the texts of maps and entries, key by key, which are those of their
  JSON forms (`CaselessMap.laidOut_toJson`, `Entry.laidOut_toJson`);
* `Entry.lines`, `listing` : what entries print (`Entry.prints_lines`, `prints_listing`);
* `AnswerTo` : what a request is answered with (`exists_printAnswer`);
* `Invocation.print_clean` : an invocation that fails prints nothing.
-/

namespace Routebook

open RouteTable (WellFormed)

namespace Printed

variable {α β : Type} {p : Printed α} {f : α → Printed β} {a : α}

/-- The part succeeds and has printed a text. -/
def Prints (p : Printed Unit) (text : String) : Prop := p.result = .ok () ∧ p.text = text

/-- If the part fails, it has printed nothing. -/
def Clean (p : Printed α) : Prop := ∀ e, p.result = .error e → p.text = ""

theorem andThen_of_ok (h : p.result = .ok a) (f : α → Printed β) :
    p.andThen f = ⟨(f a).result, p.text ++ (f a).text, p.events ++ (f a).events⟩ := by
  rw [andThen, h]

theorem andThen_of_error {e : Failure} (h : p.result = .error e) (f : α → Printed β) :
    p.andThen f = ⟨.error e, p.text, p.events⟩ := by
  rw [andThen, h]

theorem andThen_eq_ok_iff {b : β} :
    (p.andThen f).result = .ok b ↔ ∃ a, p.result = .ok a ∧ (f a).result = .ok b := by
  cases h : p.result with
  | error e => simp [andThen_of_error h]
  | ok a => simp [andThen_of_ok h]

theorem prints_write (text : String) : (write text).Prints text := ⟨rfl, rfl⟩

theorem Prints.andThen {p : Printed Unit} {f : Unit → Printed Unit} {s s' : String} (hp : p.Prints s)
    (hf : (f ()).Prints s') : (p.andThen f).Prints (s ++ s') := by
  rw [Prints, andThen_of_ok hp.1, hp.2, hf.2]
  exact ⟨hf.1, rfl⟩

theorem prints_andThen {f : α → Printed Unit} {text : String} (h : p.result = .ok a) (hnone : p.text = "")
    (hf : (f a).Prints text) : (p.andThen f).Prints text := by
  rw [Prints, andThen_of_ok h, hnone, String.empty_append]
  exact hf

theorem Prints.clean {p : Printed Unit} {text : String} (h : p.Prints text) : p.Clean := by
  intro e he
  cases h.1.symm.trans he

theorem clean_andThen (hnone : p.text = "") (hf : ∀ a, (f a).Clean) : (p.andThen f).Clean := by
  intro e he
  cases h : p.result with
  | error e' => rw [andThen_of_error h, hnone]
  | ok a =>
    rw [andThen_of_ok h] at he ⊢
    show p.text ++ (f a).text = ""
    rw [hnone, hf a e he, String.empty_append]

end Printed

open Printed (prints_write)

/-! ## Texts of entries -/

section

open Json (Layout inQuotes laidOut)

variable {α : Type}

/-- The object of a map: its keys in order, each with the text of its value. -/
def CaselessMap.laidOut (l : Layout) (text : Layout → α → String) (m : CaselessMap α) : String :=
  l.object (m.entries.map fun e => (e.1, text l.inner e.2))

def RouteValue.laidOut (l : Layout) : RouteValue → String
  | .literal v => v.laidOut l
  | .optional => "null"

/-- An expression as a string, names of methods as a list of strings, a matcher by its name. -/
def Constraint.laidOut (l : Layout) : Constraint → String
  | .pattern source => inQuotes source
  | .methods names => l.list (names.map inQuotes)
  | .custom m => l.object [("custom", inQuotes m.name)]

/-- The object of an entry. -/
def Entry.laidOut (l : Layout) (e : Entry) : String :=
  l.object [("name", inQuotes e.name), ("url", inQuotes e.url),
    ("defaults", e.defaults.laidOut l.inner RouteValue.laidOut),
    ("constraints", e.constraints.laidOut l.inner Constraint.laidOut)]

theorem RouteValue.laidOut_toJson (l : Layout) (v : RouteValue) : v.toJson.laidOut l = v.laidOut l := by
  cases v with
  | literal v => rfl
  | optional => rw [toJson, Json.laidOut, laidOut]

theorem Constraint.laidOut_toJson (l : Layout) (c : Constraint) : c.toJson.laidOut l = c.laidOut l := by
  cases c with
  | pattern source => rw [toJson, Json.laidOut, laidOut]
  | methods names =>
    rw [toJson, Json.laidOut, laidOut, List.map_map]
    simp only [Function.comp_def, Json.laidOut]
  | custom m =>
    rw [toJson, Json.laidOut, laidOut, List.map_singleton, Json.laidOut]

/-- The JSON form of a map has every key and value, in order. -/
theorem CaselessMap.laidOut_toJson {value : α → Json} {text : Layout → α → String}
    (h : ∀ l a, (value a).laidOut l = text l a) (l : Layout) (m : CaselessMap α) :
    (m.toJson value).laidOut l = m.laidOut l text := by
  rw [toJson, Json.laidOut, laidOut, List.map_map]
  simp only [Function.comp_def, h]

example : CaselessMap.laidOut .line RouteValue.laidOut
      ⟨[("p1", .ofText "blah"), ("p2", .optional)], by decide⟩ =
    "\x7b\"p1\":\"blah\",\"p2\":null\x7d" := by cbv

theorem Entry.laidOut_toJson (l : Layout) (e : Entry) : e.toJson.laidOut l = e.laidOut l := by
  rw [toJson, Json.laidOut, laidOut]
  simp only [List.map_cons, List.map_nil, Json.laidOut,
    CaselessMap.laidOut_toJson RouteValue.laidOut_toJson, CaselessMap.laidOut_toJson Constraint.laidOut_toJson]

end

/-! ## Listings -/

/-- The lines about an entry. -/
def Entry.lines (e : Entry) : String :=
  e.name ++ "  " ++ e.url ++ "\n" ++
    ("    defaults:    " ++ e.defaults.laidOut .line RouteValue.laidOut ++ "\n" ++
      ("    constraints: " ++ e.constraints.laidOut .line Constraint.laidOut ++ "\n"))

theorem compact_values (values : RouteValues) :
    (values.toJson RouteValue.toJson).compact = values.laidOut .line RouteValue.laidOut := by
  rw [Json.compact_eq, CaselessMap.laidOut_toJson RouteValue.laidOut_toJson]

theorem Entry.prints_lines (e : Entry) : e.print.Prints e.lines := by
  rw [lines, ← compact_values, ← CaselessMap.laidOut_toJson Constraint.laidOut_toJson, ← Json.compact_eq]
  exact (prints_write _).andThen ((prints_write _).andThen (prints_write _))

/-- The text of a listing: the lines of the entries in order and their number, or all of them as JSON. -/
def listing (json : Bool) (entries : List Entry) : String :=
  if json then (Json.Layout.block 0).list (entries.map (Entry.laidOut (.block 1))) ++ "\n"
  else String.join (entries.map Entry.lines) ++ (toString entries.length ++ " routes\n")

theorem prints_entries (es : List Entry) : (printEntries es).Prints (String.join (es.map Entry.lines)) := by
  induction es with
  | nil => exact ⟨rfl, rfl⟩
  | cons e rest ih =>
    rw [List.map_cons, String.join_cons]
    exact e.prints_lines.andThen ih

theorem prints_listing (json : Bool) (es : List Entry) : (printListing json es).Prints (listing json es) := by
  cases json with
  | false => exact (prints_entries es).andThen (prints_write _)
  | true =>
    have htext : (Json.arr (es.map Entry.toJson)).pretty =
        (Json.Layout.block 0).list (es.map (Entry.laidOut (.block 1))) := by
      rw [Json.pretty_eq, Json.laidOut, List.map_map, Function.comp_def]
      simp only [Entry.laidOut_toJson, Json.Layout.inner]
    rw [printListing, if_pos rfl, listing, if_pos rfl, ← htext]
    exact (prints_write _).andThen (prints_write "\n")

/-! ## Answers -/

/-- The line about the values of a match. -/
def valuesLine (values : RouteValues) : String :=
  "    values:      " ++ values.laidOut .line RouteValue.laidOut ++ "\n"

/-- What a request is answered with, given the entries in order: the lines of the first that takes it and the
values of the match, or one line if none does. -/
inductive AnswerTo (entries : List Entry) (method path : String) : String → Prop
  | first {before after : List Entry} {e : Entry} {values : RouteValues} (hsplit : entries = before ++ e :: after)
      (htakes : e.Takes ⟨method, path⟩ values) (hbefore : ∀ e' ∈ before, ∀ v, ¬ e'.Takes ⟨method, path⟩ v) :
      AnswerTo entries method path (e.lines ++ valuesLine values)
  | none (hnone : ∀ e ∈ entries, ∀ v, ¬ e.Takes ⟨method, path⟩ v) :
      AnswerTo entries method path ("no route matches " ++ method ++ " " ++ path ++ "\n")

theorem exists_printAnswer {t : RouteTable} (ht : WellFormed t) (method path : String) :
    ∃ text, AnswerTo t.entries method path text ∧ (printAnswer t method path).Prints text := by
  cases hroute : t.route method path with
  | none =>
    refine ⟨_, .none (ht.route_eq_none_iff.1 hroute), Printed.prints_andThen rfl rfl ?_⟩
    rw [hroute]
    exact prints_write _
  | some m =>
    obtain ⟨before, after, hsplit, htakes, hbefore⟩ := ht.route_eq_some_iff.1 hroute
    refine ⟨_, .first hsplit htakes hbefore, Printed.prints_andThen rfl rfl ?_⟩
    rw [hroute]
    dsimp only
    rw [compact_values]
    exact m.entry.prints_lines.andThen (prints_write _)

/-! ## Failures -/

theorem printAnswer_clean (t : RouteTable) (method path : String) : (printAnswer t method path).Clean := by
  refine Printed.clean_andThen rfl fun answer => ?_
  cases answer with
  | none => exact (prints_write _).clean
  | some m => exact (m.entry.prints_lines.andThen (prints_write _)).clean

theorem Command.print_clean (files : Files) (c : Config) (command : Command) : (command.print files c).Clean := by
  cases command with
  | compile catalog owner json => exact Printed.clean_andThen rfl fun t => (prints_listing json t.2).clean
  | route catalog method path =>
    refine Printed.clean_andThen rfl fun method => Printed.clean_andThen rfl fun t => ?_
    exact printAnswer_clean t.1 method path

/-- An invocation that fails has printed nothing. -/
theorem Invocation.print_clean (files : Files) (env : Environment) (i : Invocation) : (i.print files env).Clean :=
  Printed.clean_andThen rfl fun c => i.command.print_clean files c

end Routebook
