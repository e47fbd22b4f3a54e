import Mathlib.Data.List.Permutation
import Routebook.Proofs.CommandLine.Printing
import Routebook.Proofs.Compile.Sections

/-!
# Commands on one catalog agree

Each command loads the catalog file and compiles it by itself, on an empty table. Where the whole catalog
compiles, so do its owners, and what one command lists another one finds.

* `readMethod_eq_ok_iff` : what is a method;
* `compileFile_eq_ok_iff` : a catalog file compiles;
* `Invocation.prints_compile`, `Invocation.prints_route` : what the commands print;
* `commands_agree` : how this fits together.
-/

namespace Routebook

open RouteTable (WellFormed)

/-! ## Methods -/

theorem isUpper_toUpper {ch : Char} (h : 'a'.val ≤ ch.val ∧ ch.val ≤ 'z'.val) : ch.toUpper.isUpper = true := by
  have hval : ch.toUpper.val = ch.val + ('A'.val - 'a'.val) := by
    show Char.val (dite ('a'.val ≤ ch.val ∧ ch.val ≤ 'z'.val) _ _) = _
    rw [dif_pos h]
  refine decide_eq_true (?_ : 'A'.val ≤ ch.toUpper.val ∧ ch.toUpper.val ≤ 'Z'.val)
  grind [UInt32.toNat_add]

theorem isMethodChar_of_isAlpha {ch : Char} (h : ch.isAlpha = true) : isMethodChar ch = true :=
  Bool.or_eq_true_iff.2 (.inl (Bool.or_eq_true_iff.2 (.inl h)))

theorem isMethodChar_toUpper (ch : Char) : isMethodChar ch.toUpper = isMethodChar ch := by
  by_cases h : 'a'.val ≤ ch.val ∧ ch.val ≤ 'z'.val
  · have hlower : ch.isLower = true := Bool.and_eq_true_iff.2 ⟨decide_eq_true h.1, decide_eq_true h.2⟩
    rw [isMethodChar_of_isAlpha (Bool.or_eq_true_iff.2 (.inr hlower)),
      isMethodChar_of_isAlpha (Bool.or_eq_true_iff.2 (.inl (isUpper_toUpper h)))]
  · rw [show ch.toUpper = ch from dif_neg h]

/-- The text is not empty and has only characters of a method. -/
def IsMethod (method : String) : Prop := method ≠ "" ∧ ∀ ch ∈ method.toList, isMethodChar ch = true

theorem readMethod_eq_ok_iff {method name : String} :
    readMethod method = .ok name ↔ IsMethod method ∧ name = Text.upperCase method := by
  have hempty : Text.upperCase method = "" ↔ method = "" := by
    rw [← String.toList_inj, ← String.toList_inj]
    simp [Text.upperCase]
  have hall : (Text.upperCase method).toList.all isMethodChar = true ↔
      ∀ ch ∈ method.toList, isMethodChar ch = true := by
    simp [Text.upperCase, isMethodChar_toUpper]
  have hmethod : (Text.upperCase method != "" && (Text.upperCase method).toList.all isMethodChar) = true ↔
      IsMethod method := by
    rw [IsMethod, Bool.and_eq_true, bne_iff_ne, ne_eq, hempty, hall]
  unfold readMethod
  dsimp only
  rw [← hmethod]
  split
  case isTrue h => rw [Except.ok.injEq, eq_comm, and_iff_right h]
  case isFalse h => exact iff_of_false nofun fun h' => h h'.1

/-! ## Catalog files -/

/-- The owners that a command compiles. -/
def Catalog.Extent.ofOwner : Option String → Extent
  | none => .all
  | some o => .only o

theorem Catalog.freshTable_eq_ok_iff {catalog : Catalog} {c : Config} {owner : Option String} {activity : Activity}
    {u : RouteTable} {es : List Entry} : (catalog.freshTable c owner activity).result = .ok (u, es) ↔
      (catalog.compileExtent c RouteTable.empty (.ofOwner owner)).Yields es u := by
  rw [Step.Yields]
  cases owner with
  | none =>
    unfold freshTable Extent.ofOwner compileExtent
    cases h : (catalog.compile c RouteTable.empty).result <;> simp [h, and_comm]
  | some o =>
    unfold freshTable Extent.ofOwner compileExtent
    cases h : (catalog.compileOnly c o RouteTable.empty).result <;> simp [h, and_comm]

theorem compileFile_eq_ok_iff {files : Files} {path : String} {owner : Option String} {c : Config}
    {u : RouteTable} {es : List Entry} : (compileFile files path owner c).result = .ok (u, es) ↔
      ∃ catalog, Catalog.load files path [] = .ok catalog ∧
        (catalog.compileExtent c RouteTable.empty (.ofOwner owner)).Yields es u := by
  unfold compileFile
  cases hload : Catalog.load files path [] with
  | error f => simp [Outcome.failure]
  | ok catalog => simp [Catalog.freshTable_eq_ok_iff]

/-- The initializers of a catalog file register entries in order. -/
theorem exists_registersAll_of_load {files : Files} {path : String} {ms : Matchers} {catalog : Catalog}
    (h : Catalog.load files path ms = .ok catalog) : ∃ given, catalog.RegistersAll given := by
  unfold Catalog.load at h
  split at h
  case h_1 text _ =>
    exact Catalog.exists_registersAll_of_parse (duringActivity_eq_ok_iff.1 h)
  case h_2 => cases h

/-! ## Commands -/

namespace Invocation

variable {files : Files} {env : Environment} {config : Option String} {path : String} {c : Config}
  {u : RouteTable} {es : List Entry}

theorem prints_compile (hc : Config.ofInvocation files env config = .ok c) {owner : Option String}
    (h : (compileFile files path owner c).result = .ok (u, es)) (json : Bool) :
    (print files env ⟨config, .compile path owner json⟩).Prints (listing json es) :=
  Printed.prints_andThen hc rfl (Printed.prints_andThen h rfl (prints_listing json es))

theorem exists_of_compile {owner : Option String} {json : Bool}
    (h : (print files env ⟨config, .compile path owner json⟩).result = .ok ()) :
    ∃ c u es, Config.ofInvocation files env config = .ok c ∧
      (compileFile files path owner c).result = .ok (u, es) := by
  obtain ⟨c, hc, h⟩ := Printed.andThen_eq_ok_iff.1 h
  obtain ⟨⟨u, es⟩, hfile, -⟩ := Printed.andThen_eq_ok_iff.1 h
  exact ⟨c, u, es, hc, hfile⟩

theorem prints_route (hc : Config.ofInvocation files env config = .ok c)
    (h : (compileFile files path none c).result = .ok (u, es)) (hu : WellFormed u) {method : String}
    (hmethod : IsMethod method) (request : String) : ∃ text, AnswerTo u.entries (Text.upperCase method) request text ∧
      (print files env ⟨config, .route path method request⟩).Prints text := by
  obtain ⟨text, hanswer, hprints⟩ := exists_printAnswer hu (Text.upperCase method) request
  refine ⟨text, hanswer, Printed.prints_andThen hc rfl ?_⟩
  exact Printed.prints_andThen (readMethod_eq_ok_iff.2 ⟨hmethod, rfl⟩) rfl (Printed.prints_andThen h rfl hprints)

end Invocation

/-- If `compile` succeeds for a catalog file as a whole, it succeeds for each owner, and lists what this owner
contributes when the owners are compiled in turn; one that is not in the catalog contributes nothing. What the
owners contribute makes up the whole listing, section by section, as lines and as JSON. Any method and any path
are then answered by `route` from the entries as they are listed. And no invocation that fails prints anything. -/
theorem commands_agree (files : Files) (env : Environment) (config : Option String) (path : String) :
    (∀ json, (Invocation.print files env ⟨config, .compile path none json⟩).result = .ok () →
      ∃ (catalog : Catalog) (c : Config) (part : String → List Entry) (u : RouteTable),
        Catalog.load files path [] = .ok catalog ∧ Config.ofInvocation files env config = .ok c ∧
        (catalog.compile c RouteTable.empty).Yields (catalog.owners.flatMap part) u ∧
        catalog.CompilesInTurn c catalog.owners RouteTable.empty (catalog.owners.map part) u ∧
        (∀ o, o ∉ catalog.owners → part o = []) ∧
        (∀ json, (Invocation.print files env ⟨config, .compile path none json⟩).Prints
          (listing json (catalog.owners.flatMap part))) ∧
        (∀ o json, (Invocation.print files env ⟨config, .compile path (some o) json⟩).Prints
          (listing json (part o))) ∧
        ∀ method request, IsMethod method →
          ∃ text, AnswerTo (catalog.owners.flatMap part) (Text.upperCase method) request text ∧
            (Invocation.print files env ⟨config, .route path method request⟩).Prints text) ∧
    ∀ (i : Invocation) (f : Failure), (i.print files env).result = .error f → (i.print files env).text = "" := by
  refine ⟨fun json h => ?_, fun i f hf => i.print_clean files env f hf⟩
  obtain ⟨c, u, es, hc, hfile⟩ := Invocation.exists_of_compile h
  obtain ⟨catalog, hload, hyields⟩ := compileFile_eq_ok_iff.1 hfile
  obtain ⟨given, hg⟩ := exists_registersAll_of_load hload
  obtain ⟨hready, rfl, hreg⟩ := (Catalog.compile_yields_iff hg).1 hyields
  have hentries : u.entries = catalog.owners.flatMap (catalog.contribution c given) := by
    rw [hreg.entries_eq]
    rfl
  refine ⟨catalog, c, catalog.contribution c given, u, hload, hc, hyields,
    Catalog.compilesInTurn_of_registers hg hready hreg, fun o => Catalog.contribution_of_not_mem,
    Invocation.prints_compile hc hfile, fun o => ?_, fun method request hmethod => ?_⟩
  · obtain ⟨w, hw⟩ := Catalog.compileOnly_yields_of_compile hg WellFormed.empty hyields o
    exact Invocation.prints_compile hc (compileFile_eq_ok_iff.2 ⟨catalog, hload, hw⟩)
  · rw [← hentries]
    exact Invocation.prints_route hc hfile (hreg.wellFormed WellFormed.empty) hmethod request

/-- An owner with an initializer and one with a handler. -/
theorem commands_agree_two :
    let text := "\x7b\"owners\":[\x7b\"name\":\"A\",\"initializers\":[\x7b\"name\":\"i\"," ++
      "\"routes\":[\x7b\"name\":\"a\",\"url\":\"a\"\x7d]\x7d]\x7d," ++
      "\x7b\"name\":\"B\",\"handlers\":[\x7b\"name\":\"h\",\"markers\":[" ++
      "\x7b\"kind\":\"route\",\"url\":\"b\"\x7d]\x7d]\x7d]\x7d"
    let files : Files := fun path => if path = "c.json" then some text else none
    let env : Environment := fun _ => none
    (Invocation.print files env ⟨none, .compile "c.json" none false⟩).result = .ok () ∧ IsMethod "put" ∧
      ∃ part : String → List Entry, (part "A" ++ part "B").map Entry.name = ["a", "Get.B.h"] ∧
        (Invocation.print files env ⟨none, .compile "c.json" none true⟩).Prints
          (listing true (part "A" ++ part "B")) ∧
        (Invocation.print files env ⟨none, .compile "c.json" (some "B") false⟩).Prints (listing false (part "B")) ∧
        ∃ text, AnswerTo (part "A" ++ part "B") "PUT" "/b" text ∧
          (Invocation.print files env ⟨none, .route "c.json" "put" "/b"⟩).Prints text := by
  intro text files env
  let catalog : Catalog := ⟨[⟨"A", [], [.ofEntries "A" "i" [{ name := "a", url := "a" }]]⟩,
    ⟨"B", [⟨"B", "h", [.route { url := "b" }]⟩], []⟩]⟩
  have hdatum : Json.datum? text = some (.map [(.str "owners", .seq [
      .map [(.str "name", .str "A"), (.str "initializers", .seq [.map [(.str "name", .str "i"),
        (.str "routes", .seq [.map [(.str "name", .str "a"), (.str "url", .str "a")]])]])],
      .map [(.str "name", .str "B"), (.str "handlers", .seq [.map [(.str "name", .str "h"),
        (.str "markers", .seq [.map [(.str "kind", .str "route"), (.str "url", .str "b")]])]])]])]) := by
    dsimp only [text]
    cbv
  have hload : Catalog.load files "c.json" [] = .ok catalog := by
    have hparse : Catalog.parse .json text [] = .ok catalog := by
      rw [Catalog.parse, CatalogDocument.parse, CatalogDocument.ofJson?, hdatum]
      rfl
    rw [Catalog.load, show files "c.json" = some text from rfl, show CatalogNotation.ofPath "c.json" = .json from rfl]
    dsimp only
    rw [hparse]
    rfl
  obtain ⟨es, hes, hnames⟩ : ∃ es, (catalog.compile {} RouteTable.empty).result = .ok es ∧
      es.map Entry.name = ["a", "Get.B.h"] := by
    dsimp only [catalog]
    exact ⟨_, by with_unfolding_all rfl, by with_unfolding_all rfl⟩
  have hfile : (compileFile files "c.json" none {}).result =
      .ok ((catalog.compile {} RouteTable.empty).table, es) :=
    compileFile_eq_ok_iff.2 ⟨catalog, hload, hes, rfl⟩
  have hok : (Invocation.print files env ⟨none, .compile "c.json" none false⟩).result = .ok () :=
    (Invocation.prints_compile rfl hfile false).1
  have hmethod : IsMethod "put" := ⟨by decide, List.all_eq_true.1 (by decide)⟩
  obtain ⟨catalog', c, part, u, hload', hc, hyields, -, -, hall, hone, hroute⟩ :=
    (commands_agree files env none "c.json").1 false hok
  cases hload.symm.trans hload'
  cases hc
  have hparts : catalog.owners.flatMap part = part "A" ++ part "B" := by
    show part "A" ++ (part "B" ++ []) = _
    rw [List.append_nil]
  have hupper : Text.upperCase "put" = "PUT" := by decide
  rw [hparts] at hyields hall hroute
  cases hes.symm.trans hyields.1
  exact ⟨hok, hmethod, part, hnames, hall true, hone "B" false, hupper ▸ hroute "put" "/b" hmethod⟩

end Routebook
