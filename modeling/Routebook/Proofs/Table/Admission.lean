import Routebook.Proofs.Table.History

/-!
# Which entries a table takes

* `Entry.Admissible` : the name is new, the URL a pattern, the expressions regular expressions;
* `exists_register_iff` : just these entries can be registered;
* `Entry.Refused` : the first thing that is wrong with an entry; it is what the table reports
  (`register_refused_iff`);
* `RouteTable.Registers` : registering entries in order leads from one table to another; this can
  be done just when every entry is admissible behind those in front of it
  (`exists_registers_iff`).
-/

namespace Routebook

open Text (sameText)

/-! ## Places in a list -/

section Places

variable {α : Type} {x : α} {xs : List α} {P : List α → α → List α → Prop}

theorem not_exists_split_nil :
    ¬ ∃ before a after, ([] : List α) = before ++ a :: after ∧ P before a after := by
  rintro ⟨before, a, after, hsplit, -⟩
  exact absurd hsplit.symm (by simp)

theorem exists_split_cons : (∃ before a after, x :: xs = before ++ a :: after ∧ P before a after) ↔
    P [] x xs ∨ ∃ before a after, xs = before ++ a :: after ∧ P (x :: before) a after := by
  constructor
  · rintro ⟨_ | ⟨b, before⟩, a, after, hsplit, h⟩
    · cases hsplit
      exact .inl h
    · cases hsplit
      exact .inr ⟨before, a, after, rfl, h⟩
  · rintro (h | ⟨before, a, after, rfl, h⟩)
    · exact ⟨[], x, xs, rfl, h⟩
    · exact ⟨x :: before, a, after, rfl, h⟩

end Places

/-! ## Admission -/

/-- What an entry must meet to come behind others. -/
structure Entry.Admissible (before : List Entry) (e : Entry) : Prop where
  /-- Its name is new in any case. -/
  name : ∀ b ∈ before, sameText b.name e.name = false
  /-- Its URL is a pattern. -/
  url : ∃ p, UrlPattern.parse e.url = .ok p
  /-- Where its constraints are texts, they are regular expressions. -/
  expressions : ∀ key source, (key, Constraint.pattern source) ∈ e.constraints.entries →
    ∃ r, Regex.full? source = some r

/-- What is wrong with an entry behind others, in the order in which it is looked at. -/
inductive Entry.Refused (before : List Entry) (e : Entry) : TableError → Prop
  /-- The name is taken, in some case. -/
  | name {b : Entry} (hb : b ∈ before) (hsame : sameText b.name e.name = true) :
      e.Refused before (.duplicateName e.name)
  /-- The URL is no pattern. -/
  | url {reason : PatternError} (hname : ∀ b ∈ before, sameText b.name e.name = false)
      (hurl : UrlPattern.parse e.url = .error reason) :
      e.Refused before (.invalidPattern e.name e.url reason)
  /-- A constraint is a text and no regular expression; the first of them counts. -/
  | expression {front back : List (String × Constraint)} {key source : String}
      (hname : ∀ b ∈ before, sameText b.name e.name = false) (hurl : ∃ p, UrlPattern.parse e.url = .ok p)
      (hsplit : e.constraints.entries = front ++ (key, .pattern source) :: back)
      (hfront : ∀ k s, (k, Constraint.pattern s) ∈ front → ∃ r, Regex.full? s = some r)
      (hsource : Regex.full? source = none) :
      e.Refused before (.invalidConstraint e.name key)

/-! ## Making an entry ready -/

theorem Check.exists_ofConstraint_iff {route key : String} {k : Constraint} :
    (∃ check, Check.ofConstraint route key k = .ok check) ↔
      ∀ source, k = .pattern source → ∃ r, Regex.full? source = some r := by
  cases k with
  | pattern source =>
    unfold Check.ofConstraint
    constructor
    · rintro ⟨check, h⟩ _ ⟨rfl⟩
      cases hr : Regex.full? source with
      | some r => exact ⟨r, rfl⟩
      | none => simp only [hr, reduceCtorEq] at h
    · intro h
      obtain ⟨r, hr⟩ := h source rfl
      exact ⟨.pattern key r, by simp only [hr]⟩
  | methods names => exact ⟨fun _ _ h => (nomatch h), fun _ => ⟨_, rfl⟩⟩
  | custom m => exact ⟨fun _ _ h => (nomatch h), fun _ => ⟨_, rfl⟩⟩

theorem Check.exists_ofConstraints_cons {route : String} {e : String × Constraint}
    {rest : List (String × Constraint)} : (∃ checks, ofConstraints route (e :: rest) = .ok checks) ↔
      (∃ check, ofConstraint route e.1 e.2 = .ok check) ∧ ∃ checks, ofConstraints route rest = .ok checks := by
  rw [ofConstraints]
  cases ofConstraint route e.1 e.2 <;> cases ofConstraints route rest <;> simp

theorem Check.exists_ofConstraints_iff (route : String) {cs : List (String × Constraint)} :
    (∃ checks, Check.ofConstraints route cs = .ok checks) ↔
      ∀ key source, (key, Constraint.pattern source) ∈ cs → ∃ r, Regex.full? source = some r := by
  induction cs with
  | nil => exact ⟨fun _ _ _ h => (nomatch h), fun _ => ⟨[], rfl⟩⟩
  | cons e rest ih =>
    obtain ⟨key, k⟩ := e
    rw [Check.exists_ofConstraints_cons, Check.exists_ofConstraint_iff, ih]
    constructor
    · rintro ⟨hhead, hrest⟩ key' source hmem
      rcases List.mem_cons.1 hmem with heq | hmem
      · exact hhead source (congrArg Prod.snd heq).symm
      · exact hrest key' source hmem
    · intro h
      exact ⟨fun source hk => h key source (hk ▸ List.mem_cons_self),
        fun key' source hmem => h key' source (List.mem_cons_of_mem _ hmem)⟩

theorem Check.ofConstraint_eq_error_iff {route key : String} {k : Constraint} {err : TableError} :
    Check.ofConstraint route key k = .error err ↔
      ∃ source, k = .pattern source ∧ Regex.full? source = none ∧ err = .invalidConstraint route key := by
  cases k with
  | pattern source => cases hr : Regex.full? source <;> simp [Check.ofConstraint, hr, eq_comm]
  | methods names => simp [Check.ofConstraint]
  | custom m => simp [Check.ofConstraint]

theorem Check.ofConstraints_eq_error_iff {route : String} {cs : List (String × Constraint)} {err : TableError} :
    ofConstraints route cs = .error err ↔
      ∃ front e back, cs = front ++ e :: back ∧ (∃ checks, ofConstraints route front = .ok checks) ∧
        ofConstraint route e.1 e.2 = .error err := by
  induction cs with
  | nil => exact iff_of_false nofun not_exists_split_nil
  | cons e rest ih =>
    have hcons : ofConstraints route (e :: rest) = .error err ↔ ofConstraint route e.1 e.2 = .error err ∨
        (∃ check, ofConstraint route e.1 e.2 = .ok check) ∧ ofConstraints route rest = .error err := by
      rw [ofConstraints]
      cases ofConstraint route e.1 e.2 <;> cases ofConstraints route rest <;> simp
    rw [hcons, ih, exists_split_cons]
    simp only [exists_ofConstraints_cons]
    constructor
    · rintro (hhead | ⟨hhead, front, e', back, hsplit, hfront, he'⟩)
      · exact .inl ⟨⟨[], rfl⟩, hhead⟩
      · exact .inr ⟨front, e', back, hsplit, ⟨hhead, hfront⟩, he'⟩
    · rintro (⟨-, hhead⟩ | ⟨front, e', back, hsplit, ⟨hhead, hfront⟩, he'⟩)
      · exact .inl hhead
      · exact .inr ⟨hhead, front, e', back, hsplit, hfront, he'⟩

theorem Route.exists_ofEntry_iff {e : Entry} :
    (∃ r, Route.ofEntry e = .ok r) ↔ (∃ p, UrlPattern.parse e.url = .ok p) ∧
      ∀ key source, (key, Constraint.pattern source) ∈ e.constraints.entries →
        ∃ r, Regex.full? source = some r := by
  rw [← Check.exists_ofConstraints_iff e.name, Route.ofEntry]
  cases UrlPattern.parse e.url <;> cases Check.ofConstraints e.name e.constraints.entries <;> simp

theorem Route.ofEntry_eq_error_iff {e : Entry} {err : TableError} : Route.ofEntry e = .error err ↔
    (∃ reason, UrlPattern.parse e.url = .error reason ∧ err = .invalidPattern e.name e.url reason) ∨
      (∃ p, UrlPattern.parse e.url = .ok p) ∧
        Check.ofConstraints e.name e.constraints.entries = .error err := by
  rw [Route.ofEntry]
  cases UrlPattern.parse e.url <;> cases Check.ofConstraints e.name e.constraints.entries <;> simp [eq_comm]

namespace RouteTable

theorem WellFormed.hasName_eq_false_iff {t : RouteTable} (h : WellFormed t) {name : String} :
    t.hasName name = false ↔ ∀ b ∈ t.entries, sameText b.name name = false := by
  rw [h.hasName_eq, List.any_eq_false]
  simp only [Bool.not_eq_true]

theorem WellFormed.exists_register_iff {t : RouteTable} (h : WellFormed t) {e : Entry} :
    (∃ u, t.register e = .ok u) ↔ e.Admissible t.entries := by
  constructor
  · rintro ⟨u, hu⟩
    obtain ⟨hnew, r, hr, -⟩ := register_eq_ok_iff.1 hu
    obtain ⟨hurl, hexpressions⟩ := Route.exists_ofEntry_iff.1 ⟨r, hr⟩
    exact ⟨h.hasName_eq_false_iff.1 hnew, hurl, hexpressions⟩
  · intro ha
    obtain ⟨r, hr⟩ := Route.exists_ofEntry_iff.2 ⟨ha.url, ha.expressions⟩
    exact ⟨_, register_eq_ok_iff.2 ⟨h.hasName_eq_false_iff.2 ha.name, r, hr, rfl⟩⟩

theorem register_eq_error_iff {t : RouteTable} {e : Entry} {err : TableError} :
    t.register e = .error err ↔ (t.hasName e.name = true ∧ err = .duplicateName e.name) ∨
      t.hasName e.name = false ∧ Route.ofEntry e = .error err := by
  unfold register
  cases t.hasName e.name <;> cases Route.ofEntry e <;> simp [eq_comm]

/-- The table reports the first thing that is wrong with an entry. -/
theorem WellFormed.register_refused_iff {t : RouteTable} (h : WellFormed t) {e : Entry} {err : TableError} :
    t.register e = .error err ↔ e.Refused t.entries err := by
  rw [register_eq_error_iff, h.hasName_eq_false_iff, h.hasName_eq, List.any_eq_true,
    Route.ofEntry_eq_error_iff, Check.ofConstraints_eq_error_iff]
  simp only [Check.ofConstraint_eq_error_iff, Check.exists_ofConstraints_iff]
  constructor
  · rintro (⟨⟨b, hb, hsame⟩, rfl⟩ | ⟨hname, ⟨reason, hurl, rfl⟩ |
      ⟨hurl, front, ⟨key, k⟩, back, hsplit, hfront, source, rfl, hsource, rfl⟩⟩)
    · exact .name hb hsame
    · exact .url hname hurl
    · exact .expression hname hurl hsplit hfront hsource
  · rintro (⟨hb, hsame⟩ | ⟨hname, hurl⟩ | ⟨hname, hurl, hsplit, hfront, hsource⟩)
    · exact .inl ⟨⟨_, hb, hsame⟩, rfl⟩
    · exact .inr ⟨hname, .inl ⟨_, hurl, rfl⟩⟩
    · exact .inr ⟨hname, .inr ⟨hurl, _, _, _, hsplit, hfront, _, rfl, hsource, rfl⟩⟩

/-! ## Registering in order -/

/-- Registering entries one after the other leads from one table to another. -/
def Registers : List Entry → RouteTable → RouteTable → Prop
  | [], t, u => u = t
  | e :: rest, t, v => ∃ u, t.register e = .ok u ∧ Registers rest u v

theorem registers_append {es fs : List Entry} {t v : RouteTable} :
    Registers (es ++ fs) t v ↔ ∃ u, Registers es t u ∧ Registers fs u v := by
  induction es generalizing t with
  | nil => simp [Registers]
  | cons e rest ih =>
    simp only [List.cons_append, Registers, ih]
    constructor
    · rintro ⟨w, hw, u, hu, hv⟩
      exact ⟨u, ⟨w, hw, hu⟩, hv⟩
    · rintro ⟨u, ⟨w, hw, hu⟩, hv⟩
      exact ⟨w, hw, u, hu, hv⟩

theorem registers_singleton {e : Entry} {t u : RouteTable} :
    Registers [e] t u ↔ t.register e = .ok u := by
  simp [Registers]

theorem Registers.wellFormed : ∀ {es : List Entry} {t u : RouteTable}, Registers es t u →
    WellFormed t → WellFormed u
  | [], _, _, h, ht => h ▸ ht
  | _ :: _, _, _, ⟨_, hw, hu⟩, ht => Registers.wellFormed hu (ht.register hw)

theorem Registers.entries_eq : ∀ {es : List Entry} {t u : RouteTable}, Registers es t u →
    u.entries = t.entries ++ es
  | [], t, u, h => by rw [show u = t from h, List.append_nil]
  | e :: rest, t, u, ⟨w, hw, hu⟩ => by
    rw [Registers.entries_eq hu, entries_of_register hw, List.append_assoc, List.singleton_append]

theorem Registers.replay_eq : ∀ {es : List Entry} {t u : RouteTable}, Registers es t u →
    t.replay (es.map .register) = u
  | [], _, _, h => h.symm
  | e :: rest, t, u, ⟨w, hw, hu⟩ => by
    have hstep : t.change (.register e) = w := by rw [change, hw]
    have hrest := Registers.replay_eq hu
    rw [replay, List.map_cons, List.foldl_cons, hstep]
    exact hrest

/-- Entries can be registered in order just when each is admissible behind the entries of the table
and those in front of it. -/
theorem WellFormed.exists_registers_iff {es : List Entry} {t : RouteTable} (h : WellFormed t) :
    (∃ u, Registers es t u) ↔
      ∀ before e after, es = before ++ e :: after → e.Admissible (t.entries ++ before) := by
  constructor
  · rintro ⟨u, hu⟩ before e after rfl
    obtain ⟨w, hw, v, hv, -⟩ := registers_append.1 hu
    rw [← hw.entries_eq]
    exact (hw.wellFormed h).exists_register_iff.1 ⟨v, hv⟩
  · intro ha
    induction es generalizing t with
    | nil => exact ⟨t, rfl⟩
    | cons e rest ih =>
      obtain ⟨w, hw⟩ := h.exists_register_iff.2 (List.append_nil t.entries ▸ ha [] e rest rfl)
      have hrest : ∀ before e' after, rest = before ++ e' :: after →
          e'.Admissible (w.entries ++ before) := by
        rintro before e' after rfl
        rw [entries_of_register hw, List.append_assoc]
        exact ha (e :: before) e' after rfl
      obtain ⟨u, hu⟩ := ih (h.register hw) hrest
      exact ⟨u, w, hw, hu⟩

end RouteTable

end Routebook
