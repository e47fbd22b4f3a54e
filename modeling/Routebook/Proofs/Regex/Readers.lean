import Routebook.Proofs.Regex.Reading
import Routebook.Regex.Parser

/-!
# The readers of an expression are local

Escapes, bracketed classes, counts and the beginnings and ends of groups are read alike with and
without a closing parenthesis behind the text (`Local`), and each of them takes a character at least
(`Takes`), which pays for the step of the loop that calls it.

* `Takes.readEscape`, `Takes.readClass`, `Takes.readCounts`, `Takes.readOpening`, `Takes.readAtom`;
* `readBracket_run_of_le` : a bracketed class is read in no more steps than twice its length.
-/

namespace Routebook.Regex

open Unicode (CharSet)

variable {c d : Cursor} {t : List Char}

/-! ## Escapes -/

theorem Takes.readHexDigits_succ (ht : '\n' ∉ t) {n : Nat} (h : Local t (readHexDigits n)) :
    Takes t (readHexDigits (n + 1)) := by
  refine Takes.peek_bind fun x => Takes.right (Local.check _) fun _ => ?_
  exact (Takes.bumpOver ht).left fun _ => h.bind fun _ => Local.pure _

theorem Local.readHexDigits (ht : '\n' ∉ t) : ∀ n, Local t (readHexDigits n)
  | 0 => Local.pure []
  | n + 1 => (Takes.readHexDigits_succ ht (Local.readHexDigits ht n)).toLocal

theorem Takes.readHex (ht : '\n' ∉ t) (n : Nat) : Takes t (readHex (n + 1)) := by
  refine (Takes.bumpOver ht).left fun _ => (Takes.peek_bind fun x => Takes.ite ?_ ?_).toLocal
  · refine (Takes.bumpOver ht).left fun _ => (Local.takeAllOver ht rfl).bind fun ds =>
      (Takes.peek_bind fun y => Takes.right (Local.check _) fun _ => ?_).toLocal
    exact (Takes.bumpOver ht).left fun _ => (Local.lift _).bind fun _ => Local.pure _
  · exact (Takes.readHexDigits_succ ht (Local.readHexDigits ht n)).left fun ds =>
      (Local.lift _).bind fun _ => Local.pure _

theorem readBraced_run_of_le : ∀ {m n : Nat} {c : Cursor}, c.rest.length ≤ m → m ≤ n →
    (readBraced n).run c = (readBraced m).run c
  | 0, 0, _, _, _ => rfl
  | 0, n + 1, ⟨[], f, names⟩, _, _ => rfl
  | m + 1, n + 1, c, hm, hn => by
    refine Forward.peek.bind_congr fun x d hle => ?_
    split
    · rfl
    · refine (Takes.bumpOver (t := []) List.not_mem_nil).strict.bind_congr fun u e hlt => ?_
      exact run_bind_congr_left (readBraced_run_of_le (by omega) (by omega))

theorem Takes.readBraced (ht : '\n' ∉ t) : ∀ n, Takes t (readBraced n)
  | 0 => Takes.failure
  | n + 1 => by
    refine Takes.peek_bind fun x => Takes.ite ?_ ?_
    · exact Takes.bump.left fun _ => Local.pure []
    · exact (Takes.bumpOver ht).left fun _ => (Takes.readBraced ht n).toLocal.bind fun _ => Local.pure _

theorem Local.readBracedName (ht : '\n' ∉ t) : Local t readBracedName :=
  Local.of_fuel id id (fun n => (Takes.readBraced ht n).toLocal) fun _ _ =>
    readBraced_run_of_le (Nat.le_refl _)

theorem Takes.readNamed (ht : '\n' ∉ t) (negated : Bool) : Takes t (readNamed negated) := by
  refine (Takes.bumpOver ht).left fun _ => (Takes.peek_bind fun x => Takes.ite ?_ ?_).toLocal
  · exact (Takes.bumpOver ht).left fun _ => (Local.readBracedName ht).bind fun _ => Local.pure _
  · exact Takes.right (Local.check _) fun _ => (Takes.bumpOver ht).left fun _ => Local.pure _

theorem Local.wordKind : Local t wordKind := Local.flags.bind fun _ => Local.pure _

theorem Local.wordNameFollows (ht : '\n' ∉ t) : Local t wordNameFollows := by
  refine Local.of_look (fun c => some (c.rest.head? == some '\x7b' &&
    (c.flags.skip c.rest.tail).head?.any isWordLetter)) (fun _ => rfl) fun c => ?_
  have hmark : isWordLetter ')' = false := rfl
  obtain ⟨rest, f, names⟩ := c
  cases rest with
  | nil => rfl
  | cons x l =>
    dsimp only [Cursor.closed, List.cons_append, List.tail_cons, List.head?_cons]
    rcases Flags.skip_closed ht f l with h | ⟨hnil, h⟩
    · rw [h, any_head?_closed hmark]
    · rw [h, hnil]

theorem Takes.readWordName (ht : '\n' ∉ t) (kind : WordKind) : Takes t (readWordName kind) := by
  refine (Takes.bumpOver ht).left fun _ => (Local.takeAllOver ht rfl).bind fun name =>
    (Takes.peek_bind fun x => Takes.right (Local.check _) fun _ => ?_).toLocal
  exact Takes.bump.left fun _ => (Local.lift _).bind fun _ => Local.pure _

theorem Local.readEscaped (ht : '\n' ∉ t) (x : Char) : Local t (readEscaped x) := by
  refine Local.wordKind.bind fun kind => (Local.wordNameFollows ht).bind fun b => ?_
  exact Local.ite (Takes.readWordName ht kind).toLocal (Local.lift _)

theorem Takes.readBehindSlash (ht : '\n' ∉ t) : Takes t readBehindSlash := by
  refine Takes.peek_bind fun x => ?_
  split
  · exact Takes.readHex ht 1
  · exact Takes.readHex ht 3
  · exact Takes.readHex ht 7
  · exact Takes.readNamed ht false
  · exact Takes.readNamed ht true
  · exact Takes.bump.left fun _ => Local.readEscaped ht _

theorem Takes.readEscape (ht : '\n' ∉ t) : Takes t readEscape :=
  Takes.bump.left fun _ => (Takes.readBehindSlash ht).toLocal

/-! ## Items of classes -/

theorem asciiClassAt?_closed (l : List Char) :
    asciiClassAt? (l ++ ')' :: t) = (asciiClassAt? l).map fun r => (r.1, r.2 ++ ')' :: t) := by
  unfold asciiClassAt?
  rw [past?_closed (by decide)]
  cases past? ['[', ':'] l with
  | none => rfl
  | some l =>
    have hinner : (past? ['^'] (l ++ ')' :: t)).getD (l ++ ')' :: t) =
        (past? ['^'] l).getD l ++ ')' :: t := by
      rw [past?_closed (by decide)]
      cases past? ['^'] l <;> rfl
    have hnegated : (past? ['^'] (l ++ ')' :: t)).isSome = (past? ['^'] l).isSome := by
      rw [past?_closed (by decide), Option.isSome_map]
    have hmark : Char.isLower ')' = false := rfl
    simp only [Option.map_some, Option.bind_eq_bind, Option.bind_some, hinner, hnegated,
      dropWhile_closed hmark, takeWhile_closed hmark]
    generalize (past? ['^'] l).getD l = inner
    rw [past?_closed (by decide)]
    cases past? [':', ']'] (inner.dropWhile Char.isLower) with
    | none => rfl
    | some rest => cases asciiClass? (String.ofList (inner.takeWhile Char.isLower)) <;> rfl

theorem asciiClassAt?_suffix {l rest : List Char} {cls : CharSet × Bool}
    (h : asciiClassAt? l = some (cls, rest)) : ∃ l', l = '[' :: l' ∧ rest <:+ l' := by
  unfold asciiClassAt? at h
  simp only [Option.bind_eq_bind, Option.bind_eq_some_iff] at h
  obtain ⟨behind, hbehind, rest', hrest, s, -, heq⟩ := h
  cases heq
  obtain ⟨l', rfl, hl'⟩ := past?_cons_suffix hbehind
  have hinner : (past? ['^'] behind).getD behind <:+ behind := by
    cases hneg : past? ['^'] behind with
    | none => exact List.suffix_refl _
    | some inner => exact past?_suffix hneg
  exact ⟨l', rfl, (past?_suffix hrest).trans
    ((List.dropWhile_suffix _).trans (hinner.trans hl'))⟩

theorem readAsciiClass?_run (c : Cursor) : readAsciiClass?.run c =
    match asciiClassAt? c.rest with
    | some (cls, rest) => some (some cls, { c with rest := rest })
    | none => some (none, c) := by
  unfold readAsciiClass?
  rw [run_bind_of_eq_some (StateT.run_get c)]
  cases asciiClassAt? c.rest <;> rfl

theorem readAsciiClass?_cases {cls : Option (CharSet × Bool)}
    (hd : readAsciiClass?.run c = some (cls, d)) :
    (∃ s l, cls = some s ∧ c.rest = '[' :: l ∧ d.rest <:+ l) ∨ cls = none ∧ d = c := by
  rw [readAsciiClass?_run] at hd
  cases hcls : asciiClassAt? c.rest with
  | none =>
    rw [hcls] at hd
    cases hd
    exact .inr ⟨rfl, rfl⟩
  | some r =>
    rw [hcls] at hd
    cases hd
    obtain ⟨l, hl, hrest⟩ := asciiClassAt?_suffix hcls
    exact .inl ⟨r.1, l, rfl, hl, hrest⟩

theorem Local.readAsciiClass? : Local t readAsciiClass? where
  forward c cls d hd := by
    obtain ⟨s, l, -, hl, hrest⟩ | ⟨-, rfl⟩ := readAsciiClass?_cases hd
    · exact hl ▸ hrest.trans (List.suffix_cons _ _)
    · exact List.suffix_refl _
  agrees c := by
    have hshort := readAsciiClass?_run c
    have hlong := readAsciiClass?_run (c.closed t)
    rw [show (c.closed t).rest = c.rest ++ ')' :: t from rfl, asciiClassAt?_closed] at hlong
    cases hcls : asciiClassAt? c.rest with
    | none =>
      rw [hcls] at hshort hlong
      exact .same hshort hlong
    | some r =>
      rw [hcls] at hshort hlong
      exact .same hshort hlong

theorem Takes.readClassAtom (ht : '\n' ∉ t) : Takes t readClassAtom := by
  refine Takes.peek_bind fun x => Takes.ite (Takes.readEscape ht) ?_
  exact Takes.bump.left fun _ => Local.pure _

/-- Where blanks or a comment run up to a parenthesis, neither what is seen instead nor the
parenthesis is a bracket or a hyphen. -/
theorem first?_closed {x : Char} (hblank : Text.isBlank x = false) (hmark : x ≠ ')') (hcomment : x ≠ '#')
    (f : Flags) (l : List Char) : f.first? (l ++ ')' :: t) = some x ↔ f.first? l = some x := by
  unfold Flags.first?
  split
  · have hhead (h : l.head? = some x) : (l.dropWhile Text.isBlank).head? = some x := by
      cases l with
      | nil => cases h
      | cons y l =>
        cases h
        rw [List.dropWhile_cons_of_neg (by simp [hblank])]
        rfl
    rw [dropWhile_closed (by decide)]
    generalize l.dropWhile Text.isBlank = w at hhead
    match w with
    -- Only blanks are left: the first of them is seen instead, or the parenthesis.
    | [] => simpa [hmark.symm] using fun h => nomatch hhead h
    | y :: w =>
      by_cases hy : y = '#'
      · subst hy
        have hl : l.head? ≠ some x := fun h => hcomment (Option.some.inj (hhead h)).symm
        simp only [List.cons_append]
        rw [dropWhile_closed (by decide)]
        cases w.dropWhile Text.isBlank with
        | nil => simp [hmark.symm, hl]
        | cons z v => simp
      · simp [hy]
  · cases l with
    | nil => simp [hmark.symm]
    | cons y l => rfl

theorem Local.rangeFollows : Local t rangeFollows := by
  refine Local.of_look (fun c => some (c.rest.head? == some '-' &&
    c.flags.first? c.rest.tail != some ']' && c.flags.first? c.rest.tail != some '-'))
    (fun _ => rfl) fun c => ?_
  obtain ⟨rest, f, names⟩ := c
  cases rest with
  | nil => rfl
  | cons x l =>
    have hsame (y : Char) (h : Text.isBlank y = false ∧ y ≠ ')' ∧ y ≠ '#') :
        (f.first? (l ++ ')' :: t) != some y) = (f.first? l != some y) := by
      rw [bne, bne, Bool.eq_iff_iff]
      simpa using not_congr (first?_closed h.1 h.2.1 h.2.2 f l)
    dsimp only [Cursor.closed, List.cons_append, List.tail_cons, List.head?_cons]
    rw [hsame ']' (by decide), hsame '-' (by decide)]

theorem Takes.readClassRange (ht : '\n' ∉ t) : Takes t readClassRange := by
  refine Takes.right Local.flags fun f => (Takes.readClassAtom ht).left fun first =>
    (Local.skipBlanks ht).bind fun _ => Local.rangeFollows.bind fun b => Local.ite (Local.lift _) ?_
  refine ((Takes.bumpOver ht).left fun _ => ?_).toLocal
  refine (Takes.readClassAtom ht).toLocal.bind fun second =>
    (Local.lift _).bind fun low => (Local.lift _).bind fun high => ?_
  exact (Local.check _).bind fun _ => Local.pure _

/-! ## Bracketed classes -/

theorem Local.readCaret (ht : '\n' ∉ t) : Local t readCaret := by
  refine Local.peek?_bind (fun x => Local.ite ?_ (Local.pure false)) rfl
  exact (Takes.bumpOver ht).toLocal.bind fun _ => Local.pure true

theorem Local.readHyphens (ht : '\n' ∉ t) : ∀ n l, Local t (readHyphens n l)
  | 0, l => Local.pure l
  | n + 1, l => by
    refine Local.peek?_bind (fun x => Local.ite ?_ (Local.pure l)) rfl
    exact (Takes.bumpOver ht).toLocal.bind fun _ => Local.readHyphens ht n _

theorem readHyphens_run_of_le : ∀ {m n : Nat} {c : Cursor} {l : ItemList}, c.rest.length ≤ m →
    m ≤ n → (readHyphens n l).run c = (readHyphens m l).run c
  | 0, 0, _, _, _, _ => rfl
  | 0, n + 1, ⟨[], f, names⟩, _, _, _ => rfl
  | m + 1, n + 1, c, l, hm, hn => by
    refine run_bind_congr fun x d hd => ?_
    cases hd
    split
    · refine (Takes.bumpOver (t := []) List.not_mem_nil).strict.bind_congr fun u d hlt => ?_
      exact readHyphens_run_of_le (by omega) (by omega)
    · rfl

theorem Local.readAllHyphens (ht : '\n' ∉ t) : Local t readAllHyphens :=
  Local.of_fuel id id (fun n => Local.readHyphens ht n {}) fun _ _ =>
    readHyphens_run_of_le (Nat.le_refl _)

theorem Local.readFirstBracket (ht : '\n' ∉ t) (l : ItemList) : Local t (readFirstBracket l) := by
  refine Local.peek?_bind (fun x => Local.ite ?_ (Local.pure l)) rfl
  exact (Takes.bumpOver ht).toLocal.bind fun _ => Local.pure _

theorem Takes.readBracket_and_items (ht : '\n' ∉ t) (n : Nat) :
    Takes t (readBracket n) ∧ ∀ l pending, Takes t (readBracketItems n l pending) := by
  induction n with
  | zero => exact ⟨Takes.failure, fun _ _ => Takes.failure⟩
  | succ n ih =>
    obtain ⟨hbracket, hitems⟩ := ih
    refine ⟨?_, fun l pending => ?_⟩
    · rw [readBracket]
      refine Takes.right Local.flags fun f => (Takes.bumpOver ht).left fun _ => ?_
      refine (Local.readCaret ht).bind fun negated => (Local.readAllHyphens ht).bind fun l =>
        (Local.readFirstBracket ht l).bind fun l => (hitems l none).toLocal.bind fun r => ?_
      exact (Local.lift _).bind fun s => Local.pure _
    · rw [readBracketItems]
      refine Takes.right Local.flags fun f => Takes.right (Local.skipBlanks ht) fun _ =>
        Takes.right (Local.bumpFirst? (by decide)) fun op => ?_
      cases op with
      | some op => exact hitems _ _
      | none =>
        refine Takes.peek_bind fun x => ?_
        split
        · refine Takes.right Local.readAsciiClass? fun cls => ?_
          cases cls with
          | some cls => exact Takes.right (Local.lift _) fun s => hitems _ _
          | none => exact Takes.right hbracket.toLocal fun r => hitems _ _
        · exact Takes.bump.left fun _ => Local.pure _
        · exact Takes.right (Takes.readClassRange ht).toLocal fun s => hitems _ _

/-- A class is read in as many steps as twice its length, its items in one more. -/
theorem readBracket_and_items_run_of_le (m : Nat) :
    (∀ {n c}, 2 * c.rest.length ≤ m → m ≤ n → (readBracket n).run c = (readBracket m).run c) ∧
      ∀ {n c l pending}, 2 * c.rest.length + 1 ≤ m → m ≤ n →
        (readBracketItems n l pending).run c = (readBracketItems m l pending).run c := by
  have ht : '\n' ∉ ([] : List Char) := List.not_mem_nil
  induction m with
  | zero =>
    refine ⟨fun {n c} hm _ => ?_, fun hm => absurd hm (by omega)⟩
    obtain ⟨rest, f, names⟩ := c
    obtain rfl : rest = [] := List.length_eq_zero_iff.1 (by dsimp only at hm; omega)
    cases n with
    | zero => rfl
    | succ n =>
      rw [readBracket]
      rfl
  | succ m ih =>
    obtain ⟨hbracket, hitems⟩ := ih
    refine ⟨fun {n c} hm hn => ?_, fun {n c l pending} hm hn => ?_⟩
    all_goals obtain ⟨n, rfl⟩ : ∃ k, n = k + 1 := ⟨n - 1, by omega⟩
    · rw [readBracket, readBracket]
      refine (Local.flags (t := [])).forward.bind_congr fun f c₁ h₁ =>
        (Takes.bumpOver ht).strict.bind_congr fun u c₂ h₂ =>
          (Local.readCaret ht).forward.bind_congr fun negated c₃ h₃ =>
            (Local.readAllHyphens ht).forward.bind_congr fun l c₄ h₄ =>
              (Local.readFirstBracket ht l).forward.bind_congr fun l' c₅ h₅ => ?_
      exact run_bind_congr_left (hitems (by omega) (by omega))
    · rw [readBracketItems, readBracketItems]
      refine (Local.flags (t := [])).forward.bind_congr fun f c₁ h₁ =>
        (Local.skipBlanks ht).forward.bind_congr fun u c₂ h₂ => run_bind_congr fun op c₃ h₃ => ?_
      cases op with
      | some op =>
        have hlt₃ := bumpFirst?_length_lt (by decide) h₃
        exact hitems (by omega) (by omega)
      | none =>
        have hle₃ := ((Local.bumpFirst? (t := []) (by decide)).forward h₃).length_le
        refine Forward.peek.bind_congr fun x c₄ hle₄ => ?_
        split
        · refine run_bind_congr fun cls c₅ h₅ => ?_
          obtain ⟨s, l', rfl, hl', hrest⟩ | ⟨rfl, rfl⟩ := readAsciiClass?_cases h₅
          · refine (Local.lift (t := []) _).forward.bind_congr fun s c₆ h₆ => ?_
            have hlt₅ := hrest.length_le
            rw [hl', List.length_cons] at hle₄
            exact hitems (by omega) (by omega)
          -- A class inside begins at the same place: it costs a step before its bracket is taken.
          · refine (run_bind_congr_left (hbracket (by omega) (by omega))).trans ?_
            refine (Takes.readBracket_and_items ht m).1.strict.bind_congr fun r c₆ h₆ => ?_
            exact hitems (by omega) (by omega)
        · rfl
        · refine (Takes.readClassRange ht).strict.bind_congr fun s c₅ h₅ => ?_
          exact hitems (by omega) (by omega)

theorem readClass_run (c : Cursor) :
    readClass.run c = (readBracket (c.rest.length * 2 + 2)).run c := by
  unfold readClass
  rw [run_bind_of_eq_some (StateT.run_get c)]

theorem Takes.readClass (ht : '\n' ∉ t) : Takes t readClass where
  toLocal := by
    refine Local.of_fuel (fun k => k * 2 + 2) (fun h => by omega)
      (fun n => (Takes.readBracket_and_items ht n).1.toLocal) fun c n hn => ?_
    exact (readBracket_and_items_run_of_le _).1 (by omega) hn
  strict c s d hd := (Takes.readBracket_and_items ht _).1.strict ((readClass_run c).symm.trans hd)

/-! ## Repetitions -/

theorem Local.skipLazy : Local t skipLazy :=
  Local.peek?_bind (fun _ => Local.ite Takes.bump.toLocal (Local.pure ())) rfl

theorem Takes.readCounts (ht : '\n' ∉ t) : Takes t readCounts := by
  refine (Takes.bumpOver ht).left fun _ => (Local.decimal? ht).bind fun low =>
    (Takes.peek_bind fun x => Takes.ite ?_ ?_).toLocal
  · refine (Takes.bumpOver ht).left fun _ => (Takes.peek_bind fun y => Takes.ite ?_ ?_).toLocal
    · exact (Takes.bumpOver ht).left fun _ => (Local.lift _).bind fun _ => Local.pure _
    · refine Takes.right (Local.lift _) fun low => Takes.right (Local.decimal? ht) fun high =>
        Takes.right (Local.lift _) fun high => Takes.peek_bind fun z => ?_
      exact Takes.right (Local.check _) fun _ => (Takes.bumpOver ht).left fun _ => Local.pure _
  · exact Takes.right (Local.check _) fun _ => (Takes.bumpOver ht).left fun _ =>
      (Local.lift _).bind fun _ => Local.pure _

/-! ## Groups -/

/-- A reader that goes by what it finds in what is left. Something found may reach past a parenthesis,
but then it is not found without one. -/
theorem Local.of_find {α γ : Type} {p : Parse α} (find : Cursor → Option (γ × List Char)) (result : γ → α)
    (names : γ → List (List Char) → List (List Char))
    (hp : ∀ c, p.run c = (find c).map fun r =>
      (result r.1, { c with rest := r.2, names := names r.1 c.names }))
    (hsuffix : ∀ {c r}, find c = some r → r.2 <:+ c.rest)
    (hclosed : ∀ c, find (c.closed t) = (find c).map (fun r => (r.1, r.2 ++ ')' :: t)) ∨
      find c = none ∧ ∀ r, find (c.closed t) = some r → r.2 <:+ t) : Local t p where
  forward c a d hd := by
    obtain ⟨r, hr, heq⟩ := Option.map_eq_some_iff.1 ((hp c).symm.trans hd)
    cases heq
    exact hsuffix hr
  agrees c := by
    have hshort := hp c
    have hlong := hp (c.closed t)
    rcases hclosed c with h | ⟨hnone, h⟩
    · rw [h] at hlong
      cases hr : find c with
      | none =>
        rw [hr] at hshort hlong
        exact .into hshort fun _ _ hd => nomatch hlong.symm.trans hd
      | some r =>
        rw [hr] at hshort hlong
        exact .same hshort hlong
    · rw [hnone] at hshort
      refine .into hshort fun a d hd => ?_
      obtain ⟨r, hr, heq⟩ := Option.map_eq_some_iff.1 (hlong.symm.trans hd)
      cases heq
      exact h r hr

theorem readFlags_cons (items : List FlagItem) (x : Char) (l : List Char) :
    readFlags items (x :: l) =
      if x == ':' || x == ')' then
        if items.getLast? == some .negation then none else some ((items, x), l)
      else (FlagItem.ofChar? x).bind fun item =>
        if items.contains item then none else readFlags (items ++ [item]) l := by
  rw [readFlags]
  rfl

theorem readFlags_suffix {l : List Char} : ∀ {items r}, readFlags items l = some r → r.2 <:+ l := by
  induction l with
  | nil => exact fun h => nomatch h
  | cons y l ih =>
    intro items r h
    rw [readFlags_cons] at h
    split at h
    · split at h <;> cases h
      exact List.suffix_cons _ _
    · obtain ⟨item, -, h⟩ := Option.bind_eq_some_iff.1 h
      split at h
      · cases h
      · exact (ih h).trans (List.suffix_cons y l)

theorem readFlags_closed (l : List Char) : ∀ items,
    readFlags items (l ++ ')' :: t) = (readFlags items l).map (fun r => (r.1, r.2 ++ ')' :: t)) ∨
      readFlags items l = none ∧ ∀ r, readFlags items (l ++ ')' :: t) = some r → r.2 <:+ t := by
  induction l with
  | nil =>
    intro items
    refine .inr ⟨rfl, fun r hr => ?_⟩
    rw [List.nil_append, readFlags_cons] at hr
    simp only [beq_self_eq_true, Bool.or_true, if_true] at hr
    split at hr <;> cases hr
    exact List.suffix_refl t
  | cons y l ih =>
    intro items
    rw [List.cons_append, readFlags_cons, readFlags_cons]
    split
    · split
      · exact .inl rfl
      · exact .inl rfl
    · cases FlagItem.ofChar? y with
      | none => exact .inl rfl
      | some item =>
        simp only [Option.bind_some]
        split
        · exact .inl rfl
        · exact ih (items ++ [item])

theorem Local.readFlagList : Local t readFlagList := by
  refine Local.of_find (fun c => readFlags [] c.rest) id (fun _ ns => ns) (fun c => ?_) readFlags_suffix
    fun c => readFlags_closed c.rest []
  unfold Regex.readFlagList
  rw [run_bind_of_eq_some (StateT.run_get c)]
  cases readFlags [] c.rest <;> rfl

theorem groupNameAt?_suffix {names : List (List Char)} {l : List Char} {r : List Char × List Char}
    (h : groupNameAt? names l = some r) : r.2 <:+ l.dropWhile (· != '>') := by
  unfold groupNameAt? at h
  split at h
  · rename_i x rest c cs hdrop htake
    split at h <;> cases h
    exact hdrop ▸ List.suffix_cons x rest
  · cases h

/-- A name without a bracket behind it can go on past a parenthesis. -/
theorem groupNameAt?_closed (names : List (List Char)) (l : List Char) :
    groupNameAt? names (l ++ ')' :: t) = (groupNameAt? names l).map (fun r => (r.1, r.2 ++ ')' :: t)) ∨
      groupNameAt? names l = none ∧ ∀ r, groupNameAt? names (l ++ ')' :: t) = some r → r.2 <:+ t := by
  cases hdrop : l.dropWhile (· != '>') with
  | nil =>
    have hlong : (l ++ ')' :: t).dropWhile (· != '>') = t.dropWhile (· != '>') := by
      rw [List.dropWhile_append, hdrop]
      rfl
    refine .inr ⟨?_, fun r hr => ?_⟩
    · unfold groupNameAt?
      rw [hdrop]
    · exact (hlong ▸ groupNameAt?_suffix hr).trans (List.dropWhile_suffix _)
  | cons x rest =>
    have hdrop' : (l ++ ')' :: t).dropWhile (· != '>') = x :: (rest ++ ')' :: t) := by
      rw [List.dropWhile_append, hdrop]
      rfl
    have htake : (l ++ ')' :: t).takeWhile (· != '>') = l.takeWhile (· != '>') := by
      rw [List.takeWhile_append, if_neg]
      intro hlength
      have hall : l.takeWhile (· != '>') = l := (List.takeWhile_prefix _).eq_of_length hlength
      have hcat := List.takeWhile_append_dropWhile (p := (· != '>')) (l := l)
      rw [hall, hdrop, List.append_right_eq_self] at hcat
      cases hcat
    left
    unfold groupNameAt?
    rw [hdrop, hdrop', htake]
    cases l.takeWhile (· != '>') with
    | nil => rfl
    | cons c cs =>
      dsimp only
      split <;> rfl

theorem Local.readGroupName : Local t readGroupName := by
  refine Local.of_find (fun c => groupNameAt? c.names c.rest) (fun _ => ()) (fun name ns => name :: ns)
    (fun c => ?_) (fun h => (groupNameAt?_suffix h).trans (List.dropWhile_suffix _))
    fun c => groupNameAt?_closed c.names c.rest
  unfold Regex.readGroupName
  rw [run_bind_of_eq_some (StateT.run_get c)]
  cases groupNameAt? c.names c.rest <;> rfl

theorem Takes.readOpening (ht : '\n' ∉ t) : Takes t readOpening := by
  refine (Takes.bumpOver ht).left fun _ => (Local.bumpFirst? (by decide)).bind fun kind => ?_
  split
  · exact Local.failure
  · exact Local.readGroupName.bind fun _ => Local.pure _
  · refine Local.readFlagList.bind fun ⟨items, close⟩ => Local.ite ?_ (Local.pure _)
    exact (Local.check _).bind fun _ => Local.pure _
  · exact Local.pure _

theorem Takes.closeGroup (f : Flags) : Takes t (closeGroup f) := by
  refine Takes.peek_bind fun x => Takes.right (Local.check _) fun _ => ?_
  exact Takes.right (Local.setFlags f) fun _ => Takes.bump

theorem Takes.readSign (ht : '\n' ∉ t) : Takes t readSign := by
  refine Takes.right Local.flags fun f => Takes.peek_bind fun x => Takes.ite (Takes.readEscape ht) ?_
  exact Takes.bump.left fun _ => Local.pure _

theorem Takes.readAtom (ht : '\n' ∉ t) : Takes t readAtom :=
  (Takes.readSign ht).left fun _ => Local.flags.bind fun _ => (Local.lift _).bind fun _ => Local.pure _

/-! ## Alternatives -/

theorem Local.readBranches (ht : '\n' ∉ t) : ∀ n items branches, Local t (readBranches n items branches)
  | 0, _, _ => Local.failure
  | n + 1, items, branches => by
    have ih := Local.readBranches ht n
    rw [Regex.readBranches]
    refine (Local.skipBlanks ht).bind fun _ => Local.peek?_bind (fun x => ?_) rfl
    split
    · exact Local.pure _
    · exact Local.pure _
    · exact Takes.bump.toLocal.bind fun _ => ih _ _
    · refine Local.flags.bind fun outer => (Takes.readOpening ht).toLocal.bind fun opening =>
        (Local.setFlags _).bind fun _ => Local.ite ?_ (ih _ _)
      exact (ih _ _).bind fun inner => (Takes.closeGroup outer).toLocal.bind fun _ => ih _ _
    · exact (Takes.readClass ht).toLocal.bind fun r => ih _ _
    · exact Takes.bump.toLocal.bind fun _ => Local.skipLazy.bind fun _ => (Local.lift _).bind fun _ => ih _ _
    · exact Takes.bump.toLocal.bind fun _ => Local.skipLazy.bind fun _ => (Local.lift _).bind fun _ => ih _ _
    · exact Takes.bump.toLocal.bind fun _ => Local.skipLazy.bind fun _ => (Local.lift _).bind fun _ => ih _ _
    · exact (Takes.readCounts ht).toLocal.bind fun r => Local.skipLazy.bind fun _ =>
        (Local.lift _).bind fun _ => ih _ _
    · exact (Takes.readAtom ht).toLocal.bind fun _ => ih _ _

theorem readBranches_run_of_lt : ∀ {m n : Nat} {c : Cursor} {items branches : List Item},
    c.rest.length < m → m ≤ n →
      (readBranches n items branches).run c = (readBranches m items branches).run c
  | m + 1, n + 1, c, items, branches, hm, hn => by
    have ht : '\n' ∉ ([] : List Char) := List.not_mem_nil
    have ih {d : Cursor} {items branches : List Item} (hd : d.rest.length < c.rest.length) :
        (readBranches n items branches).run d = (readBranches m items branches).run d :=
      readBranches_run_of_lt (by omega) (by omega)
    rw [readBranches, readBranches]
    refine (Local.skipBlanks ht).forward.bind_congr fun _ c₁ h₁ => run_bind_congr fun x c₂ h₂ => ?_
    cases h₂
    -- What follows each of the marks of a repetition.
    have hrepeat {o : Option (List Item)} {d : Cursor} (hd : d.rest.length < c₁.rest.length) :
        (do skipLazy; readBranches n (← o) branches : Parse Item).run d =
          (do skipLazy; readBranches m (← o) branches : Parse Item).run d :=
      (Local.skipLazy (t := [])).forward.bind_congr fun _ _ hle₁ =>
        (Local.lift (t := []) o).forward.bind_congr fun _ _ hle₂ => ih (by omega)
    have hbump := (Takes.bump (t := [])).strict
    split
    · rfl
    · rfl
    · exact hbump.bind_congr fun _ _ hlt => ih (by omega)
    · refine (Local.flags (t := [])).forward.bind_congr fun outer c₃ h₃ =>
        (Takes.readOpening ht).strict.bind_congr fun opening c₄ h₄ =>
          (Local.setFlags (t := []) _).forward.bind_congr fun _ c₅ h₅ => ?_
      split
      -- The inside of a group is a run of the loop, and what follows the group another.
      · refine (run_bind_congr_left (ih (by omega))).trans ?_
        exact (Local.readBranches ht m [] []).forward.bind_congr fun inner c₆ h₆ =>
          (Takes.closeGroup (t := []) outer).strict.bind_congr fun _ c₇ h₇ => ih (by omega)
      · exact ih (by omega)
    · exact (Takes.readClass ht).strict.bind_congr fun _ _ hlt => ih (by omega)
    · exact hbump.bind_congr fun _ _ hlt => hrepeat hlt
    · exact hbump.bind_congr fun _ _ hlt => hrepeat hlt
    · exact hbump.bind_congr fun _ _ hlt => hrepeat hlt
    · exact (Takes.readCounts ht).strict.bind_congr fun _ _ hlt => hrepeat hlt
    · exact (Takes.readAtom ht).strict.bind_congr fun _ _ hlt => ih (by omega)

end Routebook.Regex
