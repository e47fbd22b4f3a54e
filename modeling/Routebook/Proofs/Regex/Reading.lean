import Routebook.Regex.Cursor

/-!
# How far a reader looks

What a reader does with a text says what it does with the same text in front of a closing
parenthesis and whatever stands behind that in the same line.

* `Forward` : a reader leaves an end of what it was given; `Strict` : not all of it;
* `Agrees` : the readings of a text by itself and in front of a parenthesis stop at the same place;
  else a comment runs through the end, or only the longer text is read;
* `Local` : a reader goes forward and its two readings agree from every place;
* `Takes` : and it is strict.

These pass from parts to the whole (`Local.bind`, `Takes.left`, `Takes.right`). A reader that looks
at the next character sees the end of the text in one case and the parenthesis in the other, so
`Local.peek_bind` and `Local.peek?_bind` have one condition more. For a loop, see `Local.of_fuel`.
-/

namespace Routebook.Regex

variable {α β : Type} {c d e : Cursor} {p q : Parse α} {f : α → Parse β}

/-! ## Runs -/

theorem run_bind_eq_some {b : β} :
    (p >>= f).run c = some (b, e) ↔ ∃ a d, p.run c = some (a, d) ∧ (f a).run d = some (b, e) := by
  rw [StateT.run_bind, Option.bind_eq_bind, Option.bind_eq_some_iff, Prod.exists]

theorem run_bind_of_eq_some {a : α} (h : p.run c = some (a, d)) :
    (p >>= f).run c = (f a).run d := by
  rw [StateT.run_bind, h]
  rfl

theorem run_bind_of_eq_none (h : p.run c = none) : (p >>= f).run c = none := by
  rw [StateT.run_bind, h]
  rfl

theorem run_bind_congr {g : α → Parse β}
    (h : ∀ a d, p.run c = some (a, d) → (f a).run d = (g a).run d) :
    (p >>= f).run c = (p >>= g).run c := by
  cases hp : p.run c with
  | none => rw [run_bind_of_eq_none hp, run_bind_of_eq_none hp]
  | some r => rw [run_bind_of_eq_some hp, run_bind_of_eq_some hp, h r.1 r.2 hp]

theorem run_bind_congr_left (h : p.run c = q.run c) : (p >>= f).run c = (q >>= f).run c := by
  rw [StateT.run_bind, StateT.run_bind, h]

/-! ## Going forward -/

/-- What a reader leaves is an end of what it was given. -/
def Forward (p : Parse α) : Prop :=
  ∀ ⦃c a d⦄, p.run c = some (a, d) → d.rest <:+ c.rest

/-- A reader goes past one character at least. -/
def Strict (p : Parse α) : Prop :=
  ∀ ⦃c a d⦄, p.run c = some (a, d) → ∃ x l, c.rest = x :: l ∧ d.rest <:+ l

theorem Strict.forward (h : Strict p) : Forward p := by
  intro c a d hd
  obtain ⟨x, l, hc, hl⟩ := h hd
  exact hc ▸ hl.trans (List.suffix_cons x l)

theorem Strict.length_lt (h : Strict p) {a : α} (hd : p.run c = some (a, d)) :
    d.rest.length < c.rest.length := by
  obtain ⟨x, l, hc, hl⟩ := h hd
  rw [hc, List.length_cons]
  exact Nat.lt_succ_of_le hl.length_le

theorem Forward.bind_congr {g : α → Parse β} (hp : Forward p)
    (h : ∀ a d, d.rest.length ≤ c.rest.length → (f a).run d = (g a).run d) :
    (p >>= f).run c = (p >>= g).run c :=
  run_bind_congr fun a d hd => h a d (hp hd).length_le

theorem Strict.bind_congr {g : α → Parse β} (hp : Strict p)
    (h : ∀ a d, d.rest.length < c.rest.length → (f a).run d = (g a).run d) :
    (p >>= f).run c = (p >>= g).run c :=
  run_bind_congr fun a d hd => h a d (hp.length_lt hd)

theorem Strict.of_fails (h : ∀ c, p.run c = none) : Strict p :=
  fun c _ _ hd => nomatch (h c).symm.trans hd

theorem Forward.bind (hp : Forward p) (hf : ∀ a, Forward (f a)) : Forward (p >>= f) := by
  intro c b e he
  obtain ⟨a, d, hd, he⟩ := run_bind_eq_some.1 he
  exact (hf a he).trans (hp hd)

theorem Strict.left (hp : Strict p) (hf : ∀ a, Forward (f a)) : Strict (p >>= f) := by
  intro c b e he
  obtain ⟨a, d, hd, he⟩ := run_bind_eq_some.1 he
  obtain ⟨x, l, hc, hl⟩ := hp hd
  exact ⟨x, l, hc, (hf a he).trans hl⟩

theorem Strict.right (hp : Forward p) (hf : ∀ a, Strict (f a)) : Strict (p >>= f) := by
  intro c b e he
  obtain ⟨a, d, hd, he⟩ := run_bind_eq_some.1 he
  obtain ⟨x, l, hd', hl⟩ := hf a he
  obtain ⟨before, hc⟩ := hd' ▸ hp hd
  cases before with
  | nil => exact ⟨x, l, hc.symm, hl⟩
  | cons y before =>
    have hrest : d.rest <:+ before ++ x :: l := hd' ▸ List.suffix_append before (x :: l)
    exact ⟨y, before ++ x :: l, hc.symm, (hl.trans (List.suffix_cons x l)).trans (hd' ▸ hrest)⟩

/-! ## In front of a parenthesis -/

/-- The same place with a closing parenthesis and more text behind what is left. -/
def Cursor.closed (t : List Char) (c : Cursor) : Cursor := { c with rest := c.rest ++ ')' :: t }

/-- How the reading of a text and its reading in front of a closing parenthesis and `t` compare. -/
inductive Agrees (t : List Char) (p : Parse α) (c : Cursor) : Prop
  /-- Both stop at the same place of the text. -/
  | same {a : α} {d : Cursor} (hshort : p.run c = some (a, d))
      (hlong : p.run (c.closed t) = some (a, d.closed t))
  /-- A comment runs through the end of the text, and through the parenthesis and `t` too. -/
  | drained {a : α} {d : Cursor} (hrest : d.rest = []) (hshort : p.run c = some (a, d))
      (hlong : p.run (c.closed t) = some (a, d))
  /-- The text by itself is not read; if the longer one is, the parenthesis has been used up. -/
  | into (hshort : p.run c = none)
      (hlong : ∀ a d, p.run (c.closed t) = some (a, d) → d.rest <:+ t)

/-- A reader that goes forward, and whose two readings agree from every place. -/
structure Local (t : List Char) (p : Parse α) : Prop where
  forward : Forward p
  agrees (c : Cursor) : Agrees t p c

/-- A local reader that goes past one character at least. -/
structure Takes (t : List Char) (p : Parse α) : Prop extends Local t p where
  strict : Strict p

variable {t : List Char}

theorem Agrees.congr {q : Parse β} {c c' : Cursor} {p : Parse β} (h : Agrees t p c)
    (hshort : q.run c' = p.run c) (hlong : q.run (c'.closed t) = p.run (c.closed t)) :
    Agrees t q c' := by
  cases h with
  | same h h' => exact .same (hshort.trans h) (hlong.trans h')
  | drained hrest h h' => exact .drained hrest (hshort.trans h) (hlong.trans h')
  | into h h' => exact .into (hshort.trans h) fun a d hd => h' a d (hlong ▸ hd)

theorem Agrees.bind (hp : Agrees t p c) (hf : ∀ a, Local t (f a)) : Agrees t (p >>= f) c := by
  cases hp with
  | @same a d hshort hlong =>
    exact ((hf a).agrees d).congr (run_bind_of_eq_some hshort) (run_bind_of_eq_some hlong)
  | @drained a d hrest hshort hlong =>
    -- The rest runs from the same place in both readings, and has nothing left to take.
    have hshort' := run_bind_of_eq_some (f := f) hshort
    have hlong' := run_bind_of_eq_some (f := f) hlong
    cases hd : (f a).run d with
    | none => exact .into (hshort'.trans hd) fun b e he => nomatch (hlong'.trans hd).symm.trans he
    | some r =>
      have hnil : r.2.rest = [] := List.suffix_nil.1 (hrest ▸ (hf a).forward hd)
      exact .drained hnil (hshort'.trans hd) (hlong'.trans hd)
  | into hshort hlong =>
    refine .into (run_bind_of_eq_none hshort) fun b e he => ?_
    obtain ⟨a, d, hd, he⟩ := run_bind_eq_some.1 he
    exact ((hf a).forward he).trans (hlong a d hd)

namespace Local

/-- A reader that goes nowhere, and gives the same from both texts. -/
theorem of_look (look : Cursor → Option α) (hp : ∀ c, p.run c = (look c).map (·, c))
    (h : ∀ c, look (c.closed t) = look c) : Local t p where
  forward c a d hd := by
    obtain ⟨b, -, hb⟩ := Option.map_eq_some_iff.1 ((hp c).symm.trans hd)
    cases hb
    exact List.suffix_refl _
  agrees c := by
    have hlong := hp (c.closed t)
    rw [h] at hlong
    cases hc : look c with
    | none =>
      rw [hc] at hlong
      exact .into ((hp c).trans (by rw [hc]; rfl)) fun _ _ hd => nomatch hlong.symm.trans hd
    | some a =>
      rw [hc] at hlong
      exact .same ((hp c).trans (by rw [hc]; rfl)) hlong

theorem pure (a : α) : Local t (Pure.pure a : Parse α) :=
  of_look (fun _ => some a) (fun _ => rfl) fun _ => rfl

theorem failure : Local t (Alternative.failure : Parse α) :=
  of_look (fun _ => none) (fun _ => rfl) fun _ => rfl

theorem lift (o : Option α) : Local t (liftM o : Parse α) := by
  cases o with
  | none => exact failure
  | some a => exact pure a

theorem check (b : Prop) [Decidable b] : Local t (guard b : Parse Unit) := by
  unfold guard
  split
  · exact pure ()
  · exact failure

theorem flags : Local t flags :=
  of_look (fun c => some c.flags) (fun _ => rfl) fun _ => rfl

theorem bind (hp : Local t p) (hf : ∀ a, Local t (f a)) : Local t (p >>= f) :=
  ⟨hp.forward.bind fun a => (hf a).forward, fun c => (hp.agrees c).bind hf⟩

theorem ite {b : Prop} [Decidable b] (hp : Local t p) (hq : Local t q) :
    Local t (if b then p else q) := by
  split
  · exact hp
  · exact hq

theorem setFlags (f : Flags) : Local t (setFlags f) where
  forward c u d hd := by
    cases hd
    exact List.suffix_refl _
  agrees _ := .same rfl rfl

end Local

namespace Takes

theorem failure : Takes t (Alternative.failure : Parse α) :=
  ⟨Local.failure, Strict.of_fails fun _ => rfl⟩

theorem left (hp : Takes t p) (hf : ∀ a, Local t (f a)) : Takes t (p >>= f) :=
  ⟨hp.toLocal.bind hf, hp.strict.left fun a => (hf a).forward⟩

theorem right (hp : Local t p) (hf : ∀ a, Takes t (f a)) : Takes t (p >>= f) :=
  ⟨hp.bind fun a => (hf a).toLocal, Strict.right hp.forward fun a => (hf a).strict⟩

theorem ite {b : Prop} [Decidable b] (hp : Takes t p) (hq : Takes t q) :
    Takes t (if b then p else q) := by
  split
  · exact hp
  · exact hq

theorem bump : Takes t bump where
  strict c u d hd := by
    unfold Regex.bump at hd
    obtain ⟨rest, f, names⟩ := c
    cases rest with
    | nil => cases hd
    | cons x l =>
      cases hd
      exact ⟨x, l, rfl, List.suffix_refl l⟩
  forward c u d hd := by
    unfold Regex.bump at hd
    obtain ⟨rest, f, names⟩ := c
    cases rest with
    | nil => cases hd
    | cons x l =>
      cases hd
      exact List.suffix_cons x l
  agrees c := by
    obtain ⟨rest, f, names⟩ := c
    cases rest with
    | nil =>
      refine .into rfl fun a d hd => ?_
      cases hd
      exact List.suffix_refl t
    | cons x l => exact .same rfl rfl

end Takes

/-! ## Looking at the next character -/

theorem peek_run (c : Cursor) : peek.run c = c.rest.head?.map (·, c) := by
  obtain ⟨rest, f, names⟩ := c
  cases rest <;> rfl

theorem Forward.peek : Forward peek := by
  intro c x d hd
  obtain ⟨y, -, hy⟩ := Option.map_eq_some_iff.1 ((peek_run c).symm.trans hd)
  cases hy
  exact List.suffix_refl _

/-- Where the text ends, the longer one has a parenthesis, which must not pass unused. -/
theorem Local.peek_bind {f : Char → Parse β} (hf : ∀ x, Local t (f x)) (hmark : Strict (f ')')) :
    Local t (peek >>= f) := by
  refine ⟨Forward.peek.bind fun x => (hf x).forward, fun c => ?_⟩
  obtain ⟨rest, flags, names⟩ := c
  cases rest with
  | nil =>
    -- Here the longer reading goes on with `f ')'`, which takes the parenthesis.
    refine .into rfl fun b e he => ?_
    obtain ⟨x, l, hcons, hl⟩ := hmark he
    cases hcons
    exact hl
  | cons x l => exact ((hf x).agrees ⟨x :: l, flags, names⟩).congr rfl rfl

theorem Takes.peek_bind {f : Char → Parse β} (hf : ∀ x, Takes t (f x)) : Takes t (peek >>= f) :=
  ⟨Local.peek_bind (fun x => (hf x).toLocal) (hf ')').strict,
    Strict.right Forward.peek fun x => (hf x).strict⟩

/-- What follows a look at the next character must not tell the end from a parenthesis. -/
theorem Local.peek?_bind {f : Option Char → Parse β} (hf : ∀ x, Local t (f x))
    (hmark : f none = f (some ')')) : Local t (peek? >>= f) := by
  constructor
  · intro c b e he
    exact (hf c.rest.head?).forward he
  · intro ⟨rest, flags, names⟩
    cases rest with
    | nil =>
      have hlong : (peek? >>= f).run (Cursor.closed t ⟨[], flags, names⟩) =
          (f none).run (Cursor.closed t ⟨[], flags, names⟩) := hmark ▸ rfl
      exact ((hf none).agrees ⟨[], flags, names⟩).congr rfl hlong
    | cons x l => exact ((hf (some x)).agrees ⟨x :: l, flags, names⟩).congr rfl rfl

/-! ## Blanks and marks -/

theorem dropBlanks_suffix (b : Bool) (l : List Char) : dropBlanks b l <:+ l := by
  fun_induction dropBlanks b l with
  | case1 => exact List.suffix_refl []
  | case2 c rest ih => exact ih.trans (List.suffix_cons c rest)
  | case3 c rest _ ih => exact ih.trans (List.suffix_cons c rest)
  | case4 c rest _ _ ih => exact ih.trans (List.suffix_cons c rest)
  | case5 c rest => exact List.suffix_refl _

theorem dropBlanks_open {l : List Char} (h : '\n' ∉ l) : dropBlanks true l = [] := by
  induction l with
  | nil => rfl
  | cons c rest ih =>
    have hc : (c != '\n') = true := bne_iff_ne.2 fun heq => h (heq ▸ List.mem_cons_self)
    rw [dropBlanks, hc]
    exact ih fun hmem => h (List.mem_cons_of_mem c hmem)

/-- Blanks and comments end in front of a parenthesis, if no comment is open there. -/
theorem dropBlanks_closed (ht : '\n' ∉ t) (b : Bool) (l : List Char) :
    dropBlanks b (l ++ ')' :: t) = dropBlanks b l ++ ')' :: t ∨
      dropBlanks b l = [] ∧ dropBlanks b (l ++ ')' :: t) = [] := by
  fun_induction dropBlanks b l with
  | case1 b =>
    cases b with
    | false => exact .inl rfl
    -- A comment is open: it runs through the parenthesis and `t`, which has no line end.
    | true => exact .inr ⟨rfl, dropBlanks_open (by simpa using ht)⟩
  | case2 c rest ih => exact ih
  | case3 c rest hc ih => simpa [dropBlanks, hc] using ih
  | case4 c rest hc hmark ih => simpa [dropBlanks, hc, hmark] using ih
  | case5 c rest hc hmark => simp [dropBlanks, hc, hmark]

theorem Flags.skip_suffix (f : Flags) (l : List Char) : f.skip l <:+ l := by
  unfold Flags.skip
  split
  · exact dropBlanks_suffix false l
  · exact List.suffix_refl l

theorem Flags.skip_closed (ht : '\n' ∉ t) (f : Flags) (l : List Char) :
    f.skip (l ++ ')' :: t) = f.skip l ++ ')' :: t ∨ f.skip l = [] ∧ f.skip (l ++ ')' :: t) = [] := by
  unfold Flags.skip
  split
  · exact dropBlanks_closed ht false l
  · exact .inl rfl

theorem Local.skipBlanks (ht : '\n' ∉ t) : Local t skipBlanks where
  forward c u d hd := by
    cases hd
    exact c.flags.skip_suffix c.rest
  agrees c := by
    have hrun (c : Cursor) :
        Regex.skipBlanks.run c = some ((), { c with rest := c.flags.skip c.rest }) := rfl
    rcases Flags.skip_closed ht c.flags c.rest with h | ⟨hrest, h⟩
    · exact .same (hrun c) ((hrun _).trans (by simp only [Cursor.closed, h]))
    · exact .drained hrest (hrun c) ((hrun _).trans (by simp only [Cursor.closed, h, hrest]))

theorem Takes.bumpOver (ht : '\n' ∉ t) : Takes t bumpOver :=
  Takes.bump.left fun _ => Local.skipBlanks ht

theorem dropWhile_closed {pass : Char → Bool} (h : pass ')' = false) (l : List Char) :
    (l ++ ')' :: t).dropWhile pass = l.dropWhile pass ++ ')' :: t := by
  induction l with
  | nil => exact List.dropWhile_cons_of_neg (by simp [h])
  | cons x l ih =>
    rw [List.cons_append, List.dropWhile_cons, List.dropWhile_cons, ih]
    split <;> rfl

theorem takeWhile_closed {pass : Char → Bool} (h : pass ')' = false) (l : List Char) :
    (l ++ ')' :: t).takeWhile pass = l.takeWhile pass := by
  induction l with
  | nil => exact List.takeWhile_cons_of_neg (by simp [h])
  | cons x l ih => rw [List.cons_append, List.takeWhile_cons, List.takeWhile_cons, ih]

theorem any_head?_closed {pass : Char → Bool} (h : pass ')' = false) (l : List Char) :
    (l ++ ')' :: t).head?.any pass = l.head?.any pass := by
  cases l with
  | nil => exact h
  | cons x l => rfl

theorem Local.skipWhite : Local t skipWhite where
  forward c u d hd := by
    cases hd
    exact List.dropWhile_suffix _
  agrees c := by
    have hmark : Text.isBlank ')' = false := by decide
    exact .same rfl (by simp [Regex.skipWhite, Cursor.closed, dropWhile_closed hmark])

/-- A mark without a parenthesis stands in front of one just when it stands there in any case. -/
theorem isPrefixOf_closed {mark : List Char} (h : ')' ∉ mark) (l : List Char) :
    mark.isPrefixOf (l ++ ')' :: t) = mark.isPrefixOf l := by
  induction mark generalizing l with
  | nil => simp
  | cons x mark ih =>
    have hx : x ≠ ')' := fun heq => h (heq ▸ List.mem_cons_self)
    cases l with
    | nil => simp [List.isPrefixOf, hx]
    | cons y l => simp [List.isPrefixOf, ih fun hmem => h (List.mem_cons_of_mem x hmem)]

theorem past?_closed {mark : List Char} (h : ')' ∉ mark) (l : List Char) :
    past? mark (l ++ ')' :: t) = (past? mark l).map (· ++ ')' :: t) := by
  unfold past?
  rw [isPrefixOf_closed h]
  split
  · rename_i hprefix
    rw [List.drop_append_of_le_length (List.isPrefixOf_iff_prefix.1 hprefix).length_le]
    rfl
  · rfl

theorem past?_suffix {mark l rest : List Char} (h : past? mark l = some rest) : rest <:+ l := by
  unfold past? at h
  split at h <;> cases h
  exact List.drop_suffix _ _

theorem past?_cons_suffix {x : Char} {mark l rest : List Char} (h : past? (x :: mark) l = some rest) :
    ∃ l', l = x :: l' ∧ rest <:+ l' := by
  unfold past? at h
  split at h <;> cases h
  rename_i hprefix
  obtain ⟨l', rfl⟩ := List.isPrefixOf_iff_prefix.1 hprefix
  exact ⟨mark ++ l', rfl, List.drop_suffix mark.length (mark ++ l')⟩

theorem bumpIf_run (mark : List Char) (c : Cursor) : (bumpIf mark).run c =
    match past? mark c.rest with
    | some rest => some (true, { c with rest := rest })
    | none => some (false, c) := by
  unfold bumpIf
  rw [run_bind_of_eq_some (StateT.run_get c)]
  cases past? mark c.rest <;> rfl

theorem bumpIf_cases {x : Char} {mark : List Char} {b : Bool}
    (hd : (bumpIf (x :: mark)).run c = some (b, d)) :
    b = true ∧ (∃ l, c.rest = x :: l ∧ d.rest <:+ l) ∨ b = false ∧ d = c := by
  rw [bumpIf_run] at hd
  cases hrest : past? (x :: mark) c.rest with
  | none =>
    rw [hrest] at hd
    cases hd
    exact .inr ⟨rfl, rfl⟩
  | some rest =>
    rw [hrest] at hd
    cases hd
    exact .inl ⟨rfl, past?_cons_suffix hrest⟩

theorem Local.bumpIf {mark : List Char} (h : ')' ∉ mark) : Local t (bumpIf mark) where
  forward c b d hd := by
    cases mark with
    | nil =>
      cases hd
      exact List.suffix_refl _
    | cons x mark =>
      obtain ⟨-, l, hl, hrest⟩ | ⟨-, rfl⟩ := bumpIf_cases hd
      · exact hl ▸ hrest.trans (List.suffix_cons x l)
      · exact List.suffix_refl _
  agrees c := by
    have hshort := bumpIf_run mark c
    have hlong := bumpIf_run mark (c.closed t)
    rw [show (c.closed t).rest = c.rest ++ ')' :: t from rfl, past?_closed h] at hlong
    cases hrest : past? mark c.rest with
    | some rest =>
      rw [hrest] at hshort hlong
      exact .same hshort hlong
    | none =>
      rw [hrest] at hshort hlong
      exact .same hshort hlong

theorem Local.bumpFirst? : ∀ {marks : List (List Char × α)}, (∀ m ∈ marks, ')' ∉ m.1) →
    Local t (bumpFirst? marks)
  | [], _ => Local.pure none
  | _ :: _, h => (Local.bumpIf (h _ List.mem_cons_self)).bind fun _ => Local.ite (Local.pure _)
      (Local.bumpFirst? fun m hm => h m (List.mem_cons_of_mem _ hm))

theorem bumpFirst?_length_lt {a : α} : ∀ {marks : List (List Char × α)}, (∀ m ∈ marks, m.1 ≠ []) →
    ∀ {c}, (bumpFirst? marks).run c = some (some a, d) → d.rest.length < c.rest.length
  | [], _, c, hd => by cases hd
  | ([], _) :: _, h, _, _ => absurd rfl (h _ List.mem_cons_self)
  | (x :: mark, b) :: marks, h, c, hd => by
    obtain ⟨found, c', hc', hd'⟩ := run_bind_eq_some.1 hd
    obtain ⟨rfl, l, hl, hrest⟩ | ⟨rfl, rfl⟩ := bumpIf_cases hc'
    · cases hd'
      rw [hl, List.length_cons]
      exact Nat.lt_succ_of_le hrest.length_le
    · exact bumpFirst?_length_lt (fun m hm => h m (List.mem_cons_of_mem _ hm)) hd'

/-! ## Loops

A loop is given fuel by the length of what is left, in the longer text more than in the text by
itself. More than needed makes no difference. -/

theorem Local.of_fuel {p : Nat → Parse α} (fuel : Nat → Nat) (hmono : ∀ {m n}, m ≤ n → fuel m ≤ fuel n)
    (hp : ∀ n, Local t (p n))
    (hfuel : ∀ c n, fuel c.rest.length ≤ n → (p n).run c = (p (fuel c.rest.length)).run c) :
    Local t (do p (fuel (← get).rest.length)) where
  forward := fun c a d hd => (hp (fuel c.rest.length)).forward hd
  agrees c := by
    have hle : fuel c.rest.length ≤ fuel (c.closed t).rest.length :=
      hmono (by rw [Cursor.closed, List.length_append]; exact Nat.le_add_right _ _)
    -- Both readings are run with the fuel of the longer text.
    exact ((hp (fuel (c.closed t).rest.length)).agrees c).congr (hfuel c _ hle).symm rfl

theorem takeOver_run_of_le {pass : Char → Bool} : ∀ {m n : Nat} {c : Cursor}, c.rest.length ≤ m →
    m ≤ n → (takeOver pass n).run c = (takeOver pass m).run c
  | 0, 0, _, _, _ => rfl
  | 0, n + 1, ⟨[], f, names⟩, _, _ => rfl
  | m + 1, n + 1, c, hm, hn => by
    refine run_bind_congr fun x d hd => ?_
    cases hd
    cases c.rest.head? with
    | none => rfl
    | some x =>
      dsimp only
      split
      · refine (Takes.bumpOver (t := []) List.not_mem_nil).strict.bind_congr fun u d hlt => ?_
        exact run_bind_congr_left (takeOver_run_of_le (by omega) (by omega))
      · rfl

theorem Local.takeOver (ht : '\n' ∉ t) {pass : Char → Bool} (hpass : pass ')' = false) :
    ∀ n, Local t (takeOver pass n)
  | 0 => Local.pure []
  | n + 1 => by
    rw [Regex.takeOver]
    refine Local.peek?_bind (fun x => ?_) (by simp [hpass])
    cases x with
    | none => exact Local.pure []
    | some x =>
      refine Local.ite ?_ (Local.pure [])
      exact (Takes.bumpOver ht).toLocal.bind fun _ =>
        (Local.takeOver ht hpass n).bind fun _ => Local.pure _

theorem Local.takeAllOver (ht : '\n' ∉ t) {pass : Char → Bool} (hpass : pass ')' = false) :
    Local t (takeAllOver pass) :=
  Local.of_fuel id id (Local.takeOver ht hpass) fun _ _ => takeOver_run_of_le (Nat.le_refl _)

theorem Local.decimal? (ht : '\n' ∉ t) : Local t decimal? := by
  refine Local.skipWhite.bind fun _ => (Local.takeAllOver ht rfl).bind fun ds =>
    Local.skipWhite.bind fun _ => Local.ite (Local.pure none) ?_
  exact (Local.check _).bind fun _ => Local.pure _

end Routebook.Regex
