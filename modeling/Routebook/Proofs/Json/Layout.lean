import Routebook.Json.Reader
import Routebook.Json.Writer

/-!
# How JSON values are laid out

The text of a value, said over its parts: the items of a list and the members of an object stand in order,
with commas between them, all in one line or each on a line of its own.

* `Json.inQuotes` : a string, which reads back (`Json.readString_inQuotes`);
* `Json.Layout`, `Json.laidOut` : the text of a value in one of the two layouts;
* `Json.compact_eq`, `Json.pretty_eq` : what is written is laid out so (`Json.Layout.write_eq_laidOut`).
-/

namespace Routebook

theorem Number.text_int (n : Int) : (Number.int n).text = toString n := by
  show _ = n.repr
  rw [Number.text, Int.repr_eq_if, Decimal.digits, ← String.toList_inj]
  split
  case isTrue hneg =>
    rw [if_neg (Int.not_le.2 hneg), show n.natAbs = (-n).toNat by omega]
    simp [Nat.toList_repr]
  case isFalse hnonneg =>
    rw [if_pos (Int.not_lt.1 hnonneg), show n.natAbs = n.toNat by omega]
    simp [Nat.toList_repr]

namespace Json

/-! ## Strings -/

/-- Characters that are spelled with a backslash and a letter. -/
def letters : List (Char × Char) :=
  [('"', '"'), ('\\', '\\'), ('\x08', 'b'), ('\t', 't'), ('\n', 'n'), ('\x0c', 'f'), ('\r', 'r')]

/-- A character between quotes. Control characters without a letter are spelled by their number. -/
def spelling (c : Char) : List Char :=
  match letters.lookup c with
  | some letter => ['\\', letter]
  | none => if c.toNat < 0x20 then '\\' :: 'u' :: (Nat.toDigits 16 c.toNat).leftpad 4 '0' else [c]

/-- The string between quotes, its characters in order. -/
def inQuotes (s : String) : String :=
  "\"" ++ String.ofList (s.toList.flatMap spelling) ++ "\""

theorem leftpad_toDigits {n : Nat} (h : n < 0x20) : (Nat.toDigits 16 n).leftpad 4 '0' =
    ['0', '0', hexDigit (n / 16), hexDigit (n % 16)] := by
  revert n
  decide

theorem spelling_eq_escape (c : Char) : spelling c = escape c := by
  unfold escape
  split
  case h_8 hquote hslash hn hr ht hb hf =>
    have hnone : letters.lookup c = none := by
      rw [List.lookup_eq_none_iff, letters]
      simpa using ⟨hquote, hslash, hb, ht, hn, hf, hr⟩
    rw [spelling, hnone]
    dsimp only
    split
    case isTrue hlow => rw [leftpad_toDigits hlow]
    case isFalse => rfl
  all_goals rfl

theorem inQuotes_eq_quote (s : String) : inQuotes s = quote s := by
  rw [quote, inQuotes, funext spelling_eq_escape, ← String.toList_inj]
  simp

theorem hexValue?_hexDigit {n : Nat} (h : n < 16) : hexValue? (hexDigit n) = some n := by
  revert n
  decide

theorem readEscapedUnit_of_lt {n : Nat} (h : n < 0x20) (rest : List Char) :
    readEscapedUnit ('0' :: '0' :: hexDigit (n / 16) :: hexDigit (n % 16) :: rest) =
      some (Char.ofNat n, rest) := by
  have hzero : hexValue? '0' = some 0 := rfl
  have hunit : readUnit ('0' :: '0' :: hexDigit (n / 16) :: hexDigit (n % 16) :: rest) = some (n, rest) := by
    simp only [readUnit, hzero, hexValue?_hexDigit (show n / 16 < 16 by omega),
      hexValue?_hexDigit (Nat.mod_lt n (by decide : 16 > 0)), Option.bind_eq_bind, Option.bind_some, Nat.zero_mul,
      Nat.zero_add, Nat.div_add_mod', Option.pure_def]
  unfold readEscapedUnit
  rw [hunit]
  simp only [Option.bind_eq_bind, Option.bind_some]
  rw [if_neg (by omega), if_neg (by omega)]
  rfl

/-- The reader takes what spells a character for this character. -/
theorem readString_spelling (c : Char) (fuel : Nat) (acc rest : List Char) :
    readString (fuel + 1) acc (spelling c ++ rest) = readString fuel (c :: acc) rest := by
  rw [spelling_eq_escape]
  unfold escape
  split
  case h_8 hquote hslash hn hr ht hb hf =>
    split
    case isTrue hlow =>
      show readString (fuel + 1) acc
        ('\\' :: 'u' :: '0' :: '0' :: hexDigit (c.toNat / 16) :: hexDigit (c.toNat % 16) :: rest) = _
      rw [readString, readEscapedUnit_of_lt hlow, Char.ofNat_toNat]
      rfl
    case isFalse hhigh =>
      have hplain : (decide (c.toNat < 0x20) || c == '\\') = false := by
        rw [decide_eq_false hhigh, beq_false_of_ne hslash, Bool.or_false]
      show readString (fuel + 1) acc (c :: rest) = _
      rw [readString.eq_5 _ _ _ _ hquote (fun _ h => absurd h hslash) (fun _ _ h => absurd h hslash), hplain]
      rfl
  all_goals rfl

theorem readString_flatMap_spelling (cs : List Char) {fuel : Nat} (hfuel : cs.length < fuel)
    (acc rest : List Char) : readString fuel acc (cs.flatMap spelling ++ '"' :: rest) =
      some (String.ofList (acc.reverse ++ cs), rest) := by
  induction cs generalizing fuel acc with
  | nil =>
    obtain ⟨fuel, rfl⟩ := Nat.exists_eq_add_of_lt hfuel
    simp [readString]
  | cons c cs ih =>
    cases fuel with
    | zero => cases hfuel
    | succ fuel =>
      rw [List.flatMap_cons, List.append_assoc, readString_spelling, ih (Nat.lt_of_succ_lt_succ hfuel),
        List.reverse_cons, List.append_assoc, List.singleton_append]

/-- A string that was written reads back. -/
theorem readString_inQuotes (s : String) (rest : List Char) : ∃ body, (inQuotes s).toList = '"' :: body ∧
    ∀ fuel, s.length < fuel → readString fuel [] (body ++ rest) = some (s, rest) := by
  refine ⟨s.toList.flatMap spelling ++ ['"'], by simp [inQuotes], fun fuel hfuel => ?_⟩
  rw [List.append_assoc, List.singleton_append,
    readString_flatMap_spelling s.toList (String.length_toList ▸ hfuel), List.reverse_nil, List.nil_append,
    String.ofList_toList]

/-! ## Layouts -/

/-- How the parts of a value are set. -/
inductive Layout where
  /-- in one line, without blanks -/
  | line
  /-- each on a line of its own, two blanks further in than what it is a part of -/
  | block (depth : Nat)

namespace Layout

/-- The layout of the parts. -/
def inner : Layout → Layout
  | line => line
  | block depth => block (depth + 1)

/-- What stands in front of a part. -/
def start : Layout → String
  | line => ""
  | block depth => "\n" ++ String.ofList (List.replicate (2 * depth) ' ')

/-- Parts in order, with commas between them. -/
def enclosed (l : Layout) (opening closing : String) : List String → String
  | [] => opening ++ closing
  | parts => opening ++ ",".intercalate (parts.map (l.inner.start ++ ·)) ++ l.start ++ closing

/-- The list of the given texts. -/
def list (l : Layout) (items : List String) : String := l.enclosed "[" "]" items

/-- A key and the text of its value. -/
def member (l : Layout) (key value : String) : String :=
  match l with
  | line => inQuotes key ++ ":" ++ value
  | block _ => inQuotes key ++ ": " ++ value

/-- The object of the given keys and texts. -/
def object (l : Layout) (members : List (String × String)) : String :=
  l.enclosed "\x7b" "\x7d" (members.map fun m => l.member m.1 m.2)

end Layout

/-- The text of a value in a layout. -/
def laidOut (l : Layout) : Json → String
  | .null => "null"
  | .bool b => toString b
  | .num (.int n) => toString n
  | .num (.float x) => floatText x
  | .str s => inQuotes s
  | .arr items => l.list (items.map (laidOut l.inner))
  | .obj members => l.object (members.map fun m => (m.1, laidOut l.inner m.2))
termination_by v => sizeOf v
decreasing_by
  · decreasing_tactic
  · -- The value is inside a pair of the members.
    rename_i hm
    have hlt := List.sizeOf_lt_of_mem hm
    obtain ⟨key, value⟩ := m
    simp only [Prod.mk.sizeOf_spec, obj.sizeOf_spec] at hlt ⊢
    omega

/-! ## Written values -/

/-- What is written in a layout. -/
def Layout.write : Layout → Json → String
  | line, v => v.compact
  | block depth, v => v.prettyAt depth

theorem eq_intercalate {α : Type} {f : List α → String} {g : α → String} (hnil : f [] = "")
    (hone : ∀ a, f [a] = g a) (hcons : ∀ a b rest, f (a :: b :: rest) = g a ++ "," ++ f (b :: rest)) :
    ∀ l, f l = ",".intercalate (l.map g)
  | [] => hnil
  | [a] => by rw [hone, List.map_singleton, String.intercalate_singleton]
  | a :: b :: rest => by
    rw [hcons, eq_intercalate hnil hone hcons, List.map_cons, List.map_cons, List.map_cons,
      String.intercalate_cons_cons]

theorem compactItems_eq (items : List Json) : compactItems items = ",".intercalate (items.map compact) :=
  eq_intercalate rfl (fun _ => rfl) (fun _ _ _ => rfl) items

theorem compactMembers_eq (members : List (String × Json)) : compactMembers members =
    ",".intercalate (members.map fun m => quote m.1 ++ ":" ++ m.2.compact) :=
  eq_intercalate rfl (fun _ => rfl) (fun _ _ _ => rfl) members

theorem prettyItems_eq (depth : Nat) (items : List Json) : prettyItems depth items =
    ",".intercalate (items.map fun v => newline depth ++ v.prettyAt depth) :=
  eq_intercalate rfl (fun _ => rfl) (fun _ _ _ => rfl) items

theorem prettyMembers_eq (depth : Nat) (members : List (String × Json)) : prettyMembers depth members =
    ",".intercalate (members.map fun m => newline depth ++ quote m.1 ++ ": " ++ m.2.prettyAt depth) :=
  eq_intercalate rfl (fun _ => rfl) (fun _ _ _ => rfl) members

namespace Layout

theorem start_block (depth : Nat) : (block depth).start = newline depth := by
  rw [start, newline, ← String.toList_inj]
  simp

theorem enclosed_cons (l : Layout) (opening closing first : String) (rest : List String) :
    l.enclosed opening closing (first :: rest) =
      opening ++ ",".intercalate ((first :: rest).map (l.inner.start ++ ·)) ++ l.start ++ closing := rfl

theorem write_arr (l : Layout) (items : List Json) :
    l.write (.arr items) = l.list (items.map l.inner.write) := by
  cases items with
  | nil => cases l <;> rfl
  | cons v rest =>
    rw [list, List.map_cons, enclosed_cons, ← List.map_cons (f := l.inner.write), List.map_map]
    cases l with
    | line =>
      rw [write, compact, compactItems_eq]
      simp [inner, start, Function.comp_def, write]
    | block depth =>
      rw [write, prettyAt, prettyItems_eq]
      simp [inner, start_block, Function.comp_def, write]

theorem write_obj (l : Layout) (members : List (String × Json)) :
    l.write (.obj members) = l.object (members.map fun m => (m.1, l.inner.write m.2)) := by
  cases members with
  | nil => cases l <;> rfl
  | cons m rest =>
    cases l with
    | line =>
      rw [write, compact, compactMembers_eq]
      simp [object, enclosed_cons, member, inQuotes_eq_quote, inner, start, Function.comp_def, write]
    | block depth =>
      rw [write, prettyAt, prettyMembers_eq]
      simp [object, enclosed_cons, member, inQuotes_eq_quote, inner, start_block, Function.comp_def, write,
        String.append_assoc]

end Layout

theorem Layout.write_eq_laidOut (l : Layout) (v : Json) : l.write v = v.laidOut l := by
  induction l, v using laidOut.induct with
  | case1 l => cases l <;> rw [laidOut] <;> rfl
  | case2 l b => cases l <;> cases b <;> rw [laidOut] <;> rfl
  | case3 l n => cases l <;> rw [laidOut, ← Number.text_int] <;> rfl
  | case4 l x => cases l <;> rw [laidOut] <;> rfl
  | case5 l s => cases l <;> rw [laidOut, inQuotes_eq_quote] <;> rfl
  | case6 l items ih =>
    rw [write_arr, laidOut, List.map_congr_left ih]
  | case7 l members ih =>
    rw [write_obj, laidOut, List.map_congr_left fun m hm => congrArg (Prod.mk m.1) (ih m hm)]

theorem compact_eq (v : Json) : v.compact = v.laidOut .line := Layout.write_eq_laidOut .line v

theorem pretty_eq (v : Json) : v.pretty = v.laidOut (.block 0) := Layout.write_eq_laidOut (.block 0) v

end Json

end Routebook
