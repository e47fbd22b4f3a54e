import Routebook.Regex.Escape

/-!
# Bracketed classes

A bracketed class lists characters, ranges and classes. `&&`, `--` and `~~` between lists mean
intersection, difference and symmetric difference, grouped from the left.

* `asciiClass?` : the set of a class such as `[:alpha:]`;
* `readBracket` : reads a class from its bracket on; gives its set and how deep it nests;
* `readClass` : the same with fuel for the whole class.
-/

namespace Routebook.Regex

open Unicode (CharSet)

/-- The set of a named ASCII class. -/
def asciiClass? (name : String) : Option CharSet :=
  match name with
  | "alnum" => some ⟨[(0x30, 0x39), (0x41, 0x5A), (0x61, 0x7A)]⟩
  | "alpha" => some ⟨[(0x41, 0x5A), (0x61, 0x7A)]⟩
  | "ascii" => some ⟨[(0x00, 0x7F)]⟩
  | "blank" => some ⟨[(0x09, 0x09), (0x20, 0x20)]⟩
  | "cntrl" => some ⟨[(0x00, 0x1F), (0x7F, 0x7F)]⟩
  | "digit" => some ⟨[(0x30, 0x39)]⟩
  | "graph" => some ⟨[(0x21, 0x7E)]⟩
  | "lower" => some ⟨[(0x61, 0x7A)]⟩
  | "print" => some ⟨[(0x20, 0x7E)]⟩
  | "punct" => some ⟨[(0x21, 0x2F), (0x3A, 0x40), (0x5B, 0x60), (0x7B, 0x7E)]⟩
  | "space" => some ⟨[(0x09, 0x0D), (0x20, 0x20)]⟩
  | "upper" => some ⟨[(0x41, 0x5A)]⟩
  | "word" => some ⟨[(0x30, 0x39), (0x41, 0x5A), (0x5F, 0x5F), (0x61, 0x7A)]⟩
  | "xdigit" => some ⟨[(0x30, 0x39), (0x41, 0x46), (0x61, 0x66)]⟩
  | _ => none

/-- The class `[:name:]` or `[:^name:]` that stands first: its set, whether it is negated, and what
stands behind it. -/
def asciiClassAt? (l : List Char) : Option ((CharSet × Bool) × List Char) := do
  let l ← past? ['[', ':'] l
  let inner := (past? ['^'] l).getD l
  let rest ← past? [':', ']'] (inner.dropWhile Char.isLower)
  let s ← asciiClass? (String.ofList (inner.takeWhile Char.isLower))
  return ((s, (past? ['^'] l).isSome), rest)

def readAsciiClass? : Parse (Option (CharSet × Bool)) := do
  let s ← get
  match asciiClassAt? s.rest with
  | some (cls, rest) =>
    set { s with rest := rest }
    return some cls
  | none => return none

/-- An operation between two lists of a class. -/
inductive SetOp where
  | inter
  | diff
  | symmDiff

def SetOp.apply (op : SetOp) (s t : CharSet) : CharSet :=
  match op with
  | .inter => s.inter t
  | .diff => s.diff t
  | .symmDiff => s.symmDiff t

/-- A list of class items as it is read: the set, the number of items and the deepest of them. -/
structure ItemList where
  set : CharSet := CharSet.empty
  count : Nat := 0
  deepest : Nat := 0

def ItemList.add (l : ItemList) (s : CharSet) (depth : Nat) : ItemList :=
  ⟨l.set.union s, l.count + 1, max l.deepest depth⟩

/-- How deep a list nests: two items or more make a level of their own. -/
def ItemList.depth (l : ItemList) : Nat := if l.count ≥ 2 then l.deepest + 1 else l.deepest

def operators : List (List Char × SetOp) :=
  [(['&', '&'], .inter), (['-', '-'], .diff), (['~', '~'], .symmDiff)]

/-- The left side of an operation whose right side is being read. -/
structure Pending where
  op : SetOp
  set : CharSet
  depth : Nat

/-- Completes the operation that waits for the list, if there is one. -/
def resolve (f : Flags) (pending : Option Pending) (l : ItemList) : CharSet × Nat :=
  match pending with
  | none => (l.set, l.depth)
  | some p =>
    let fold (s : CharSet) := if f.ignoreCase then (if f.unicode then s.fold else foldAscii s) else s
    (p.op.apply (fold p.set) (fold l.set), max p.depth l.depth + 1)

def readClassAtom : Parse Atom := do
  let c ← peek
  if c == '\\' then readEscape
  else
    bump
    return .char c false

def Atom.code? (f : Flags) : Atom → Option Nat
  | .char c _ => if f.unicode || c.toNat < 0x80 then some c.toNat else none
  | _ => none

/-- A hyphen stands next that begins the second half of a range: one before the closing bracket or
before another hyphen does not. -/
def rangeFollows : Parse Bool := do
  let s ← get
  let behind := s.flags.first? s.rest.tail
  return s.rest.head? == some '-' && behind != some ']' && behind != some '-'

def readClassRange : Parse CharSet := do
  let f ← flags
  let first ← readClassAtom
  skipBlanks
  if !(← rangeFollows) then first.set? f
  else
    bumpOver
    let second ← readClassAtom
    let low ← first.code? f
    let high ← second.code? f
    guard (low ≤ high)
    return CharSet.range low high

def readCaret : Parse Bool := do
  if (← peek?) == some '^' then
    bumpOver
    return true
  else return false

/-- Reads the hyphens at the beginning of a class, which stand for themselves. -/
def readHyphens : Nat → ItemList → Parse ItemList
  | 0, l => return l
  | fuel + 1, l => do
    if (← peek?) == some '-' then
      bumpOver
      readHyphens fuel (l.add (CharSet.range 0x2D 0x2D) 0)
    else return l

/-- Reads all hyphens at the beginning of a class. -/
def readAllHyphens : Parse ItemList := do readHyphens (← get).rest.length {}

/-- Reads a bracket that closes a class at its beginning, where it stands for itself. -/
def readFirstBracket (l : ItemList) : Parse ItemList := do
  if (← peek?) == some ']' && l.count == 0 then
    bumpOver
    return l.add (CharSet.range 0x5D 0x5D) 0
  else return l

mutual

def readBracket : Nat → Parse (CharSet × Nat)
  | 0 => failure
  | fuel + 1 => do
    let f ← flags
    bumpOver
    let negated ← readCaret
    let l ← readFirstBracket (← readAllHyphens)
    let (s, depth) ← readBracketItems fuel l none
    let s ← closeSet f negated s
    return (s, depth + 1)

/-- Reads the items of a class up to and past its closing bracket. -/
def readBracketItems : Nat → ItemList → Option Pending → Parse (CharSet × Nat)
  | 0, _, _ => failure
  | fuel + 1, l, pending => do
    let f ← flags
    skipBlanks
    match ← bumpFirst? operators with
    | some op =>
      let (s, depth) := resolve f pending l
      readBracketItems fuel {} (some ⟨op, s, depth⟩)
    | none =>
      match ← peek with
      | '[' =>
        match ← readAsciiClass? with
        | some (s, negated) =>
          let s ← closeSet f negated s
          readBracketItems fuel (l.add s 0) pending
        | none =>
          let (s, depth) ← readBracket fuel
          readBracketItems fuel (l.add s depth) pending
      | ']' =>
        bump
        return resolve f pending l
      | _ =>
        let s ← readClassRange
        readBracketItems fuel (l.add s 0) pending

end

def readClass : Parse (CharSet × Nat) := do readBracket ((← get).rest.length * 2 + 2)

end Routebook.Regex
