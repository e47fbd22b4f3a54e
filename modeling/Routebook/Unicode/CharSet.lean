/-!
# Sets of characters

A set of code points is written as closed ranges, ascending and apart.

* `CharSet.contains` : membership;
* `CharSet.insert`, `union`, `compl`, `inter`, `diff`, `symmDiff` : the operations of the algebra;
* `CharSet.ofText` : the set written as hexadecimal ranges.
-/

namespace Routebook.Unicode

def lastCode : Nat := 0x10FFFF

/-- A set of code points, as closed ranges, ascending and apart. -/
structure CharSet where
  ranges : List (Nat × Nat)
deriving DecidableEq, Repr

namespace CharSet

/-- The set without members. -/
def empty : CharSet := ⟨[]⟩

def range (low high : Nat) : CharSet := ⟨[(low, high)]⟩

/-- Some range holds the code point; ranges ascend, so the search ends at the first that begins
behind it. -/
def holds (n : Nat) : List (Nat × Nat) → Bool
  | [] => false
  | (low, high) :: rest => if n < low then false else n ≤ high || holds n rest

def contains (s : CharSet) (n : Nat) : Bool := holds n s.ranges

def mem (s : CharSet) (c : Char) : Bool := s.contains c.toNat

/-- Puts the range `low`–`high` among ascending ranges, joining it with those that it meets. -/
def insertRange (low high : Nat) : List (Nat × Nat) → List (Nat × Nat)
  | [] => [(low, high)]
  | (a, b) :: rest =>
    if high + 1 < a then (low, high) :: (a, b) :: rest
    else if b + 1 < low then (a, b) :: insertRange low high rest
    else insertRange (min a low) (max b high) rest

/-- The set with the code points from `low` to `high` added. -/
def insert (s : CharSet) (low high : Nat) : CharSet := ⟨insertRange low high s.ranges⟩

def union (s t : CharSet) : CharSet :=
  if s.ranges.length < t.ranges.length then s.ranges.foldl (fun u r => u.insert r.1 r.2) t
  else t.ranges.foldl (fun u r => u.insert r.1 r.2) s

/-- The gaps between ascending ranges, from `next` up to the last code point. -/
def gaps (next : Nat) : List (Nat × Nat) → List (Nat × Nat)
  | [] => if next ≤ lastCode then [(next, lastCode)] else []
  | (a, b) :: rest => if next < a then (next, a - 1) :: gaps (b + 1) rest else gaps (b + 1) rest

def compl (s : CharSet) : CharSet := ⟨gaps 0 s.ranges⟩

def inter (s t : CharSet) : CharSet := (s.compl.union t.compl).compl

def diff (s t : CharSet) : CharSet := s.inter t.compl

def symmDiff (s t : CharSet) : CharSet := (s.union t).diff (s.inter t)

def unions (sets : List CharSet) : CharSet := sets.foldl union empty

def below (n : Nat) (s : CharSet) : Bool := s.ranges.all fun r => r.2 < n

def hexValue (c : Char) : Nat := if c.isDigit then c.toNat - 48 else c.toNat - 87

/-- Reads ranges `low-high` or single code points between blanks. `low` is the first code point of
a range whose second is being read, `n` the number read so far. -/
def readRanges : List Char → Option Nat → Option Nat → List (Nat × Nat)
  | [], low, n => close low n
  | c :: rest, low, n =>
    if c == '-' then readRanges rest n none
    else if c == ' ' || c == '\n' then close low n ++ readRanges rest none none
    else readRanges rest low (some (n.getD 0 * 16 + hexValue c))
where
  /-- The range that ends here, if one was begun. -/
  close : Option Nat → Option Nat → List (Nat × Nat)
    | some a, some b => [(a, b)]
    | none, some b => [(b, b)]
    | _, none => []

/-- The set written as ascending hexadecimal ranges between blanks. -/
def ofText (text : String) : CharSet := ⟨readRanges text.toList none none⟩

end CharSet

end Routebook.Unicode
