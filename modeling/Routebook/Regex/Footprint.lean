import Routebook.Regex.Parser

/-!
# The size of an expression's automaton

An expression is run as an automaton over the bytes of the text, once forwards and once backwards.
Its size in memory is limited, so that small texts cannot write huge automata.

* `byteRanges` : a range of characters as sequences of byte ranges;
* `Regex.size` : the memory of either automaton;
* `Regex.fits` : both keep to the limit.
-/

namespace Routebook.Regex

open Unicode (CharSet)

def utf8Bytes (n : Nat) : List Nat :=
  if n < 0x80 then [n]
  else if n < 0x800 then [0xC0 + n / 0x40, 0x80 + n % 0x40]
  else if n < 0x10000 then [0xE0 + n / 0x1000, 0x80 + n / 0x40 % 0x40, 0x80 + n % 0x40]
  else [0xF0 + n / 0x40000, 0x80 + n / 0x1000 % 0x40, 0x80 + n / 0x40 % 0x40, 0x80 + n % 0x40]

/-- Where a range has to be cut so that its code points have the same length and agree in their
bytes up to a last part that runs through all values; `none` if it need not be cut. -/
def cutPoint? (low high : Nat) : Option (Nat × Nat) :=
  if low < 0xE000 && 0xD7FF < high then some (0xD7FF, 0xE000)
  else
    match [0x7F, 0x7FF, 0xFFFF].find? fun m => low ≤ m && m < high with
    | some m => some (m, m + 1)
    | none =>
      if high < 0x80 then none
      else
        [1, 2, 3].findSome? fun i =>
          let m := 1 <<< (6 * i)
          if low / m == high / m then none
          else if low % m != 0 then some (low / m * m + m - 1, low / m * m + m)
          else if high % m != m - 1 then some (high / m * m - 1, high / m * m)
          else none

/-- A range of code points as sequences of byte ranges, surrogates left out. -/
def byteRanges : Nat → Nat → Nat → List (List (Nat × Nat))
  | 0, _, _ => []
  | fuel + 1, low, high =>
    if high < low then []
    else match cutPoint? low high with
      | some (a, b) => byteRanges fuel low a ++ byteRanges fuel b high
      | none =>
        if 0xD800 ≤ low && high < 0xE000 then []
        else [(utf8Bytes low).zip (utf8Bytes high)]

def setSequences (s : CharSet) : List (List (Nat × Nat)) :=
  s.ranges.flatMap fun r => byteRanges 64 r.1 r.2

/-- The nodes of a tree of byte ranges in which equal subtrees are shared. A node is known by its
number and lists its ranges with the nodes that they lead to. -/
abbrev Nodes := List (List ((Nat × Nat) × Nat))

def Nodes.intern (nodes : Nodes) (node : List ((Nat × Nat) × Nat)) : Nodes × Nat :=
  match nodes.idxOf? node with
  | some i => (nodes, i + 1)
  | none => (nodes ++ [node], nodes.length + 1)

/-- Groups sequences that begin with the same range, keeping their order. -/
def groupByHead : List (List (Nat × Nat)) → List ((Nat × Nat) × List (List (Nat × Nat)))
  | [] => []
  | [] :: rest => groupByHead rest
  | (r :: tail) :: rest =>
    match groupByHead rest with
    | (r', tails) :: groups =>
      if r = r' then (r, tail :: tails) :: groups else (r, [tail]) :: (r', tails) :: groups
    | [] => [(r, [tail])]

/-- Builds the shared tree of sequences; a sequence at its end leads to node 0. -/
def buildNodes : Nat → Nodes → List (List (Nat × Nat)) → Nodes × Nat
  | 0, nodes, _ => (nodes, 0)
  | fuel + 1, nodes, seqs =>
    let groups := groupByHead seqs
    if groups.isEmpty then (nodes, 0)
    else
      let (nodes, node) := groups.foldl (fun (acc : Nodes × List ((Nat × Nat) × Nat)) g =>
        let (nodes, i) := buildNodes fuel acc.1 g.2
        (nodes, acc.2 ++ [(g.1, i)])) (nodes, [])
      nodes.intern node

/-- The number of different beginnings of the sequences. -/
def prefixCount (seqs : List (List (Nat × Nat))) : Nat :=
  (seqs.foldl (fun (acc : Nat × List (Nat × Nat)) s =>
    let shared := ((s.zip acc.2).takeWhile fun p => p.1 == p.2).length
    (acc.1 + s.length - shared, s)) (0, [])).1

def stateSize : Nat := 32

def setSize (backward : Bool) (s : CharSet) : Nat :=
  match s.ranges with
  | [] => stateSize
  | ranges =>
    match ranges with
    | [(a, b)] => if a == b then stateSize * (utf8Bytes a).length else wide ranges
    | ranges => wide ranges
where
  /-- The memory of a set with several members. -/
  wide (ranges : List (Nat × Nat)) : Nat :=
    if s.below 0x80 then 2 * stateSize + 8 * ranges.length
    else
      let seqs := setSequences s
      if backward then 2 * stateSize + 4 * seqs.length + stateSize * prefixCount seqs
      else
        let (nodes, _) := buildNodes 5 [] seqs
        nodes.foldl (fun total n => total + stateSize + 8 * n.length) stateSize

/-- The expression cannot match the empty text. -/
def neverEmpty : Regex → Bool
  | .empty | .look _ => false
  | .chars _ => true
  | .seq a b => neverEmpty a || neverEmpty b
  | .alt a b => neverEmpty a && neverEmpty b
  | .rep min _ body => min != 0 && neverEmpty body
  | .group body => neverEmpty body

def size (backward : Bool) : Regex → Nat
  | .empty | .look _ => stateSize
  | .chars s => setSize backward s
  | .seq a b => size backward a + size backward b
  | .alt a b => size backward a + size backward b + 8
  | .group body => size backward body + (if backward then 0 else 2 * stateSize)
  | .rep min max body =>
    let one := size backward body
    let branch := stateSize + 8
    match max with
    | none =>
      if min == 0 then
        if neverEmpty body then branch + one else 2 * branch + stateSize + one
      else min * one + branch
    | some max =>
      if min == max then min * one
      else (if min == 0 then stateSize else min * one) + stateSize + (max - min) * (branch + one)

def sizeLimit : Nat := 10 <<< 20

/-- Both automata keep to the limit, with the states around the expression itself. -/
def fits (r : Regex) : Bool :=
  size false r + 6 * stateSize ≤ sizeLimit && size true r + 4 * stateSize ≤ sizeLimit

/-- The expression that a text writes under given flags, if its automata are not too large. -/
def compile? (f : Flags) (text : String) : Option Regex := do
  let r ← parse? f text
  if r.fits then some r else none

end Routebook.Regex
