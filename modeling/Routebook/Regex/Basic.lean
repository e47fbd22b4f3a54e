import Routebook.Unicode.Class

/-!
# Regular expressions

* `Look` : a condition on a position of the text; `Look.holds` decides it;
* `Regex` : an expression;
* `Regex.Spans` : the expression matches the part of a text between two positions;
* `Regex.ends` : the positions at which a match from one of the given positions can end;
* `Regex.isMatch` : some part of the text matches.
-/

namespace Routebook

open Unicode (CharSet)

/-- Which characters make up words. -/
inductive WordKind where
  | ascii
  | unicode
deriving DecidableEq, Repr

/-- A condition on a position, which consumes nothing. -/
inductive Look where
  | textStart
  | textEnd
  | lineStart
  | lineEnd
  | crlfLineStart
  | crlfLineEnd
  | wordEdge (kind : WordKind)
  | notWordEdge (kind : WordKind)
  | wordStart (kind : WordKind)
  | wordEnd (kind : WordKind)
  | wordStartHalf (kind : WordKind)
  | wordEndHalf (kind : WordKind)
deriving DecidableEq, Repr

/-- A regular expression over characters. -/
inductive Regex where
  | empty
  | chars (set : CharSet)
  | look (look : Look)
  | seq (left right : Regex)
  | alt (left right : Regex)
  | rep (min : Nat) (max : Option Nat) (body : Regex)
  | group (body : Regex)
deriving DecidableEq, Repr

def WordKind.mem (kind : WordKind) (c : Char) : Bool :=
  match kind with
  | .ascii => c.isAlphanum || c == '_'
  | .unicode => Unicode.wordChars.mem c

namespace Look

def wordBefore (kind : WordKind) (text : Array Char) (i : Nat) : Bool :=
  i != 0 && (text[i - 1]?).any kind.mem

def wordAfter (kind : WordKind) (text : Array Char) (i : Nat) : Bool :=
  (text[i]?).any kind.mem

def holds (text : Array Char) (i : Nat) : Look → Bool
  | textStart => i == 0
  | textEnd => i == text.size
  | lineStart => i == 0 || text[i - 1]? == some '\n'
  | lineEnd => i == text.size || text[i]? == some '\n'
  | crlfLineStart =>
    i == 0 || text[i - 1]? == some '\n' || (text[i - 1]? == some '\r' && text[i]? != some '\n')
  | crlfLineEnd =>
    i == text.size || text[i]? == some '\r' ||
      (text[i]? == some '\n' && (i == 0 || text[i - 1]? != some '\r'))
  | wordEdge k => wordBefore k text i != wordAfter k text i
  | notWordEdge k => wordBefore k text i == wordAfter k text i
  | wordStart k => !wordBefore k text i && wordAfter k text i
  | wordEnd k => wordBefore k text i && !wordAfter k text i
  | wordStartHalf k => !wordBefore k text i
  | wordEndHalf k => !wordAfter k text i

end Look

namespace Regex

/-- The expression matches the part of the text from position `i` to position `j`. -/
inductive Spans (text : Array Char) : Regex → Nat → Nat → Prop where
  | empty (i) : Spans text .empty i i
  | chars {set i} (h : i < text.size) (hc : set.mem text[i] = true) :
      Spans text (.chars set) i (i + 1)
  | look {l i} (h : l.holds text i = true) : Spans text (.look l) i i
  | seq {a b i j k} (ha : Spans text a i j) (hb : Spans text b j k) : Spans text (.seq a b) i k
  | altLeft {a b i j} (h : Spans text a i j) : Spans text (.alt a b) i j
  | altRight {a b i j} (h : Spans text b i j) : Spans text (.alt a b) i j
  | repDone {max body i} : Spans text (.rep 0 max body) i i
  | repMust {min max body i j k} (h : Spans text body i j)
      (ht : Spans text (.rep min (max.map (· - 1)) body) j k) :
      Spans text (.rep (min + 1) max body) i k
  | repMay {max body i j k} (h : Spans text body i j)
      (ht : Spans text (.rep 0 (max.map (· - 1)) body) j k) (hm : max ≠ some 0) :
      Spans text (.rep 0 max body) i k
  | group {body i j} (h : Spans text body i j) : Spans text (.group body) i j

/-- The members of either ascending list, ascending. -/
def mergeAscending : List Nat → List Nat → List Nat
  | xs, [] => xs
  | xs, y :: ys => mergeAscending (put y xs) ys
where
  /-- The ascending list with one more member. -/
  put (y : Nat) : List Nat → List Nat
    | [] => [y]
    | x :: xs => if y < x then y :: x :: xs else if y = x then x :: xs else x :: put y xs

/-- `n` steps, or fewer when no position is left. -/
def iterate (step : List Nat → List Nat) : Nat → List Nat → List Nat
  | 0, s => s
  | _, [] => []
  | n + 1, s => iterate step n (step s)

/-- The positions reached from `front` in at most `n` steps, with those of `seen`; only positions
that are new are followed. -/
def spread (step : List Nat → List Nat) : Nat → List Nat → List Nat → List Nat
  | 0, seen, _ => seen
  | _, seen, [] => seen
  | n + 1, seen, front =>
    let fresh := (step front).filter fun i => !seen.contains i
    spread step n (mergeAscending seen fresh) fresh

/-- The positions at which a match that begins at one of the positions `s` can end. Positions
ascend. A repetition without limit reaches every position in as many steps as there are
positions. -/
def ends (text : Array Char) : Regex → List Nat → List Nat
  | .empty, s => s
  | .chars set, s => s.filterMap fun i =>
    match text[i]? with
    | some c => if set.mem c then some (i + 1) else none
    | none => none
  | .look l, s => s.filter fun i => l.holds text i
  | .seq a b, s => ends text b (ends text a s)
  | .alt a b, s => mergeAscending (ends text a s) (ends text b s)
  | .rep min max body, s =>
    let s := iterate (ends text body) min s
    let more := match max with
      | some max => Nat.min (max - min) (text.size + 1)
      | none => text.size + 1
    spread (ends text body) more s s
  | .group body, s => ends text body s

/-- Some part of the text matches. -/
def isMatch (r : Regex) (text : String) : Bool :=
  let chars := text.toList.toArray
  !(ends chars r (List.range (chars.size + 1))).isEmpty

end Regex

end Routebook
