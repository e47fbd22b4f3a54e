import Routebook.Regex.Bracket

/-!
# Reading regular expressions

* `Item` : an expression as it is read, with how deep its text nests;
* `readBranches` : reads alternatives up to a closing parenthesis or the end;
* `Regex.reading` : how far a text is read;
* `Regex.parse?` : the expression that a text writes under given flags.

Groups, repetitions, lists of two and more items or alternatives, and bracketed classes each make a
level; texts with more than 250 levels write no expression.
-/

namespace Routebook.Regex

/-- An expression as it is read. -/
structure Item where
  regex : Regex
  depth : Nat
  /-- a flag list is an item that cannot be repeated -/
  repeatable : Bool := true
deriving DecidableEq, Repr

/-- The items of a list, from the last back to the first, as one item. -/
def joinItems : List Item → Item
  | [] => ⟨.empty, 0, true⟩
  | [i] => i
  | i :: before =>
    let all := i :: before
    ⟨before.foldl (fun r j => .seq j.regex r) i.regex, (all.map Item.depth).foldl max 0 + 1, true⟩

/-- The alternatives, from the last back to the first, as one item. -/
def joinBranches : List Item → Item
  | [] => ⟨.empty, 0, true⟩
  | [i] => i
  | i :: before =>
    let all := i :: before
    ⟨before.foldl (fun r j => .alt j.regex r) i.regex, (all.map Item.depth).foldl max 0 + 1, true⟩

/-- The expression matches the empty text only. -/
def onlyEmpty : Regex → Bool
  | .empty | .look _ => true
  | .chars _ => false
  | .seq a b => onlyEmpty a && onlyEmpty b
  | .alt a b => onlyEmpty a && onlyEmpty b
  | .rep _ _ body => onlyEmpty body
  | .group body => onlyEmpty body

/-- Between `min` and `max` copies of an expression. More than one copy of an expression that
matches the empty text only says no more than one copy. -/
def «repeat» (min : Nat) (max : Option Nat) (body : Regex) : Regex :=
  let clamp := onlyEmpty body
  let min := if clamp then Nat.min min 1 else min
  let max := if clamp then some (Nat.min (max.getD 1) 1) else max
  if max == some 0 then .empty
  else if min == 1 && max == some 1 then body
  else .rep min max body

def repeatLast (min : Nat) (max : Option Nat) : List Item → Option (List Item)
  | [] => none
  | i :: before =>
    if i.repeatable then some (⟨«repeat» min max i.regex, i.depth + 1, true⟩ :: before) else none

/-- Goes past the mark of a repetition that prefers few copies. -/
def skipLazy : Parse Unit := do
  if (← peek?) == some '?' then bump

def readCounts : Parse (Nat × Option Nat) := do
  bumpOver
  let low ← decimal?
  let c ← peek
  if c == ',' then
    bumpOver
    if (← peek) == '\x7d' then
      bumpOver
      return (← low, none)
    else
      let low ← low
      let high ← (← decimal?)
      guard ((← peek) == '\x7d' && low ≤ high)
      bumpOver
      return (low, some high)
  else
    guard (c == '\x7d')
    bumpOver
    let n ← low
    return (n, some n)

/-- The characters of group names: letters, digits and a few signs; none but a letter or low line
may come first. -/
def isNameChar (first : Bool) (c : Char) : Bool :=
  let letter := ((Unicode.property? "alphabetic").getD Unicode.CharSet.empty).mem c
  if first then c == '_' || letter
  else
    c == '_' || c == '.' || c == '[' || c == ']' || letter ||
      ((Unicode.category? "n").getD Unicode.CharSet.empty).mem c

def groupNameAt? (names : List (List Char)) (l : List Char) : Option (List Char × List Char) :=
  match l.dropWhile (· != '>'), l.takeWhile (· != '>') with
  | _ :: rest, c :: cs =>
    if isNameChar true c && cs.all (isNameChar false) && !names.contains (c :: cs) then some (c :: cs, rest)
    else none
  | _, _ => none

/-- Reads a group's name and the bracket behind it; no name may stand twice. -/
def readGroupName : Parse Unit := do
  let s ← get
  let (name, rest) ← groupNameAt? s.names s.rest
  set { s with rest := rest, names := name :: s.names }

/-- What stands behind an opening parenthesis. -/
inductive Opening where
  /-- a list of flags for the rest of the enclosing group -/
  | switch (items : List FlagItem)
  /-- a group with flags of its own -/
  | plain (items : List FlagItem)
  /-- a group with a number -/
  | numbered

namespace Opening

def flags (outer : Flags) : Opening → Flags
  | switch items | plain items => outer.apply true items
  | numbered => outer

def isGroup : Opening → Bool
  | switch _ => false
  | plain _ | numbered => true

def item (inner : Item) : Opening → Item
  | numbered => ⟨.group inner.regex, inner.depth + 1, true⟩
  | _ => ⟨inner.regex, inner.depth + 1, true⟩

end Opening

def readFlagList : Parse (List FlagItem × Char) := do
  let s ← get
  let (list, rest) ← readFlags [] s.rest
  set { s with rest := rest }
  return list

/-- What a mark behind an opening parenthesis begins. -/
inductive GroupKind where
  /-- a condition on what stands before or behind -/
  | lookaround
  | named
  | flagged

/-- The marks behind an opening parenthesis, those that begin others behind them. -/
def groupMarks : List (List Char × GroupKind) :=
  [(['?', '='], .lookaround), (['?', '!'], .lookaround), (['?', '<', '='], .lookaround),
    (['?', '<', '!'], .lookaround), (['?', 'P', '<'], .named), (['?', '<'], .named),
    (['?'], .flagged)]

/-- Reads the opening of a group from its parenthesis on. Conditions on what stands before or behind
are not supported. -/
def readOpening : Parse Opening := do
  bumpOver
  match ← bumpFirst? groupMarks with
  | some .lookaround => failure
  | some .named =>
    readGroupName
    return .numbered
  | some .flagged =>
    let (items, close) ← readFlagList
    if close == ')' then
      guard (!items.isEmpty)
      return .switch items
    else return .plain items
  | none => return .numbered

/-- Goes past the parenthesis at the end of a group, back to the flags in force outside. -/
def closeGroup (outer : Flags) : Parse Unit := do
  guard ((← peek) == ')')
  setFlags outer
  bump

def sign (f : Flags) : Char → Atom
  | '.' => .dot
  | '^' => .look (if f.multiLine then (if f.crlf then .crlfLineStart else .lineStart) else .textStart)
  | '$' => .look (if f.multiLine then (if f.crlf then .crlfLineEnd else .lineEnd) else .textEnd)
  | c => .char c false

def readSign : Parse Atom := do
  let f ← flags
  let c ← peek
  if c == '\\' then readEscape
  else
    bump
    return sign f c

def readAtom : Parse Item := do
  let atom ← readSign
  let r ← atom.regex? (← flags)
  return ⟨r, 0, true⟩

/-- Reads alternatives up to a closing parenthesis or the end. `items` are those of the alternative
that is being read, `branches` the alternatives before it, both backwards. -/
def readBranches : Nat → List Item → List Item → Parse Item
  | 0, _, _ => failure
  | fuel + 1, items, branches => do
    skipBlanks
    match ← peek? with
    | none | some ')' => return joinBranches (joinItems items :: branches)
    | some '|' =>
      bump
      readBranches fuel [] (joinItems items :: branches)
    | some '(' =>
      let outer ← flags
      let opening ← readOpening
      setFlags (opening.flags outer)
      if opening.isGroup then
        let inner ← readBranches fuel [] []
        closeGroup outer
        readBranches fuel (opening.item inner :: items) branches
      else readBranches fuel (⟨.empty, 0, false⟩ :: items) branches
    | some '[' =>
      let (s, depth) ← readClass
      readBranches fuel (⟨.chars s, depth, true⟩ :: items) branches
    | some '?' =>
      bump
      skipLazy
      readBranches fuel (← repeatLast 0 (some 1) items) branches
    | some '*' =>
      bump
      skipLazy
      readBranches fuel (← repeatLast 0 none items) branches
    | some '+' =>
      bump
      skipLazy
      readBranches fuel (← repeatLast 1 none items) branches
    | some '\x7b' =>
      let (min, max) ← readCounts
      skipLazy
      readBranches fuel (← repeatLast min max items) branches
    | some _ => readBranches fuel ((← readAtom) :: items) branches

def maxNesting : Nat := 250

/-- Reads a text up to a closing parenthesis that closes nothing in it, or to its end. -/
def reading (f : Flags) (text : String) : Option (Item × Cursor) :=
  (readBranches (text.toList.length + 1) [] []).run ⟨text.toList, f, []⟩

def parse? (f : Flags) (text : String) : Option Regex := do
  let (item, place) ← reading f text
  guard (place.rest.isEmpty && item.depth ≤ maxNesting)
  return item.regex

end Routebook.Regex
