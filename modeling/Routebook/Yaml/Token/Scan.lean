import Routebook.Yaml.Token.Tag

/-!
# The tokens of a YAML text

A text is read once from its start to its end. Block collections open where the indentation grows
and close where it shrinks. A key that has no indicator of its own is known only by the colon behind
it, so its token is put in later, in front of what was read since.

* `Scan` : the state of reading;
* `Token.ofText?` : all tokens of a text.
-/

namespace Routebook.Yaml

/-- A place where a key may have begun. -/
structure KeyPlace where
  /-- a key must be here, since the column is that of the collection -/
  needed : Bool
  /-- the number of tokens before the key -/
  position : Nat
  index : Nat
  line : Nat
  column : Nat

/-- The state of reading. -/
structure Scan where
  cursor : Cursor
  tokens : Array Token := #[]
  /-- how many flow collections are open -/
  flow : Nat := 0
  /-- the column of the innermost block collection, and -1 outside of all -/
  indent : Int := -1
  /-- the columns of the collections around it -/
  outer : List Int := []
  /-- a key may begin here -/
  keyAllowed : Bool := true
  /-- the place of the last key in the innermost collection -/
  key : Option KeyPlace := none
  /-- those in the flow collections around it -/
  outerKeys : List (Option KeyPlace) := []

namespace Scan

def push (t : Token) (s : Scan) : Scan := { s with tokens := s.tokens.push t }

def insert (position : Nat) (t : Token) (s : Scan) : Scan :=
  { s with tokens := (s.tokens.take position).push t ++ s.tokens.drop position }

/-- Steps forward. -/
def moveTo (c : Cursor) (s : Scan) : Scan := { s with cursor := c }

def pushMark (t : Token) (s : Scan) : Scan := (s.push t).moveTo (s.cursor.skip 1)

def allowKey (allowed : Bool) (s : Scan) : Scan := { s with keyAllowed := allowed }

/-- Gives up the place of the last key, unless a key is needed there. -/
def dropKey? (s : Scan) : Option Scan :=
  match s.key with
  | some k => if k.needed then none else some { s with key := none }
  | none => some s

def noteKey? (s : Scan) : Option Scan :=
  if s.keyAllowed then do
    let s ← s.dropKey?
    return { s with key := some {
      needed := s.flow == 0 && s.indent == s.cursor.column
      position := s.tokens.size
      index := s.cursor.index
      line := s.cursor.line
      column := s.cursor.column } }
  else some s

/-- A key is on one line and shorter than 1024 characters. -/
def keyExpired (c : Cursor) (k : KeyPlace) : Bool :=
  k.line < c.line || k.index + 1024 < c.index

/-- Gives up the places of keys that have expired; no key may be needed there. -/
def dropExpired? (s : Scan) : Option Scan :=
  let expired (k : Option KeyPlace) : Bool := k.any (keyExpired s.cursor)
  let lost (k : Option KeyPlace) : Bool := k.any fun k => keyExpired s.cursor k && k.needed
  if lost s.key || s.outerKeys.any lost then none
  else
    let keep (k : Option KeyPlace) : Option KeyPlace := if expired k then none else k
    some { s with key := keep s.key, outerKeys := s.outerKeys.map keep }

/-- Opens a block collection if the column is beyond that of the one around it; its token goes to a
position, or to the end. -/
def roll (column : Nat) (position : Option Nat) (t : Token) (s : Scan) : Scan :=
  if s.flow == 0 && s.indent < column then
    let s := { s with outer := s.indent :: s.outer, indent := column }
    match position with
    | some p => s.insert p t
    | none => s.push t
  else s

/-- Closes the block collections whose columns are beyond a column. -/
def unroll (column : Int) (s : Scan) : Scan :=
  if s.flow == 0 then
    let rec close : Int → List Int → Array Token → Int × List Int × Array Token
      | indent, outer, tokens =>
        if column < indent then
          match outer with
          | [] => (-1, [], tokens.push .blockEnd)
          | next :: rest => close next rest (tokens.push .blockEnd)
        else (indent, outer, tokens)
      termination_by structural _ outer _ => outer
    let (indent, outer, tokens) := close s.indent s.outer s.tokens
    { s with indent, outer, tokens }
  else s

/-- Steps over blanks, comments and line breaks. A tab may not stand where a key may begin. -/
def skipBlanks : Nat → Scan → Scan
  | 0, s => s
  | fuel + 1, s =>
    let tabs := s.flow != 0 || !s.keyAllowed
    let c := s.cursor
    let c := if c.index == 0 && c.isAt '\ufeff' then c.skip 1 else c
    let c := c.skipWhile fun a => a == ' ' || (tabs && a == '\t')
    let c := if c.isAt '#' then c.skipLine else c
    match c.break? with
    | some (_, next) => skipBlanks fuel ((s.moveTo next).allowKey (s.flow == 0 || s.keyAllowed))
    | none => s.moveTo c

def documentMark? (t : Token) (s : Scan) : Option Scan := do
  let s ← (s.unroll (-1)).dropKey?
  return ((s.push t).moveTo (s.cursor.skip 3)).allowKey false

def directive? (s : Scan) : Option Scan := do
  let s ← (s.unroll (-1)).dropKey?
  let (t, c) ← readDirective? s.cursor
  return ((s.push t).moveTo c).allowKey false

def openFlow? (t : Token) (s : Scan) : Option Scan := do
  let s ← s.noteKey?
  let s := { s with flow := s.flow + 1, outerKeys := s.key :: s.outerKeys, key := none }
  return (s.pushMark t).allowKey true

def closeFlow? (t : Token) (s : Scan) : Option Scan := do
  let s ← s.dropKey?
  let s := match s.outerKeys with
    | key :: rest => { s with flow := s.flow - 1, outerKeys := rest, key }
    | [] => s
  return (s.pushMark t).allowKey false

def flowEntry? (s : Scan) : Option Scan := do
  let s ← s.dropKey?
  return (s.pushMark .flowEntry).allowKey true

def blockEntry? (s : Scan) : Option Scan := do
  guard (s.flow != 0 || s.keyAllowed)
  let s ← (s.roll s.cursor.column none .blockSequenceStart).dropKey?
  return (s.pushMark .blockEntry).allowKey true

def keyMark? (s : Scan) : Option Scan := do
  guard (s.flow != 0 || s.keyAllowed)
  let s ← (s.roll s.cursor.column none .blockMappingStart).dropKey?
  return (s.pushMark .key).allowKey (s.flow == 0)

/-- Reads the colon of a value; the key in front of it may have had no mark. -/
def valueMark? (s : Scan) : Option Scan :=
  match s.key with
  | some k =>
    let s := (s.insert k.position .key).roll k.column (some k.position) .blockMappingStart
    some (({ s with key := none }.pushMark .value).allowKey false)
  | none => do
    guard (s.flow != 0 || s.keyAllowed)
    let s := s.roll s.cursor.column none .blockMappingStart
    return (s.pushMark .value).allowKey (s.flow == 0)

def content? (read : Cursor → Option (Token × Cursor)) (s : Scan) : Option Scan := do
  let s ← s.noteKey?
  let (t, c) ← read s.cursor
  return ((s.push t).moveTo c).allowKey false

def blockScalar? (literal : Bool) (s : Scan) : Option Scan := do
  let s ← s.dropKey?
  let (text, c) ← readBlock? literal s.indent s.cursor
  return ((s.push (.scalar text false)).moveTo c).allowKey true

def plainScalar? (s : Scan) : Option Scan := do
  let s ← s.noteKey?
  let (text, broken, c) ← readPlain? (s.flow != 0) (s.indent + 1).toNat s.cursor
  return ((s.push (.scalar text true)).moveTo c).allowKey broken

/-- A character that no plain scalar begins with. -/
def isIndicator (c : Char) : Bool :=
  ['-', '?', ':', ',', '[', ']', '\x7b', '\x7d', '#', '&', '*', '!', '|', '>', '\'', '"', '%', '@',
    '\x60'].contains c

def atPlain (flow : Bool) (c : Cursor) (a : Char) : Bool :=
  !(isBlank a || isIndicator a) || (a == '-' && !(c.at? 1).any isBlank) ||
    (!flow && (a == '?' || a == ':') && !c.gapAt 1)

/-- Reads one token; at the end of the text there is none left. -/
def token? (s : Scan) (a : Char) : Option Scan :=
  let c := s.cursor
  let flow := s.flow != 0
  if c.column == 0 && a == '%' then s.directive?
  else if c.atDocumentMark ['-', '-', '-'] then s.documentMark? .documentStart
  else if c.atDocumentMark ['.', '.', '.'] then s.documentMark? .documentEnd
  else if a == '[' then s.openFlow? .flowSequenceStart
  else if a == '\x7b' then s.openFlow? .flowMappingStart
  else if a == ']' then s.closeFlow? .flowSequenceEnd
  else if a == '\x7d' then s.closeFlow? .flowMappingEnd
  else if a == ',' then s.flowEntry?
  else if a == '-' && c.gapAt 1 then s.blockEntry?
  else if a == '?' && (flow || c.gapAt 1) then s.keyMark?
  else if a == ':' && (flow || c.gapAt 1) then s.valueMark?
  else if a == '*' then s.content? fun c => (readAnchor? c).map fun (n, c) => (.alias n, c)
  else if a == '&' then s.content? fun c => (readAnchor? c).map fun (n, c) => (.anchor n, c)
  else if a == '!' then s.content? (readTag? flow)
  else if a == '|' && !flow then s.blockScalar? true
  else if a == '>' && !flow then s.blockScalar? false
  else if a == '\'' then
    s.content? fun c => (readQuoted? true c).map fun (t, c) => (.scalar t false, c)
  else if a == '"' then
    s.content? fun c => (readQuoted? false c).map fun (t, c) => (.scalar t false, c)
  else if atPlain flow c a then s.plainScalar?
  else none

def run? : Nat → Scan → Option (List Token)
  | 0, _ => none
  | fuel + 1, s => do
    let s ← (skipBlanks (s.cursor.rest.length + 1) s).dropExpired?
    let s := s.unroll s.cursor.column
    match s.cursor.next? with
    | some a => run? fuel (← s.token? a)
    | none =>
      let s ← (s.unroll (-1)).dropKey?
      return s.tokens.toList

end Scan

/-- The characters of a text without the mark of its encoding. -/
def contentOf (text : String) : List Char :=
  match text.toList with
  | '\ufeff' :: rest => rest
  | s => s

def Token.ofText? (text : String) : Option (List Token) :=
  let s := contentOf text
  if s.all isPermitted then Scan.run? (s.length + 2) { cursor := { rest := s } } else none

end Routebook.Yaml
