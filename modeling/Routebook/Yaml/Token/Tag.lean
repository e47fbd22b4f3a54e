import Routebook.Yaml.Token
import Routebook.Yaml.Token.Scalar

/-!
# Tags, anchors and directives

* `readTag?`, `readAnchor?` : the properties of a node;
* `readDirective?` : a line that begins with a percent sign.
-/

namespace Routebook.Yaml

/-- A character of a tag's URI; inside of angle brackets and in directives some more may stand. -/
def isUriChar (verbatim : Bool) (c : Char) : Bool :=
  isWord c || [';', '/', '?', ':', '@', '&', '=', '+', '$', '.', '%', '!', '~', '*', '\'', '(',
    ')'].contains c || (verbatim && [',', '[', ']'].contains c)

def octets? (n : Nat) : Option Nat :=
  if n < 0x80 then some 1
  else if n < 0xC0 then none
  else if n < 0xE0 then some 2
  else if n < 0xF0 then some 3
  else if n < 0xF8 then some 4
  else none

/-- Further octets of a character, each behind a percent sign. -/
def readOctets? : Nat → Nat → List Char → Option (Nat × List Char)
  | 0, value, s => some (value, s)
  | n + 1, value, s =>
    match s with
    | '%' :: a :: b :: rest =>
      match hexValue? [a, b] with
      | some o => if 0x80 ≤ o ∧ o < 0xC0 then readOctets? n (value * 64 + o % 64) rest else none
      | none => none
    | _ => none

def readUriEscape? : List Char → Option (Char × List Char)
  | '%' :: a :: b :: rest => do
    let first ← hexValue? [a, b]
    let n ← octets? first
    let start := match n with
      | 1 => first
      | 2 => first % 32
      | 3 => first % 16
      | _ => first % 8
    let (value, rest) ← readOctets? (n - 1) start rest
    return (← charOf? value, rest)
  | _ => none

def readUriFrom? (verbatim : Bool) : Nat → List Char → Cursor → Option (List Char × Cursor)
  | 0, _, _ => none
  | fuel + 1, acc, c =>
    match c.rest with
    | [] => some (acc, c)
    | a :: _ =>
      if a == '%' then
        match readUriEscape? c.rest with
        | some (e, rest) =>
          readUriFrom? verbatim fuel (acc ++ [e]) (c.skip (c.rest.length - rest.length))
        | none => none
      else if isUriChar verbatim a then readUriFrom? verbatim fuel (acc ++ [a]) (c.skip 1)
      else some (acc, c)

/-- Reads a URI that begins with what was read before; neither may be missing. -/
def readUri? (verbatim : Bool) (start : List Char) (c : Cursor) : Option (String × Cursor) := do
  let (s, c') ← readUriFrom? verbatim (c.rest.length + 1) [] c
  guard (!start.isEmpty || c'.index != c.index)
  return (String.ofList (start.drop 1 ++ s), c')

/-- Reads a handle: exclamation marks around a word, or only the first of them. -/
def readHandle? (c : Cursor) : Option (List Char × Cursor) := do
  guard (c.isAt '!')
  let c := c.skip 1
  let word := c.takeWhile isWord
  let c := c.skip word.length
  if c.isAt '!' then return ('!' :: word ++ ['!'], c.skip 1) else return ('!' :: word, c)

/-- Reads a tag: verbatim, behind a handle, or local. A lone exclamation mark is a tag as well. -/
def readTag? (flow : Bool) (c : Cursor) : Option (Token × Cursor) := do
  let (token, c) ←
    if c.at? 1 == some '<' then do
      let (uri, c) ← readUri? true [] (c.skip 2)
      guard (c.isAt '>')
      pure (Token.tag "" uri, c.skip 1)
    else do
      let (handle, behind) ← readHandle? c
      if 1 < handle.length && handle.getLast? == some '!' then
        let (suffix, c) ← readUri? false [] behind
        pure (Token.tag (String.ofList handle) suffix, c)
      else
        let (suffix, c) ← readUri? false handle behind
        pure (if suffix == "" then Token.tag "" "!" else Token.tag "!" suffix, c)
  guard (c.gapAt 0 || (flow && c.isAt ','))
  return (token, c)

def readAnchor? (c : Cursor) : Option (String × Cursor) := do
  let c := c.skip 1
  let name := c.takeWhile isWord
  let c := c.skip name.length
  guard (!name.isEmpty && (c.gapAt 0 ||
    c.next?.any (['?', ':', ',', ']', '\x7d', '%', '@', '\x60'].contains ·)))
  return (String.ofList name, c)

/-- Reads a number of at most nine digits. -/
def readVersionPart? (c : Cursor) : Option (Nat × Cursor) := do
  let ds := c.takeWhile Char.isDigit
  guard (!ds.isEmpty && ds.length ≤ 9)
  return (ds.foldl (fun n d => n * 10 + (d.toNat - 48)) 0, c.skip ds.length)

/-- Reads a directive: a version, or a handle for tags. -/
def readDirective? (c : Cursor) : Option (Token × Cursor) := do
  let c := c.skip 1
  let name := c.takeWhile isWord
  let c := c.skip name.length
  guard (c.gapAt 0)
  let c := c.skipWhile isBlank
  let (token, c) ←
    match String.ofList name with
    | "YAML" => do
      let (major, c) ← readVersionPart? c
      guard (c.isAt '.')
      let (minor, c) ← readVersionPart? (c.skip 1)
      pure (Token.versionDirective major minor, c)
    | "TAG" => do
      let (handle, c) ← readHandle? c
      guard (handle.getLast? == some '!' && c.atBlank)
      let (start, c) ← readUri? true [] (c.skipWhile isBlank)
      guard (c.gapAt 0)
      pure (Token.tagDirective (String.ofList handle) start, c)
    | _ => none
  return (token, ← c.restOfLine?)

end Routebook.Yaml
