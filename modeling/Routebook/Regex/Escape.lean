import Routebook.Regex.Basic
import Routebook.Regex.Cursor
import Routebook.Unicode.CaseFolding

/-!
# Escapes

* `Atom` : what a single character or an escape stands for;
* `readEscape` : reads an escape from its backslash on;
* `Atom.set?`, `Atom.regex?` : its meaning inside and outside a bracketed class.
-/

namespace Routebook.Regex

open Unicode (CharSet)

/-- The classes with a letter of their own. -/
inductive LetterClass where
  | digit
  | space
  | word
deriving DecidableEq, Repr

/-- A class by name: one letter or a name, or a property's value. -/
inductive ClassName where
  | named (name : List Char)
  | valued (name value : List Char)

/-- What a character or an escape stands for. -/
inductive Atom where
  /-- a character; `byte` marks one written with two hexadecimal digits -/
  | char (c : Char) (byte : Bool)
  | look (look : Look)
  | letters (cls : LetterClass) (negated : Bool)
  | named (name : ClassName) (negated : Bool)
  | dot

/-! ## Reading -/

def isMeta (c : Char) : Bool := "\\.+*?()|[]\x7b\x7d^$#&-~".toList.contains c

/-- Characters that stand for themselves behind a backslash: all of ASCII but letters, digits and
angle brackets. -/
def isEscapable (c : Char) : Bool :=
  isMeta c || (c.toNat < 0x80 && !c.isAlphanum && c != '<' && c != '>')

def isHex (c : Char) : Bool := c.isDigit || ('a' ≤ c && c ≤ 'f') || ('A' ≤ c && c ≤ 'F')

def charOfHex? (ds : List Char) : Option Char :=
  let n := ds.foldl (fun n c => n * 16 + CharSet.hexValue c.toLower) 0
  if n.isValidChar then some (Char.ofNat n) else none

def readHexDigits : Nat → Parse (List Char)
  | 0 => return []
  | n + 1 => do
    let c ← peek
    guard (isHex c)
    bumpOver
    return c :: (← readHexDigits n)

/-- A character by number, from the letter of its escape on: two, four or eight digits, or any
number of them in braces. -/
def readHex (digits : Nat) : Parse Atom := do
  bumpOver
  if (← peek) == '\x7b' then
    bumpOver
    let ds ← takeAllOver isHex
    guard ((← peek) == '\x7d' && !ds.isEmpty)
    bumpOver
    let c ← charOfHex? ds
    return .char c false
  else
    let c ← charOfHex? (← readHexDigits digits)
    return .char c (digits == 2)

def readBraced : Nat → Parse (List Char)
  | 0 => failure
  | fuel + 1 => do
    let c ← peek
    if c == '\x7d' then
      bump
      return []
    else
      bumpOver
      return c :: (← readBraced fuel)

def readBracedName : Parse (List Char) := do readBraced (← get).rest.length

/-- The parts of a text before and behind the first occurrence of another. -/
def cut? (mark : List Char) : List Char → Option (List Char × List Char)
  | [] => none
  | c :: rest =>
    if mark.isPrefixOf (c :: rest) then some ([], (c :: rest).drop mark.length)
    else (cut? mark rest).map fun (a, b) => (c :: a, b)

/-- The class of a name in braces: a property with its value, or a single name. -/
def namedAtom (negated : Bool) (name : List Char) : Atom :=
  match cut? ['!', '='] name with
  | some (n, v) => .named (.valued n v) (!negated)
  | none =>
    match cut? [':'] name with
    | some (n, v) => .named (.valued n v) negated
    | none =>
      match cut? ['='] name with
      | some (n, v) => .named (.valued n v) negated
      | none => .named (.named name) negated

def readNamed (negated : Bool) : Parse Atom := do
  bumpOver
  let c ← peek
  if c == '\x7b' then
    bumpOver
    return namedAtom negated (← readBracedName)
  else
    guard (c != '\\')
    bumpOver
    return .named (.named [c]) negated

def wordKind : Parse WordKind := do
  return if (← flags).unicode then .unicode else .ascii

def isWordLetter (c : Char) : Bool := c.isAlpha || c == '-'

def wordLook? (kind : WordKind) : String → Option Look
  | "start" => some (.wordStart kind)
  | "end" => some (.wordEnd kind)
  | "start-half" => some (.wordStartHalf kind)
  | "end-half" => some (.wordEndHalf kind)
  | _ => none

/-- The name of a word condition stands next in braces. A brace without a letter or hyphen behind it
is that of a repetition. -/
def wordNameFollows : Parse Bool := do
  let s ← get
  return s.rest.head? == some '\x7b' && (s.flags.skip s.rest.tail).head?.any isWordLetter

def readWordName (kind : WordKind) : Parse Atom := do
  bumpOver
  let name ← takeAllOver isWordLetter
  guard ((← peek) == '\x7d')
  bump
  return .look (← wordLook? kind (String.ofList name))

/-- The character of a one-letter escape. -/
def letterEscape? : Char → Option Char
  | 'a' => some '\x07'
  | 'f' => some '\x0c'
  | 't' => some '\t'
  | 'n' => some '\n'
  | 'r' => some '\r'
  | 'v' => some '\x0b'
  | _ => none

def escaped? (kind : WordKind) : Char → Option Atom
  | 'd' => some (.letters .digit false)
  | 'D' => some (.letters .digit true)
  | 's' => some (.letters .space false)
  | 'S' => some (.letters .space true)
  | 'w' => some (.letters .word false)
  | 'W' => some (.letters .word true)
  | 'A' => some (.look .textStart)
  | 'z' => some (.look .textEnd)
  | 'b' => some (.look (.wordEdge kind))
  | 'B' => some (.look (.notWordEdge kind))
  | '<' => some (.look (.wordStart kind))
  | '>' => some (.look (.wordEnd kind))
  | c => if isEscapable c then some (.char c false) else (letterEscape? c).map (.char · false)

/-- Reads what stands for a single character behind a backslash, or for the name of a word condition
behind it. -/
def readEscaped (c : Char) : Parse Atom := do
  let kind ← wordKind
  if c == 'b' && (← wordNameFollows) then readWordName kind
  else escaped? kind c

def readBehindSlash : Parse Atom := do
  match ← peek with
  | 'x' => readHex 2
  | 'u' => readHex 4
  | 'U' => readHex 8
  | 'p' => readNamed false
  | 'P' => readNamed true
  | c =>
    bump
    readEscaped c

def readEscape : Parse Atom := do
  bump
  readBehindSlash

/-! ## Meaning -/

def LetterClass.asciiSet : LetterClass → CharSet
  | .digit => ⟨[(0x30, 0x39)]⟩
  | .space => ⟨[(0x09, 0x0D), (0x20, 0x20)]⟩
  | .word => ⟨[(0x30, 0x39), (0x41, 0x5A), (0x5F, 0x5F), (0x61, 0x7A)]⟩

def LetterClass.set : LetterClass → CharSet
  | .digit => Unicode.digits
  | .space => Unicode.spaces
  | .word => Unicode.wordChars

/-- A class of ASCII characters closed under case. -/
def foldAscii (s : CharSet) : CharSet :=
  (List.range 26).foldl (fun t k =>
    let upper := 0x41 + k
    let lower := 0x61 + k
    if s.contains upper || s.contains lower then (t.insert upper upper).insert lower lower else t) s

/-- Applies case and negation, in this order. A negated class without the characters of all scripts
would match parts of characters, so there is none. -/
def closeSet (f : Flags) (negated : Bool) (s : CharSet) : Option CharSet :=
  if f.unicode then
    let s := if f.ignoreCase then s.fold else s
    some (if negated then s.compl else s)
  else if negated then none
  else some (if f.ignoreCase then foldAscii s else s)

/-- The set that a lettered or named class, or a character, contributes to a bracketed class. -/
def Atom.set? (f : Flags) : Atom → Option CharSet
  | .char c _ => if f.unicode || c.toNat < 0x80 then some (CharSet.range c.toNat c.toNat) else none
  | .letters cls negated =>
    if f.unicode then some (if negated then cls.set.compl else cls.set)
    else if negated then none
    else some cls.asciiSet
  | .named name negated =>
    if f.unicode then do
      let s ← match name with
        | .named n => Unicode.named? n
        | .valued n v => Unicode.namedValue? n v
      closeSet f negated s
    else none
  | .look _ | .dot => none

/-- The set of the spellings of a character. -/
def spellingSet (c : Char) : CharSet :=
  (Unicode.spellings c.toNat).foldl (fun s n => s.insert n n) (CharSet.range c.toNat c.toNat)

/-- The expression that an atom stands for outside brackets. -/
def Atom.regex? (f : Flags) : Atom → Option Regex
  | .char c byte =>
    let one := CharSet.range c.toNat c.toNat
    if f.unicode then some (.chars (if f.ignoreCase then spellingSet c else one))
    else if byte && 0x80 ≤ c.toNat then none
    else some (.chars (if f.ignoreCase then foldAscii one else one))
  | .look l => some (.look l)
  | .dot =>
    if !f.unicode then none
    else if f.dotNewline then some (.chars (CharSet.range 0 Unicode.lastCode))
    else if f.crlf then some (.chars (CharSet.compl ⟨[(0x0A, 0x0A), (0x0D, 0x0D)]⟩))
    else some (.chars (CharSet.compl ⟨[(0x0A, 0x0A)]⟩))
  | atom => (atom.set? f).map .chars

end Routebook.Regex
