/-!
# Places in a YAML text

* `isBlank`, `isBreak` : blanks and line breaks;
* `Cursor` : the rest of a text with the place where it starts;
* `Cursor.break?` : steps over a line break, which reads as `\n` or stays a separator.
-/

namespace Routebook.Yaml

def isBlank (c : Char) : Bool := c == ' ' || c == '\t'

def isBreak (c : Char) : Bool :=
  c == '\n' || c == '\r' || c == '\x85' || c == '\u2028' || c == '\u2029'

def isWord (c : Char) : Bool := c.isAlphanum || c == '_' || c == '-'

def isPermitted (c : Char) : Bool :=
  let n := c.toNat
  n == 0x09 || n == 0x0A || n == 0x0D || (0x20 ≤ n && n ≤ 0x7E) || n == 0x85 ||
    (0xA0 ≤ n && n ≤ 0xFFFD) || 0x10000 ≤ n

/-- The rest of a text and the place where it starts. -/
structure Cursor where
  rest : List Char
  index : Nat := 0
  line : Nat := 0
  column : Nat := 0

namespace Cursor

/-- The next character. -/
def next? (c : Cursor) : Option Char := c.rest.head?

def at? (c : Cursor) (n : Nat) : Option Char := c.rest[n]?

def isAt (c : Cursor) (a : Char) : Bool := c.next? == some a

def atEnd (c : Cursor) : Bool := c.rest.isEmpty

/-- At a distance there is a blank, a line break or the end. -/
def gapAt (c : Cursor) (n : Nat) : Bool :=
  match c.at? n with
  | some a => isBlank a || isBreak a
  | none => true

def atBlank (c : Cursor) : Bool := c.next?.any isBlank

def atBreak (c : Cursor) : Bool := c.next?.any isBreak

def atLineEnd (c : Cursor) : Bool := c.atEnd || c.atBreak

def skip (n : Nat) (c : Cursor) : Cursor :=
  { c with rest := c.rest.drop n, index := c.index + n, column := c.column + n }

/-- The characters of a line up to the first that fails a test. -/
def takeWhile (p : Char → Bool) (c : Cursor) : List Char := c.rest.takeWhile p

def skipWhile (p : Char → Bool) (c : Cursor) : Cursor := c.skip (c.takeWhile p).length

def skipLine (c : Cursor) : Cursor := c.skipWhile fun a => !isBreak a

def newLine (n : Nat) (c : Cursor) : Cursor :=
  { rest := c.rest.drop n, index := c.index + n, line := c.line + 1, column := 0 }

/-- Steps over a line break; the separators of lines and paragraphs stand for themselves. -/
def break? (c : Cursor) : Option (Char × Cursor) :=
  match c.rest with
  | '\r' :: '\n' :: _ => some ('\n', c.newLine 2)
  | '\u2028' :: _ => some ('\u2028', c.newLine 1)
  | '\u2029' :: _ => some ('\u2029', c.newLine 1)
  | a :: _ => if isBreak a then some ('\n', c.newLine 1) else none
  | [] => none

/-- The mark of a document's start or end stands at the beginning of a line. -/
def atDocumentMark (mark : List Char) (c : Cursor) : Bool :=
  c.column == 0 && mark.isPrefixOf c.rest && c.gapAt 3

def atDocumentEdge (c : Cursor) : Bool :=
  c.atDocumentMark ['-', '-', '-'] || c.atDocumentMark ['.', '.', '.']

/-- Steps over blanks and a comment up to the end of a line, and over its break. -/
def restOfLine? (c : Cursor) : Option Cursor :=
  let c := c.skipWhile isBlank
  let c := if c.isAt '#' then c.skipLine else c
  if c.atEnd then some c else c.break?.map Prod.snd

end Cursor

end Routebook.Yaml
