import Routebook.Yaml.Cursor

/-!
# Scalars of a YAML text

* `Gap` : the blanks and line breaks between two words; `Gap.text` folds it;
* `readPlain?`, `readQuoted?`, `readBlock?` : the text of a scalar and the place behind it.
-/

namespace Routebook.Yaml

/-- The blanks and line breaks between two words. -/
structure Gap where
  /-- the blanks, if no line break follows -/
  blanks : List Char := []
  broken : Bool := false
  /-- the first line break -/
  first : List Char := []
  /-- the line breaks behind it -/
  more : List Char := []

namespace Gap

/-- What a gap stands for: one line break becomes a blank, of several the first is dropped. -/
def text (g : Gap) : List Char :=
  if !g.broken then g.blanks
  else if g.first == ['\n'] then (if g.more.isEmpty then [' '] else g.more)
  else g.first ++ g.more

def addBreak (g : Gap) (a : Char) : Gap :=
  if g.broken then { g with more := g.more ++ [a] }
  else { g with blanks := [], broken := true, first := [a] }

/-- Adds a blank; those behind a line break do not count. -/
def addBlank (g : Gap) (a : Char) : Gap :=
  if g.broken then g else { g with blanks := g.blanks ++ [a] }

/-- Reads blanks and line breaks. At the beginning of a line there may be no tab before the column
`indent`. -/
def read? (indent : Nat) : Nat → Gap → Cursor → Option (Gap × Cursor)
  | 0, g, c => some (g, c)
  | fuel + 1, g, c =>
    match c.break? with
    | some (a, next) => read? indent fuel (g.addBreak a) next
    | none =>
      match c.next? with
      | some a =>
        if !isBlank a then some (g, c)
        else if g.broken && c.column < indent && a == '\t' then none
        else read? indent fuel (g.addBlank a) (c.skip 1)
      | none => some (g, c)

end Gap

/-! ## Plain scalars -/

/-- An indicator of flow collections. -/
def isFlowIndicator (c : Char) : Bool :=
  c == ',' || c == '[' || c == ']' || c == '\x7b' || c == '\x7d'

/-- The characters of a plain scalar up to a gap or an indicator that ends it. In flow collections a
colon right before an indicator is an error. -/
def readWord? (flow : Bool) : List Char → Option (List Char)
  | [] => some []
  | ':' :: rest =>
    match rest with
    | [] => some []
    | a :: _ =>
      if isBlank a || isBreak a then some []
      else if flow && (isFlowIndicator a || a == '?') then none
      else (readWord? flow rest).map (':' :: ·)
  | a :: rest =>
    if isBlank a || isBreak a || (flow && isFlowIndicator a) then some []
    else (readWord? flow rest).map (a :: ·)

/-- Reads a plain scalar behind a gap; the result says whether it ends with a line break. -/
def readPlainFrom? (flow : Bool) (indent : Nat) :
    Nat → List Char → Gap → Cursor → Option (List Char × Bool × Cursor)
  | 0, _, _, _ => none
  | fuel + 1, acc, gap, c =>
    if c.atDocumentEdge || c.isAt '#' then some (acc, gap.broken, c)
    else
      match readWord? flow c.rest with
      | none => none
      | some word =>
        let (acc, gap) := if word.isEmpty then (acc, gap) else (acc ++ gap.text ++ word, {})
        let c := c.skip word.length
        if !(c.atBlank || c.atBreak) then some (acc, gap.broken, c)
        else
          match gap.read? indent (c.rest.length + 1) c with
          | none => none
          | some (gap, c) =>
            if !flow && c.column < indent then some (acc, gap.broken, c)
            else readPlainFrom? flow indent fuel acc gap c

def readPlain? (flow : Bool) (indent : Nat) (c : Cursor) : Option (String × Bool × Cursor) :=
  (readPlainFrom? flow indent (c.rest.length + 1) [] {} c).map fun (s, broken, c) =>
    (String.ofList s, broken, c)

/-! ## Quoted scalars -/

def hexValue? (ds : List Char) : Option Nat :=
  ds.foldlM (fun n c =>
    if c.isDigit then some (n * 16 + (c.toNat - 48))
    else if 'a' ≤ c ∧ c ≤ 'f' then some (n * 16 + (c.toNat - 87))
    else if 'A' ≤ c ∧ c ≤ 'F' then some (n * 16 + (c.toNat - 55))
    else none) 0

def charOf? (n : Nat) : Option Char :=
  if h : n.isValidChar then some (Char.ofNatAux n h) else none

def escaped? : Char → Option Char
  | '0' => some '\x00'
  | 'a' => some '\x07'
  | 'b' => some '\x08'
  | 't' | '\t' => some '\t'
  | 'n' => some '\n'
  | 'v' => some '\x0b'
  | 'f' => some '\x0c'
  | 'r' => some '\r'
  | 'e' => some '\x1b'
  | ' ' => some ' '
  | '"' => some '"'
  | '/' => some '/'
  | '\\' => some '\\'
  | 'N' => some '\x85'
  | '_' => some '\xa0'
  | 'L' => some '\u2028'
  | 'P' => some '\u2029'
  | _ => none

def escapeDigits? : Char → Option Nat
  | 'x' => some 2
  | 'u' => some 4
  | 'U' => some 8
  | _ => none

/-- The character of the escape behind a backslash, and its length without the backslash. -/
def readEscape? : List Char → Option (Char × Nat)
  | [] => none
  | a :: rest =>
    match escapeDigits? a with
    | some n =>
      if rest.length < n then none
      else ((hexValue? (rest.take n)).bind charOf?).map (·, n + 1)
    | none => (escaped? a).map (·, 1)

/-- Reads a quoted scalar behind its opening quote. -/
def readQuotedFrom? (single : Bool) : Nat → List Char → Cursor → Option (List Char × Cursor)
  | 0, _, _ => none
  | fuel + 1, acc, c =>
    if c.atDocumentEdge then none
    else
      match c.rest with
      | [] => none
      | a :: rest =>
        if isBlank a || isBreak a then readGap fuel acc {} c
        else if single && a == '\'' then
          if rest.head? == some '\'' then readQuotedFrom? single fuel (acc ++ ['\'']) (c.skip 2)
          else some (acc, c.skip 1)
        else if !single && a == '"' then some (acc, c.skip 1)
        else if !single && a == '\\' then
          match (c.skip 1).break? with
          | some (_, next) => readGap fuel acc { broken := true } next
          | none =>
            match readEscape? rest with
            | some (e, n) => readQuotedFrom? single fuel (acc ++ [e]) (c.skip (n + 1))
            | none => none
        else readQuotedFrom? single fuel (acc ++ [a]) (c.skip 1)
where
  /-- Reads a gap and goes on behind it. -/
  readGap (fuel : Nat) (acc : List Char) (gap : Gap) (c : Cursor) :
      Option (List Char × Cursor) :=
    match gap.read? 0 (c.rest.length + 1) c with
    | some (gap, c) => readQuotedFrom? single fuel (acc ++ gap.text) c
    | none => none

def readQuoted? (single : Bool) (c : Cursor) : Option (String × Cursor) :=
  (readQuotedFrom? single (c.rest.length + 1) [] (c.skip 1)).map fun (s, c) => (String.ofList s, c)

/-! ## Block scalars -/

/-- What is done with the line breaks at the end of a block scalar. -/
inductive Chomping where
  /-- none is kept -/
  | strip
  /-- the first is kept -/
  | clip
  /-- all are kept -/
  | keep
deriving DecidableEq, Repr

/-- The header of a block scalar: how its end is treated, and its indentation if that is given. -/
def readBlockHeader? (c : Cursor) : Option (Chomping × Option Nat × Cursor) :=
  let chomping? (c : Cursor) : Option Chomping :=
    if c.isAt '+' then some .keep else if c.isAt '-' then some .strip else none
  let digit? (c : Cursor) : Option Nat := (c.next?.filter Char.isDigit).map fun a => a.toNat - 48
  match chomping? c with
  | some ch =>
    let c := c.skip 1
    match digit? c with
    | some 0 => none
    | some n => some (ch, some n, c.skip 1)
    | none => some (ch, none, c)
  | none =>
    match digit? c with
    | some 0 => none
    | some n =>
      let c := c.skip 1
      match chomping? c with
      | some ch => some (ch, some n, c.skip 1)
      | none => some (.clip, some n, c)
    | none => some (.clip, none, c)

/-- Reads the empty lines before a line of a block scalar, and the blanks of that line up to the
indentation; without one, up to any column. The result holds the line breaks and the greatest
column. -/
def readEmptyLines? (indent : Option Nat) :
    Nat → List Char → Nat → Cursor → Option (List Char × Nat × Cursor)
  | 0, _, _, _ => none
  | fuel + 1, breaks, widest, c =>
    let room := match indent with
      | some n => n - c.column
      | none => c.rest.length
    let c := c.skip ((c.rest.take room).takeWhile (· == ' ')).length
    let widest := max widest c.column
    let before := match indent with
      | some n => decide (c.column < n)
      | none => true
    if before && c.isAt '\t' then none
    else
      match c.break? with
      | some (a, next) => readEmptyLines? indent fuel (breaks ++ [a]) widest next
      | none => some (breaks, widest, c)

/-- The state between the lines of a block scalar: the break behind the last line, those of the
empty lines after it, and whether that line begins with a blank. -/
structure Between where
  text : List Char := []
  last : List Char := []
  empty : List Char := []
  blank : Bool := false

/-- Reads the lines of a block scalar. In folded ones a break between two lines that begin with no
blank becomes a blank, or nothing if empty lines follow. -/
def readLines? (literal : Bool) (indent : Nat) : Nat → Between → Cursor → Option (Between × Cursor)
  | 0, _, _ => none
  | fuel + 1, b, c =>
    if c.column != indent || c.atEnd then some (b, c)
    else
      let folds := !literal && b.last == ['\n'] && !b.blank && !c.atBlank
      let joint := if folds then (if b.empty.isEmpty then [' '] else []) else b.last
      let line := c.takeWhile fun a => !isBreak a
      let behind := c.skip line.length
      let (last, behind) := match behind.break? with
        | some (a, next) => ([a], next)
        | none => ([], behind)
      match readEmptyLines? (some indent) (behind.rest.length + 1) [] 0 behind with
      | none => none
      | some (empty, _, behind) =>
        readLines? literal indent fuel
          { text := b.text ++ joint ++ b.empty ++ line, last, empty, blank := c.atBlank } behind

/-- Reads a block scalar at its indicator; `indent` is the column of the collection around it, and -1
where there is none. -/
def readBlock? (literal : Bool) (indent : Int) (c : Cursor) : Option (String × Cursor) :=
  match readBlockHeader? (c.skip 1) with
  | none => none
  | some (chomping, given, c) =>
    match c.restOfLine? with
    | none => none
    | some c =>
      let given := given.map fun n => (max indent 0).toNat + n
      match readEmptyLines? given (c.rest.length + 1) [] 0 c with
      | none => none
      | some (breaks, widest, c) =>
        let width := given.getD (max (max widest (indent + 1).toNat) 1)
        match readLines? literal width (c.rest.length + 1) { empty := breaks } c with
        | none => none
        | some (b, c) =>
          let text := match chomping with
            | .strip => b.text
            | .clip => b.text ++ b.last
            | .keep => b.text ++ b.last ++ b.empty
          some (String.ofList text, c)

end Routebook.Yaml
