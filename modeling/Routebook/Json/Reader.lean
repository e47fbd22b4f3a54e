import Routebook.Datum

/-!
# Reading JSON

* `Json.datum?` : the datum that a text writes, if the text is one JSON value with blanks around it;
* `Json.parse?` : the JSON value of a text;
* `readNumber` : an integer of the 64-bit ranges, or a significand times a power of ten.

Lists and objects may nest 127 deep. Members of objects are kept as written, repeated keys included.
-/

namespace Routebook.Json

def isSpace (c : Char) : Bool :=
  c == ' ' || c == '\n' || c == '\t' || c == '\r'

def digitValue (c : Char) : Nat := c.toNat - 48

/-- Appends digits to a significand as long as it stays below `2 ^ 64`; gives the significand, how
many digits went in and how many were left out. -/
def accumulate : Nat → List Char → Nat → Nat × Nat × Nat
  | sig, [], taken => (sig, taken, 0)
  | sig, c :: rest, taken =>
    if sig * 10 + digitValue c < 1 <<< 64 then accumulate (sig * 10 + digitValue c) rest (taken + 1)
    else (sig, taken, rest.length + 1)

/-- `f * 10 ^ e`, rounded after each step; too large a value has no result, too small a one is
zero. -/
def scaleBy : Nat → Float → Int → Option Float
  | fuel, f, e =>
    if e.natAbs ≤ 308 then
      if e ≥ 0 then
        let r := f * Float.ofScientific 1 false e.toNat
        if r.isInf then none else some r
      else some (f / Float.ofScientific 1 false e.natAbs)
    else if f == 0 then some f
    else if e ≥ 0 then none
    else match fuel with
      | 0 => some 0
      | fuel + 1 => scaleBy fuel (f / 1e308) (e + 308)

/-- A significand below `2 ^ 64` times a power of ten. -/
def floatOf (negative : Bool) (sig : Nat) (e : Int) : Option Float :=
  (scaleBy 4 sig.toUInt64.toFloat e).map fun f => if negative then -f else f

/-- The exponent part behind `e`: its value, `none` where it is too large to matter, and the rest. -/
def readExponent (s : List Char) : Option (Bool × Option Nat × List Char) :=
  let (positive, s) := match s with
    | '+' :: s => (true, s)
    | '-' :: s => (false, s)
    | s => (true, s)
  let ds := s.takeWhile Char.isDigit
  if ds.isEmpty then none
  else
    let n := ds.foldl (fun n c => if n < 1 <<< 31 then n * 10 + digitValue c else n) 0
    some (positive, if n < 1 <<< 31 then some n else none, s.dropWhile Char.isDigit)

/-- Reads a number behind its sign: no leading zeros, a digit on either side of a point. Digits that
do not fit the significand are left out. -/
def readNumber (negative : Bool) (s : List Char) : Option (Datum × List Char) := do
  let ds := s.takeWhile Char.isDigit
  let rest := s.dropWhile Char.isDigit
  guard (!ds.isEmpty && (ds.head? != some '0' || ds.length == 1))
  let (sig, _, dropped) := accumulate 0 ds 0
  let (sig, e, isInt, rest) ← match rest with
    | '.' :: rest => do
      let fs := rest.takeWhile Char.isDigit
      guard (!fs.isEmpty)
      let (sig, taken, _) := accumulate sig fs 0
      pure (sig, (dropped : Int) - taken, false, rest.dropWhile Char.isDigit)
    | rest => pure (sig, (dropped : Int), dropped == 0, rest)
  match rest with
  | c :: tail =>
    if c == 'e' || c == 'E' then
      let (positive, n, rest) ← readExponent tail
      match n with
      | some n =>
        let f ← floatOf negative sig (if positive then e + n else e - n)
        return (.float f, rest)
      | none =>
        guard (sig == 0 || !positive)
        return (.float (if negative then -0.0 else 0.0), rest)
    else finish sig e isInt rest
  | [] => finish sig e isInt rest
where
  /-- A number without exponent part. -/
  finish (sig : Nat) (e : Int) (isInt : Bool) (rest : List Char) : Option (Datum × List Char) :=
    if isInt && !negative then some (.int sig, rest)
    else if isInt && sig != 0 && sig ≤ 1 <<< 63 then some (.int (-sig), rest)
    else (floatOf negative sig e).map fun f => (.float f, rest)

def hexValue? (c : Char) : Option Nat :=
  if c.isDigit then some (c.toNat - 48)
  else if 'a' ≤ c ∧ c ≤ 'f' then some (c.toNat - 87)
  else if 'A' ≤ c ∧ c ≤ 'F' then some (c.toNat - 55)
  else none

/-- Four hexadecimal digits. -/
def readUnit : List Char → Option (Nat × List Char)
  | a :: b :: c :: d :: rest => do
    let a ← hexValue? a
    let b ← hexValue? b
    let c ← hexValue? c
    let d ← hexValue? d
    return (((a * 16 + b) * 16 + c) * 16 + d, rest)
  | _ => none

/-- The character behind `\u`: one unit, or a pair of surrogates each written with its own `\u`. -/
def readEscapedUnit (s : List Char) : Option (Char × List Char) := do
  let (hi, rest) ← readUnit s
  if 0xDC00 ≤ hi ∧ hi ≤ 0xDFFF then none
  else if 0xD800 ≤ hi ∧ hi ≤ 0xDBFF then
    match rest with
    | '\\' :: 'u' :: rest =>
      let (lo, rest) ← readUnit rest
      if 0xDC00 ≤ lo ∧ lo ≤ 0xDFFF then
        return (Char.ofNat (0x10000 + (hi - 0xD800) * 0x400 + (lo - 0xDC00)), rest)
      else none
    | _ => none
  else return (Char.ofNat hi, rest)

def unescape? : Char → Option Char
  | '"' => some '"'
  | '\\' => some '\\'
  | '/' => some '/'
  | 'b' => some '\x08'
  | 'f' => some '\x0c'
  | 'n' => some '\n'
  | 'r' => some '\r'
  | 't' => some '\t'
  | _ => none

/-- Reads the rest of a string up to its closing quote; `acc` holds what was read, backwards. -/
def readString : Nat → List Char → List Char → Option (String × List Char)
  | 0, _, _ => none
  | fuel + 1, acc, s =>
    match s with
    | '"' :: rest => some (String.ofList acc.reverse, rest)
    | '\\' :: 'u' :: rest => do
      let (c, rest) ← readEscapedUnit rest
      readString fuel (c :: acc) rest
    | '\\' :: c :: rest => do
      let c ← unescape? c
      readString fuel (c :: acc) rest
    | c :: rest => if c.toNat < 0x20 || c == '\\' then none else readString fuel (c :: acc) rest
    | [] => none

mutual

/-- Reads one value after blanks; `depth` more levels of nesting are allowed. -/
def readValue : Nat → Nat → List Char → Option (Datum × List Char)
  | 0, _, _ => none
  | fuel + 1, depth, s =>
    match s.dropWhile isSpace with
    | 'n' :: 'u' :: 'l' :: 'l' :: rest => some (.null, rest)
    | 't' :: 'r' :: 'u' :: 'e' :: rest => some (.bool true, rest)
    | 'f' :: 'a' :: 'l' :: 's' :: 'e' :: rest => some (.bool false, rest)
    | '"' :: rest => (readString (rest.length + 1) [] rest).map fun r => (.str r.1, r.2)
    | '-' :: rest => readNumber true rest
    | '[' :: rest =>
      match depth with
      | 0 => none
      | depth + 1 =>
        match rest.dropWhile isSpace with
        | ']' :: rest => some (.seq [], rest)
        | rest => (readItems fuel depth rest).map fun r => (.seq r.1, r.2)
    | '\x7b' :: rest =>
      match depth with
      | 0 => none
      | depth + 1 =>
        match rest.dropWhile isSpace with
        | '\x7d' :: rest => some (.map [], rest)
        | rest => (readMembers fuel depth rest).map fun r => (.map r.1, r.2)
    | rest => readNumber false rest

def readItems : Nat → Nat → List Char → Option (List Datum × List Char)
  | 0, _, _ => none
  | fuel + 1, depth, s => do
    let (v, rest) ← readValue fuel depth s
    match rest.dropWhile isSpace with
    | ',' :: rest =>
      let (vs, rest) ← readItems fuel depth rest
      return (v :: vs, rest)
    | ']' :: rest => return ([v], rest)
    | _ => none

def readMembers : Nat → Nat → List Char → Option (List (Datum × Datum) × List Char)
  | 0, _, _ => none
  | fuel + 1, depth, s =>
    match s.dropWhile isSpace with
    | '"' :: rest => do
      let (key, rest) ← readString (rest.length + 1) [] rest
      match rest.dropWhile isSpace with
      | ':' :: rest =>
        let (v, rest) ← readValue fuel depth rest
        match rest.dropWhile isSpace with
        | ',' :: rest =>
          let (vs, rest) ← readMembers fuel depth rest
          return ((.str key, v) :: vs, rest)
        | '\x7d' :: rest => return ([(.str key, v)], rest)
        | _ => none
      | _ => none
    | _ => none

end

def maxDepth : Nat := 127

def datum? (text : String) : Option Datum := do
  let s := text.toList
  let (v, rest) ← readValue (2 * s.length + 2) maxDepth s
  if (rest.dropWhile isSpace).isEmpty then some v else none

def parse? (text : String) : Option Json :=
  (datum? text).bind Datum.toJson?

end Routebook.Json
