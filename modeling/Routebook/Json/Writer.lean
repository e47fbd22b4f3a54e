import Routebook.Decimal.Shortest
import Routebook.Json.Basic

/-!
# Written JSON

* `Number.text` : integers in decimal, floating-point values with the fewest digits that read back;
* `quote` : a string with its quotes and escapes;
* `Json.compact` : no blanks; `Json.pretty` : one member or item a line, indented by two.
-/

namespace Routebook

open Decimal in
/-- Digits from `1e-5` up to `1e16` stand in place around a point, with at least one digit behind
it; other values have one digit before the point and a signed exponent. -/
def layout (d : Dec) : String :=
  let ds := digits d.digits
  let n := ds.length
  let e : Int := d.exp + n - 1
  let text : List Char :=
    if -5 ≤ e ∧ e < 16 then
      if e < 0 then
        ['0', '.'] ++ List.replicate (-e - 1).toNat '0' ++ ds
      else
        let whole := e.toNat + 1
        if n ≤ whole then ds ++ List.replicate (whole - n) '0' ++ ['.', '0']
        else ds.take whole ++ '.' :: ds.drop whole
    else
      let mantissa := match ds with
        | [] => []
        | [c] => [c]
        | c :: rest => c :: '.' :: rest
      mantissa ++ 'e' :: (if e < 0 then '-' else '+') :: digits e.natAbs
  String.ofList text

/-- A floating-point value in decimal; zero keeps its sign. -/
def floatText (x : Float) : String :=
  let bits := x.toBits
  let magnitude := Decimal.Binary.ofBits bits
  let text := if magnitude.m == 0 then "0.0" else layout magnitude.shortest
  if bits >>> 63 == 1 then "-" ++ text else text

def Number.text : Number → String
  | .int n => String.ofList ((if n < 0 then ['-'] else []) ++ Decimal.digits n.natAbs)
  | .float x => floatText x

namespace Json

def hexDigit (n : Nat) : Char :=
  if n < 10 then Char.ofNat (48 + n) else Char.ofNat (87 + n)

/-- How a character stands inside a quoted string: the quote, the backslash and control characters
are escaped, all others stand for themselves. -/
def escape (c : Char) : List Char :=
  match c with
  | '"' => ['\\', '"']
  | '\\' => ['\\', '\\']
  | '\n' => ['\\', 'n']
  | '\r' => ['\\', 'r']
  | '\t' => ['\\', 't']
  | '\x08' => ['\\', 'b']
  | '\x0c' => ['\\', 'f']
  | c =>
    if c.toNat < 0x20 then ['\\', 'u', '0', '0', hexDigit (c.toNat / 16), hexDigit (c.toNat % 16)]
    else [c]

def quote (s : String) : String :=
  String.ofList ('"' :: s.toList.flatMap escape ++ ['"'])

mutual

/-- The value without blanks. -/
def compact : Json → String
  | .null => "null"
  | .bool true => "true"
  | .bool false => "false"
  | .num n => n.text
  | .str s => quote s
  | .arr items => "[" ++ compactItems items ++ "]"
  | .obj members => "\x7b" ++ compactMembers members ++ "\x7d"

def compactItems : List Json → String
  | [] => ""
  | [v] => compact v
  | v :: rest => compact v ++ "," ++ compactItems rest

def compactMembers : List (String × Json) → String
  | [] => ""
  | [(k, v)] => quote k ++ ":" ++ compact v
  | (k, v) :: rest => quote k ++ ":" ++ compact v ++ "," ++ compactMembers rest

end

/-- A new line indented to the given depth. -/
def newline (depth : Nat) : String :=
  String.ofList ('\n' :: List.replicate (2 * depth) ' ')

mutual

/-- The value with every item and member on a line of its own; empty lists and objects stay
closed. -/
def prettyAt (depth : Nat) : Json → String
  | .arr (v :: rest) =>
    "[" ++ prettyItems (depth + 1) (v :: rest) ++ newline depth ++ "]"
  | .obj (m :: rest) =>
    "\x7b" ++ prettyMembers (depth + 1) (m :: rest) ++ newline depth ++ "\x7d"
  | .null => "null"
  | .bool true => "true"
  | .bool false => "false"
  | .num n => n.text
  | .str s => quote s
  | .arr [] => "[]"
  | .obj [] => "\x7b\x7d"

def prettyItems (depth : Nat) : List Json → String
  | [] => ""
  | [v] => newline depth ++ prettyAt depth v
  | v :: rest => newline depth ++ prettyAt depth v ++ "," ++ prettyItems depth rest

def prettyMembers (depth : Nat) : List (String × Json) → String
  | [] => ""
  | [(k, v)] => newline depth ++ quote k ++ ": " ++ prettyAt depth v
  | (k, v) :: rest =>
    newline depth ++ quote k ++ ": " ++ prettyAt depth v ++ "," ++ prettyMembers depth rest

end

def pretty (v : Json) : String := prettyAt 0 v

end Json

end Routebook
