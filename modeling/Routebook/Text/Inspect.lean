import Routebook.Json.Writer
import Routebook.Unicode.Class

/-!
# Inspection

Texts for the reader of a log: strings between quotes, with everything escaped that would not show.

* `inspect` : a string; `inspectList`, `inspectMap` : lists and maps of them.
-/

namespace Routebook.Text

open Unicode (CharSet)

/-- Characters that do not show by themselves: controls, formats, separators other than the blank,
private and unassigned code points, and marks that attach to the character before. -/
def hidden : CharSet :=
  CharSet.unions
    (["cc", "cf", "zl", "zp", "co", "cn"].filterMap Unicode.category? ++
      ((Unicode.category? "zs").map (·.diff (CharSet.range 0x20 0x20))).toList ++
      (Unicode.property? "graphemeextend").toList)

def hexText (n : Nat) : List Char := Nat.toDigits 16 n

/-- How a character shows. -/
def inspectChar (c : Char) : List Char :=
  match c with
  | '\x00' => ['\\', '0']
  | '\t' => ['\\', 't']
  | '\r' => ['\\', 'r']
  | '\n' => ['\\', 'n']
  | '"' => ['\\', '"']
  | '\\' => ['\\', '\\']
  | c =>
    if hidden.mem c then ['\\', 'u', '\x7b'] ++ hexText c.toNat ++ ['\x7d'] else [c]

def inspect (s : String) : String :=
  String.ofList ('"' :: s.toList.flatMap inspectChar ++ ['"'])

def bracketed (items : List String) : String := "[" ++ String.intercalate ", " items ++ "]"

def braced (items : List String) : String := "\x7b" ++ String.intercalate ", " items ++ "\x7d"

def inspectList (items : List String) : String := bracketed (items.map inspect)

def inspectMap (entries : List (String × String)) : String :=
  braced (entries.map fun e => inspect e.1 ++ ": " ++ e.2)

end Routebook.Text

namespace Routebook.Json

mutual

def inspect : Json → String
  | .null => "Null"
  | .bool true => "Bool(true)"
  | .bool false => "Bool(false)"
  | .num n => "Number(" ++ n.text ++ ")"
  | .str s => "String(" ++ Text.inspect s ++ ")"
  | .arr items => "Array " ++ Text.bracketed (inspectItems items)
  | .obj members => "Object " ++ Text.braced (inspectMembers members)

def inspectItems : List Json → List String
  | [] => []
  | v :: rest => inspect v :: inspectItems rest

def inspectMembers : List (String × Json) → List String
  | [] => []
  | (k, v) :: rest => (Text.inspect k ++ ": " ++ inspect v) :: inspectMembers rest

end

end Routebook.Json
