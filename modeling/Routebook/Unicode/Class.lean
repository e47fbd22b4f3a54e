import Routebook.Unicode.Age
import Routebook.Unicode.Break
import Routebook.Unicode.Category
import Routebook.Unicode.Property
import Routebook.Unicode.Script
import Routebook.Unicode.ScriptExtension

/-!
# Classes of characters by name

* `category?`, `script?`, `scriptExtension?`, `property?` : the set of a normalised name;
* `digits`, `spaces`, `wordChars` : the classes used most;
* `normalize` : names compare without case, blanks, hyphens, low lines and a leading `is`;
* `named?`, `namedValue?` : the set of a name, and of a property's value.

The tables are those of Unicode 15.0; characters of later versions are unassigned in them, and there are no
later ages.
-/

namespace Routebook.Unicode

/-- The set of a category or of a union of categories. The unassigned code points are those that no
category holds, surrogates aside. -/
def category? (name : String) : Option CharSet :=
  let leaf (n : String) : CharSet := (Table.find? categories n).getD CharSet.empty
  let assigned : Unit → CharSet := fun _ =>
    (CharSet.unions (categories.map fun t => CharSet.ofText t.text)).insert 0xD800 0xDFFF
  match name with
  | "any" => some (CharSet.range 0 lastCode)
  | "ascii" => some (CharSet.range 0 0x7F)
  | "assigned" => some ((assigned ()).diff (CharSet.range 0xD800 0xDFFF))
  | "unassigned" | "cn" => some (assigned ()).compl
  | "other" | "c" =>
    some (CharSet.unions ((assigned ()).compl :: ["cc", "cf", "co"].map leaf))
  | name =>
    match categoryGroups.find? fun g => g.1.contains name with
    | some g => some (CharSet.unions (g.2.map leaf))
    | none => Table.find? categories name

/-- The set of a script. -/
def script? (name : String) : Option CharSet := Table.find? scripts name

def scriptExtension? (name : String) : Option CharSet :=
  match Table.find? scriptExtensions name with
  | some s => some s
  | none => script? name

def property? (name : String) : Option CharSet := Table.find? properties name

/-- Decimal digits of all scripts. -/
def digits : CharSet := (category? "nd").getD CharSet.empty

def spaces : CharSet := (property? "whitespace").getD CharSet.empty

/-- Letters, marks, decimal digits, connector punctuation and joiners. -/
def wordChars : CharSet :=
  CharSet.unions (["alphabetic", "joincontrol"].filterMap property? ++ ["m", "nd", "pc"].filterMap category?)

/-- Names of properties that are not binary and so stand for no set of their own. -/
def otherProperties : List String :=
  ["age", "bidiclass", "bc", "bidimirroringglyph", "bmg", "bidipairedbracket", "bpb",
   "bidipairedbrackettype", "bpt", "block", "blk", "canonicalcombiningclass", "ccc", "casefolding",
   "decompositionmapping", "dm", "decompositiontype", "dt", "eastasianwidth", "ea",
   "generalcategory", "gc", "graphemeclusterbreak", "gcb", "hangulsyllabletype", "hst",
   "indicpositionalcategory", "inpc", "indicsyllabiccategory", "insc", "isocomment", "isc",
   "jamoshortname", "jsn", "joininggroup", "jg", "joiningtype", "jt", "linebreak", "lb",
   "lowercasemapping", "name", "na", "unicode1name", "na1", "namealias", "numerictype", "nt",
   "numericvalue", "nv", "script", "scriptextensions", "scx", "sentencebreak", "sb",
   "simplecasefolding", "scf", "sfc", "simplelowercasemapping", "slc", "simpletitlecasemapping",
   "stc", "simpleuppercasemapping", "suc", "titlecasemapping", "tc", "uppercasemapping", "uc",
   "verticalorientation", "vo", "wordbreak", "wb"]

/-- The form in which names compare: ASCII letters in lower case, without blanks, hyphens, low lines
and characters beyond ASCII; a leading `is` is dropped, except in `isc`. -/
def normalize (name : List Char) : String :=
  let lower := name.map Char.toLower
  let (marked, body) := match lower with
    | 'i' :: 's' :: rest => (true, rest)
    | rest => (false, rest)
  let kept := body.filter fun c => c != ' ' && c != '_' && c != '-' && c.toNat < 0x80
  if marked && kept == ['c'] then "isc" else String.ofList kept

/-- The set of a property, category or script. Three short names that a property shares with a
category mean the category. -/
def named? (name : List Char) : Option CharSet :=
  let n := normalize name
  let isCategory := n == "cf" || n == "sc" || n == "lc"
  match if isCategory then none else property? n with
  | some s => some s
  | none =>
    if !isCategory && otherProperties.contains n then none
    else match category? n with
      | some s => some s
      | none => script? n

def namedValue? (name value : List Char) : Option CharSet :=
  let v := normalize value
  match normalize name with
  | "gc" | "generalcategory" => category? v
  | "sc" | "script" => script? v
  | "scx" | "scriptextensions" => scriptExtension? v
  | "age" => age? v
  | "gcb" | "graphemeclusterbreak" => Table.find? graphemeBreaks v
  | "wb" | "wordbreak" => Table.find? wordBreaks v
  | "sb" | "sentencebreak" => Table.find? sentenceBreaks v
  | _ => none

end Routebook.Unicode
