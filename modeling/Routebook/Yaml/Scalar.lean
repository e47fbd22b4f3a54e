import Routebook.Datum
import Routebook.Decimal.Reader
import Routebook.Yaml.Node

/-!
# What YAML scalars mean

A plain scalar without a tag is `null`, a truth value, a number or a text, by the way it is written.
A tag of the core schema decides instead; other tags of the standard namespace mean a text, and local
tags mean nothing.

* `scalarDatum?` : the datum of a scalar;
* `Node.toDatum?`, `Node.toJson?` : the datum and the JSON value of a node.
-/

namespace Routebook.Yaml

def isNull (text : String) : Bool := ["null", "Null", "NULL", "~"].contains text

def readBool? (text : String) : Option Bool :=
  if ["true", "True", "TRUE"].contains text then some true
  else if ["false", "False", "FALSE"].contains text then some false
  else none

/-- Digits with a zero in front, which are no number. -/
def hasLeadingZero (s : List Char) : Bool :=
  match (Decimal.splitSign s).2 with
  | '0' :: rest => !rest.isEmpty && rest.all Char.isDigit
  | _ => false

/-- An integer: decimal, or in another base behind `0x`, `0o` or `0b`. -/
def readInteger? (s : List Char) : Option Int :=
  let (negative, ds) := Decimal.splitSign s
  let magnitude := match ds with
    | '0' :: 'x' :: ds => Decimal.readNat? 16 ds
    | '0' :: 'o' :: ds => Decimal.readNat? 8 ds
    | '0' :: 'b' :: ds => Decimal.readNat? 2 ds
    | ds => if hasLeadingZero ds then none else Decimal.readNat? 10 ds
  magnitude.map fun n => if negative then -n else n

def fits (n : Int) : Bool := -9223372036854775808 ≤ n && n < 18446744073709551616

def fitsTwice (n : Int) : Bool :=
  -170141183460469231731687303715884105728 ≤ n && n < 340282366920938463463374607431768211456

/-- A floating-point value: infinite, not a number, or a finite one in decimal. -/
def readFloat? (text : String) : Option Float :=
  if [".inf", ".Inf", ".INF", "+.inf", "+.Inf", "+.INF"].contains text then some (1.0 / 0.0)
  else if ["-.inf", "-.Inf", "-.INF"].contains text then some (-1.0 / 0.0)
  else if [".nan", ".NaN", ".NAN"].contains text then some (0.0 / 0.0)
  else
    match Decimal.readFloat? text.toList with
    | some x => if x.isFinite then some x else none
    | none => none

/-- The datum of a plain scalar without a tag. An integer beyond 64 bits has none; one beyond 128
bits is a floating-point value. -/
def plainDatum? (text : String) : Option Datum :=
  if text == "" || isNull text then some .null
  else
    match readBool? text with
    | some b => some (.bool b)
    | none =>
      match (readInteger? text.toList).filter fitsTwice with
      | some n => if fits n then some (.int n) else none
      | none =>
        if hasLeadingZero text.toList then some (.str text)
        else
          match readFloat? text with
          | some x => some (.float x)
          | none => some (.str text)

def coreTag (name : String) : String := "tag:yaml.org,2002:" ++ name

/-- The datum of a scalar. -/
def scalarDatum? (tag : Option String) (text : String) (plain : Bool) : Option Datum :=
  match tag with
  | none => if plain then plainDatum? text else some (.str text)
  | some tag =>
    if tag.toList.head? == some '!' then none
    else if tag == coreTag "bool" then (readBool? text).map .bool
    else if tag == coreTag "int" then ((readInteger? text.toList).filter fits).map .int
    else if tag == coreTag "float" then (readFloat? text).map .float
    else if tag == coreTag "null" then if isNull text then some .null else none
    else some (.str text)

/-- A collection has no tag that would change its meaning. -/
def isOrdinary (tag : Option String) : Bool :=
  match tag with
  | some tag => tag.toList.head? != some '!'
  | none => true

namespace Node

mutual

def toDatum? : Node → Option Datum
  | .scalar tag text plain => scalarDatum? tag text plain
  | .seq tag items => if isOrdinary tag then (itemsToDatum? items).map .seq else none
  | .map tag entries => if isOrdinary tag then (entriesToDatum? entries).map .map else none

def itemsToDatum? : List Node → Option (List Datum)
  | [] => some []
  | v :: rest => do return (← toDatum? v) :: (← itemsToDatum? rest)

def entriesToDatum? : List (Node × Node) → Option (List (Datum × Datum))
  | [] => some []
  | (k, v) :: rest => do return (← toDatum? k, ← toDatum? v) :: (← entriesToDatum? rest)

end

def text? : Node → Option String
  | .scalar _ text _ => some text
  | _ => none

def isMissing : Node → Bool
  | .scalar _ text plain => plain && text == ""
  | _ => false

mutual

/-- The JSON value of a node, whose keys are the texts of scalars. -/
def toJson? : Node → Option Json
  | .scalar tag text plain => (scalarDatum? tag text plain).bind Datum.toJson?
  | .seq tag items => if isOrdinary tag then (itemsToJson? items).map .arr else none
  | .map tag entries =>
    if isOrdinary tag then (entriesToJson? entries []).map .obj else none

def itemsToJson? : List Node → Option (List Json)
  | [] => some []
  | v :: rest => do return (← toJson? v) :: (← itemsToJson? rest)

def entriesToJson? : List (Node × Node) → List (String × Json) → Option (List (String × Json))
  | [], members => some members
  | (k, v) :: rest, members => do
    let key ← text? k
    let value ← toJson? v
    entriesToJson? rest (Json.setMember key value members)

end

end Node

end Routebook.Yaml
