import Routebook.Json.Basic

/-!
# Data as a document writes it

A document's text is read into a `Datum` before anything is known of its meaning: mappings keep
their entries in order, equal keys included, and a key need not be a string.

* `Datum.toJson?` : the JSON value of a datum; a repeated key keeps its first place and takes its
  last value.
-/

namespace Routebook

/-- A self-describing value. -/
inductive Datum where
  | null
  | bool (value : Bool)
  | int (value : Int)
  | float (value : Float)
  | str (value : String)
  | seq (items : List Datum)
  | map (entries : List (Datum × Datum))

instance : Inhabited Datum := ⟨.null⟩

namespace Datum

/-- The JSON form of a floating-point value: one that is not finite has none and becomes `null`. -/
def ofFloat (x : Float) : Json :=
  if x.isFinite then .num (.float x) else .null

def text? : Datum → Option String
  | .str s => some s
  | _ => none

mutual

/-- The JSON value of a datum, if all its keys are strings. -/
def toJson? : Datum → Option Json
  | .null => some .null
  | .bool b => some (.bool b)
  | .int n => some (.num (.int n))
  | .float x => some (ofFloat x)
  | .str s => some (.str s)
  | .seq items => (itemsToJson? items).map .arr
  | .map entries => (membersToJson? entries []).map .obj

def itemsToJson? : List Datum → Option (List Json)
  | [] => some []
  | d :: rest => do
    let v ← toJson? d
    let vs ← itemsToJson? rest
    return v :: vs

/-- The members of an object, written one after the other. -/
def membersToJson? : List (Datum × Datum) → List (String × Json) → Option (List (String × Json))
  | [], members => some members
  | (k, d) :: rest, members => do
    let key ← text? k
    let v ← toJson? d
    membersToJson? rest (Json.setMember key v members)

end

end Datum

end Routebook
