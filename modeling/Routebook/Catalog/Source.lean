import Routebook.Datum

/-!
# Where a document is decoded from

Documents come in notations that agree on what a text, a list or a record is, but not on which values
may stand for one.

* `Source` : the ways in which a value of a notation is taken apart;
* `record?`, `required?`, `optional?` : the fields of a record.
-/

namespace Routebook

/-- How a value of a notation is taken apart. A way that does not apply has no result. -/
class Source (ν : Type) where
  /-- A text. -/
  text? : ν → Option String
  /-- A list. -/
  items? : ν → Option (List ν)
  /-- A record with its fields by name; some notations let the values stand in the order of the given
  names instead. -/
  fields? : List String → ν → Option (List (String × ν))
  /-- An object whose members are literals. -/
  members? : ν → Option (List (String × Json))
  /-- A record that names its kind; the kind and the rest of the record. -/
  tagged? : ν → Option (String × Datum)

namespace Source

variable {ν α : Type} [Source ν]

def field? (name : String) (fields : List (String × ν)) : Option ν :=
  (fields.find? fun f => f.1 == name).map Prod.snd

/-- No two fields have one name. -/
def distinct : List (String × ν) → Bool
  | [] => true
  | f :: rest => !rest.any (fun g => g.1 == f.1) && distinct rest

/-- The fields of a record, each of them known and none there twice. -/
def record? (names : List String) (v : ν) : Option (List (String × ν)) :=
  match fields? names v with
  | some fields =>
    if fields.all (fun f => names.contains f.1) && distinct fields then some fields else none
  | none => none

/-- A field that must be there. -/
def required? (decode? : ν → Option α) (name : String) (fields : List (String × ν)) : Option α :=
  match field? name fields with
  | some v => decode? v
  | none => none

/-- A field with a value that stands in if it is not there. -/
def optional? (decode? : ν → Option α) (absent : α) (name : String) (fields : List (String × ν)) :
    Option α :=
  match field? name fields with
  | some v => decode? v
  | none => some absent

def listOf? (decode? : ν → Option α) (v : ν) : Option (List α) :=
  match items? v with
  | some items => items.mapM decode?
  | none => none

end Source

namespace Datum

/-- The name that a key stands for: itself, or the name at a position. -/
def fieldName? (names : List String) : Datum → Option String
  | .str s => some s
  | .int n => if n < 0 then none else names[n.toNat]?
  | _ => none

/-- The fields of a record: a mapping, or the values in the order of their names. -/
def fields? (names : List String) : Datum → Option (List (String × Datum))
  | .map entries => entries.mapM fun e => (fieldName? names e.1).map (·, e.2)
  | .seq items => if items.length ≤ names.length then some (names.zip items) else none
  | _ => none

/-- The members of a mapping all of whose keys are strings. -/
def members? : Datum → Option (List (String × Json))
  | .map entries => membersToJson? entries []
  | _ => none

def kindKey : String := "kind"

def isKindKey (key : Datum) : Bool :=
  match key with
  | .str s => s == kindKey
  | _ => false

/-- The kind is under its key, or in first place of a list. -/
def tagged? : Datum → Option (String × Datum)
  | .map entries =>
    match entries.filter fun e => isKindKey e.1 with
    | [(_, .str kind)] => some (kind, .map (entries.filter fun e => !isKindKey e.1))
    | _ => none
  | .seq (.str kind :: rest) => some (kind, .seq rest)
  | _ => none

instance : Source Datum where
  text? := text?
  items?
    | .seq items => some items
    | _ => none
  fields? := fields?
  members? := members?
  tagged? := tagged?

end Datum

end Routebook
