/-!
# JSON values

* `Number` : an integer of the 64-bit ranges, or a binary64 value;
* `Json` : a value whose objects list their members in order, each key once;
* `Json.same` : equality in which the order of an object's members does not count.
-/

namespace Routebook

/-- A number: integers between `-2 ^ 63` and `2 ^ 64 - 1` stay integers, everything else is a
finite binary64 value. -/
inductive Number where
  | int (value : Int)
  | float (value : Float)

namespace Number

/-- Numbers are equal when both are integers or both are floating-point values, and equal. -/
def same : Number → Number → Bool
  | .int a, .int b => a == b
  | .float a, .float b => a == b
  | _, _ => false

end Number

/-- A JSON value. -/
inductive Json where
  | null
  | bool (value : Bool)
  | num (value : Number)
  | str (value : String)
  | arr (items : List Json)
  | obj (members : List (String × Json))

instance : Inhabited Json := ⟨.null⟩

namespace Json

def member? (key : String) : List (String × Json) → Option Json
  | [] => none
  | (k, v) :: rest => if k == key then some v else member? key rest

/-- Writes `value` under `key`: a key that is present keeps its place. -/
def setMember (key : String) (value : Json) : List (String × Json) → List (String × Json)
  | [] => [(key, value)]
  | (k, v) :: rest => if k == key then (k, value) :: rest else (k, v) :: setMember key value rest

mutual

/-- Equality in which the order of an object's members does not count. -/
def same : Json → Json → Bool
  | .null, .null => true
  | .bool a, .bool b => a == b
  | .num a, .num b => a.same b
  | .str a, .str b => a == b
  | .arr a, .arr b => sameItems a b
  | .obj a, .obj b => a.length == b.length && sameMembers a b
  | _, _ => false

def sameItems : List Json → List Json → Bool
  | [], [] => true
  | a :: as, b :: bs => same a b && sameItems as bs
  | _, _ => false

/-- Every member on the left has an equal one on the right. -/
def sameMembers : List (String × Json) → List (String × Json) → Bool
  | [], _ => true
  | (k, a) :: rest, right =>
    (match member? k right with
      | some b => same a b
      | none => false) && sameMembers rest right

end

end Json

end Routebook
