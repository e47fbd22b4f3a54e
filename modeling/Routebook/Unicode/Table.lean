import Routebook.Unicode.CharSet

/-!
# Named tables of characters

* `Table` : a set of characters with its names, written as hexadecimal ranges;
* `Table.find?` : the set of a name. Names are in lower case, without blanks, hyphens and low lines.
-/

namespace Routebook.Unicode

/-- A set of characters and its names. -/
structure Table where
  names : List String
  text : String

def Table.find? (tables : List Table) (name : String) : Option CharSet :=
  (tables.find? fun t => t.names.contains name).map fun t => CharSet.ofText t.text

end Routebook.Unicode
