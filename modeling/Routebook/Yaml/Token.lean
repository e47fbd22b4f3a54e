/-!
# YAML tokens

* `Token` : a piece of a text; the tokens of block collections follow from indentation.
-/

namespace Routebook.Yaml

/-- A piece of a text. -/
inductive Token where
  | versionDirective (major minor : Nat)
  | tagDirective (handle start : String)
  | documentStart
  | documentEnd
  | blockSequenceStart
  | blockMappingStart
  | blockEnd
  | flowSequenceStart
  | flowSequenceEnd
  | flowMappingStart
  | flowMappingEnd
  | blockEntry
  | flowEntry
  | key
  | value
  | alias (name : String)
  | anchor (name : String)
  | tag (handle suffix : String)
  /-- a scalar, and whether it stands there plainly -/
  | scalar (text : String) (plain : Bool)
deriving DecidableEq, Repr

end Routebook.Yaml
