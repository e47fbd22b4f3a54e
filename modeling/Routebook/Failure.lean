import Routebook.Compile.Error

/-!
# Failures

What goes wrong between a file and a table: a cause, and what was being done when it struck.

* `CatalogFault` : a document that is well formed but makes no sense;
* `Failure` : a cause with the activities around it, the outermost first;
* `Failure.message` : the activities and the cause in one line.
-/

namespace Routebook

/-- What makes no sense in a catalog document. -/
inductive CatalogFault where
  | unknownVerb (token : String)
  | verbNotText
  | matcherNotNamed
  | unsupportedConstraint (value : Json)
  | unknownMatcher (name : String)
  | optionalWithDefault (parameter : String)
  | patternAndMatcher (parameter : String)

def CatalogFault.message : CatalogFault → String
  | .unknownVerb token => "unknown verb '" ++ token ++ "'"
  | .verbNotText => "verb list entries must be strings"
  | .matcherNotNamed => "constraint object must name a 'matcher'"
  | .unsupportedConstraint value => "unsupported constraint value " ++ value.compact
  | .unknownMatcher name => "unknown constraint matcher '" ++ name ++ "'"
  | .optionalWithDefault p => "url_param '" ++ p ++ "' cannot be both optional and have a default"
  | .patternAndMatcher p =>
    "constraint '" ++ p ++ "' needs exactly one of 'pattern' or 'matcher'"

/-- Something that is under way when a failure strikes. -/
inductive Activity where
  | readingCatalog (path : String)
  | loadingCatalog (path : String)
  | decodingJson
  | decodingYaml
  | addingOwner (owner : String)
  | addingRoute (route initializer : String)
  | addingHandler (handler owner : String)
  | readingConfig (path : String)
  | decodingConfig (path : String)
  | publishing
  | compiling (path : String)
  | readingMethod (method : String)
deriving DecidableEq, Repr

def Activity.message : Activity → String
  | .readingCatalog path => "failed to read catalog " ++ path
  | .loadingCatalog path => "failed to load catalog " ++ path
  | .decodingJson => "invalid JSON catalog"
  | .decodingYaml => "invalid YAML catalog"
  | .addingOwner owner => "owner '" ++ owner ++ "'"
  | .addingRoute route initializer =>
    "route '" ++ route ++ "' of initializer '" ++ initializer ++ "'"
  | .addingHandler handler owner => "handler '" ++ handler ++ "' in owner '" ++ owner ++ "'"
  | .readingConfig path => "failed to read config " ++ path
  | .decodingConfig path => "failed to parse config " ++ path
  | .publishing => "failed to compile route table"
  | .compiling path => "failed to compile " ++ path
  | .readingMethod method => "invalid method '" ++ method ++ "'"

/-- Why something failed. -/
inductive Cause where
  /-- a text is not JSON, or not of the expected shape -/
  | json
  /-- a text is not YAML, or not of the expected shape -/
  | yaml
  /-- a text is not TOML, or not of the expected shape -/
  | toml
  /-- a file is missing or is no text -/
  | file
  /-- a method has characters that no token may have -/
  | method
  | fault (fault : CatalogFault)
  | compile (error : CompileError)

namespace Cause

def kind : Cause → String
  | .json => "Json"
  | .yaml => "Yaml"
  | .toml => "Toml"
  | .file => "Io"
  | .method => "InvalidMethod"
  | .fault _ => "Catalog"
  | .compile e => e.kind

/-- The wordings of a cause; what is wrong with a text or a file is left to its reader. -/
def messages : Cause → List String
  | .json | .yaml | .toml | .file | .method => []
  | .fault f => [f.message]
  | .compile e => e.message :: (e.cause?.map TableError.message).toList

end Cause

/-- A cause and the activities around it, the outermost first. -/
structure Failure where
  activities : List Activity := []
  cause : Cause

namespace Failure

/-- The failure seen from an activity around it. -/
def within (activity : Activity) (f : Failure) : Failure :=
  { f with activities := activity :: f.activities }

def kind (f : Failure) : String := f.cause.kind

/-- The activities and the cause in one line. -/
def message (f : Failure) : String :=
  String.intercalate ": " (f.activities.map Activity.message ++ f.cause.messages)

end Failure

/-- A result whose failure is seen from an activity around it. -/
def duringActivity {α : Type} (activity : Activity) :
    Except Failure α → Except Failure α
  | .ok a => .ok a
  | .error f => .error (f.within activity)

end Routebook
