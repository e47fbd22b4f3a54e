import Routebook.Catalog.Initializer
import Routebook.Text.Inspect

/-!
# Inspection of initializers

* `Initializer.inspect` : how an initializer shows in a log, its program left out.
-/

namespace Routebook

def Receiver.inspect : Receiver → String
  | .static => "Static"
  | .onInstance => "Instance"

def Parameter.inspect : Parameter → String
  | .routeTable => "RouteTable"
  | .other name => "Other(" ++ Text.inspect name ++ ")"

/-- A record's name and its fields between braces. -/
def inspectRecord (name : String) (fields : List String) : String :=
  name ++ " \x7b " ++ String.intercalate ", " fields ++ " \x7d"

def Signature.inspect (s : Signature) : String :=
  inspectRecord "InitializerSignature"
    ["receiver: " ++ s.receiver.inspect,
      "parameters: " ++ Text.bracketed (s.parameters.map Parameter.inspect)]

def Initializer.inspect (i : Initializer) : String :=
  inspectRecord "RouteInitializer"
    ["owner: " ++ Text.inspect i.owner, "name: " ++ Text.inspect i.name,
      "signature: " ++ i.signature.inspect, ".."]

end Routebook
