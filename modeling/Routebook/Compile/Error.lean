import Routebook.Catalog.Initializer

/-!
# Errors of a compilation

* `CompileError` : what is wrong with a catalog; `CompileError.message` words it, `CompileError.owner`
  names the owner at fault.
-/

namespace Routebook

/-- What is wrong with a catalog. -/
inductive CompileError where
  | ambiguousDeclaration (owner handler : String) (count : Nat)
  | conflictingExclusion (owner handler url : String)
  | unsupportedVerb (owner handler token : String)
  | duplicateDefault (owner handler parameter : String)
  | duplicateConstraint (owner handler parameter : String)
  | invalidInitializer (owner initializer : String) (violation : Violation)
  | initializerFailed (owner initializer : String) (cause : TableError)
  | registration (owner handler : String) (cause : TableError)
deriving DecidableEq, Repr

namespace CompileError

def kind : CompileError → String
  | .ambiguousDeclaration .. => "AmbiguousRouteDeclaration"
  | .conflictingExclusion .. => "ConflictingHandlerConfiguration"
  | .unsupportedVerb .. => "UnsupportedVerbToken"
  | .duplicateDefault .. => "DuplicateParameterDefault"
  | .duplicateConstraint .. => "DuplicateParameterConstraint"
  | .invalidInitializer .. => "InvalidRouteInitializer"
  | .initializerFailed .. => "InitializerFailed"
  | .registration .. => "Registration"

def owner : CompileError → String
  | .ambiguousDeclaration o .. | .conflictingExclusion o .. | .unsupportedVerb o ..
  | .duplicateDefault o .. | .duplicateConstraint o .. | .invalidInitializer o ..
  | .initializerFailed o .. | .registration o .. => o

/-- The error of the table behind this one. -/
def cause? : CompileError → Option TableError
  | .initializerFailed _ _ e | .registration _ _ e => some e
  | _ => none

def handlerIn (handler owner : String) : String :=
  "handler '" ++ handler ++ "' in '" ++ owner ++ "'"

def initializerIn (initializer owner : String) : String :=
  "route initializer '" ++ initializer ++ "' in '" ++ owner ++ "'"

def message : CompileError → String
  | .ambiguousDeclaration o h n =>
    handlerIn h o ++ " carries " ++ toString n ++ " route declarations; at most one is allowed"
  | .conflictingExclusion o h u =>
    handlerIn h o ++ " is marked non-routable but declares route '" ++ u ++ "'"
  | .unsupportedVerb o h t => handlerIn h o ++ " accepts unsupported verb '" ++ t ++ "'"
  | .duplicateDefault o h p =>
    handlerIn h o ++ " declares more than one default for parameter '" ++ p ++ "'"
  | .duplicateConstraint o h p =>
    handlerIn h o ++ " declares more than one constraint for parameter '" ++ p ++ "'"
  | .invalidInitializer o i v => initializerIn i o ++ " " ++ v.message
  | .initializerFailed o i _ => initializerIn i o ++ " failed"
  | .registration o h _ => "route for " ++ handlerIn h o ++ " could not be registered"

end CompileError

end Routebook
