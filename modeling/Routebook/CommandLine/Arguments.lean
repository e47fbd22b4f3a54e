import Routebook.Config.Basic

/-!
# Arguments of the command line

The arguments are options of the program, a command, and options of the command. The configuration
file may be given in either place, or by the environment.

* `Invocation` : what is asked for;
* `UsageError` : why arguments ask for nothing that can be run;
* `Invocation.parse` : reads the arguments.
-/

namespace Routebook

/-- Why there is nothing to run. -/
inductive UsageError where
  | displayHelp
  | displayVersion
  | displayHelpOnMissing
  | missingArgument
  | missingCommand
  | invalidCommand
  | unknownArgument
  | invalidValue
  | argumentConflict
  | tooManyValues
deriving DecidableEq, Repr

def UsageError.kind : UsageError → String
  | .displayHelp => "DisplayHelp"
  | .displayVersion => "DisplayVersion"
  | .displayHelpOnMissing => "DisplayHelpOnMissingArgumentOrSubcommand"
  | .missingArgument => "MissingRequiredArgument"
  | .missingCommand => "MissingSubcommand"
  | .invalidCommand => "InvalidSubcommand"
  | .unknownArgument => "UnknownArgument"
  | .invalidValue => "InvalidValue"
  | .argumentConflict => "ArgumentConflict"
  | .tooManyValues => "TooManyValues"

/-- What a command does with the compiled table. -/
inductive Command where
  /-- prints the entries, of one owner only or of all -/
  | compile (catalog : String) (owner : Option String) (json : Bool)
  /-- prints the route that a request takes -/
  | route (catalog method path : String)
deriving DecidableEq, Repr

/-- A command and the configuration file. -/
structure Invocation where
  config : Option String
  command : Command
deriving DecidableEq, Repr

namespace CommandLine

/-- What an option takes. -/
inductive ValueKind where
  /-- nothing -/
  | flag
  /-- any text -/
  | text
  /-- a path, which is not empty -/
  | path
  | help
  | version
deriving DecidableEq, Repr

/-- An option of the program or of a command. -/
structure Flag where
  long : String
  short : Option Char
  kind : ValueKind
deriving DecidableEq, Repr

def configFlag : Flag := ⟨"config", none, .path⟩

def helpFlag : Flag := ⟨"help", some 'h', .help⟩

def programFlags : List Flag := [configFlag, helpFlag, ⟨"version", some 'V', .version⟩]

def compileFlags : List Flag :=
  [⟨"catalog", some 'c', .path⟩, ⟨"owner", some 'o', .text⟩, ⟨"json", none, .flag⟩, configFlag,
    helpFlag]

def routeFlags : List Flag :=
  [⟨"catalog", some 'c', .path⟩, ⟨"method", some 'm', .text⟩, ⟨"path", some 'p', .text⟩,
    configFlag, helpFlag]

/-- What was read of the options of one place. -/
structure Given where
  /-- the options with their values, which are empty for flags -/
  values : List (String × String) := []
  /-- the last option, which is not settled yet, and its value if that was met -/
  pending : Option (Flag × Option String) := none

namespace Given

def value? (g : Given) (long : String) : Option String :=
  (g.values.find? fun v => v.1 == long).map Prod.snd

/-- Adds an option, which must not be there yet; a path must not be empty. -/
def add (g : Given) (f : Flag) (value : String) : Except UsageError Given :=
  if (g.value? f.long).isSome then .error .argumentConflict
  else if f.kind == .path && value == "" then .error .invalidValue
  else .ok { g with values := g.values ++ [(f.long, value)] }

/-- Settles the last option, which must have its value. -/
def settle (g : Given) : Except UsageError Given :=
  match g.pending with
  | none => .ok g
  | some (_, none) => .error .invalidValue
  | some (f, some value) => { g with pending := none }.add f value

/-- Reads an option that was met, with the value attached to it. -/
def meet (g : Given) (f : Flag) (attached : Option String) : Except UsageError Given :=
  match f.kind with
  | .help => do
    let _ ← g.settle
    throw .displayHelp
  | .version => do
    let _ ← g.settle
    throw .displayVersion
  | .flag => do (← g.settle).add f ""
  | .text | .path => do
    match attached with
    | some value => (← g.settle).add f value
    | none => return { (← g.settle) with pending := some (f, none) }

end Given

def readLong (flags : List Flag) (g : Given) (name : String) (attached : Option String) :
    Except UsageError Given :=
  match flags.find? fun f => f.long == name with
  | none => .error .unknownArgument
  | some f =>
    match f.kind, attached with
    | .text, _ | .path, _ | _, none => g.meet f attached
    | _, some _ => .error .tooManyValues

/-- Reads the letters of an argument that begins with one hyphen. What stands behind the letter of an
option that takes a value is the value. -/
def readShort (flags : List Flag) : Given → List Char → Except UsageError Given
  | g, [] => .ok g
  | g, c :: rest =>
    match flags.find? fun f => f.short == some c with
    | none => .error .unknownArgument
    | some f =>
      match f.kind with
      | .text | .path =>
        match rest with
        | [] => g.meet f none
        | '=' :: value => g.meet f (some (String.ofList value))
        | value => g.meet f (some (String.ofList value))
      | _ => do readShort flags (← g.meet f none) rest

/-- How an argument looks. -/
inductive Shape where
  /-- two hyphens, behind which there are no options -/
  | escape
  | long (name : String) (attached : Option String)
  | short (letters : List Char)
  | plain (text : String)

def Shape.of (arg : String) : Shape :=
  match arg.toList with
  | ['-', '-'] => .escape
  | '-' :: '-' :: rest =>
    let name := rest.takeWhile (· != '=')
    match rest.drop name.length with
    | [] => .long (String.ofList name) none
    | _ :: value => .long (String.ofList name) (some (String.ofList value))
  | '-' :: c :: rest => .short (c :: rest)
  | _ => .plain arg

/-- Reads the options of a command. A command takes nothing but options. -/
def readOptions (flags : List Flag) : Given → List String → Except UsageError Given
  | g, [] => g.settle
  | g, arg :: rest =>
    match Shape.of arg with
    | .escape => if rest.isEmpty then g.settle else .error .unknownArgument
    | .long name attached => do readOptions flags (← readLong flags g name attached) rest
    | .short letters => do readOptions flags (← readShort flags g letters) rest
    | .plain text =>
      match g.pending with
      | some (f, none) => readOptions flags { g with pending := some (f, some text) } rest
      | _ => .error .unknownArgument

def commandNames : List String := ["compile", "route", "help"]

/-- Help for a command; commands have no commands of their own. -/
def readHelp : List String → UsageError
  | [] => .displayHelp
  | [name] => if commandNames.contains name then .displayHelp else .invalidCommand
  | _ => .invalidCommand

def configVariable : String := "WAYMARK_CONFIG"

/-- The configuration file of one place: given there, or else by the environment, where it must not
be empty. -/
def configOf (env : Environment) (g : Given) : Except UsageError (Option String) :=
  match g.value? configFlag.long, env configVariable with
  | some path, _ => .ok (some path)
  | none, some "" => .error .invalidValue
  | none, path => .ok path

def required (g : Given) (long : String) : Except UsageError String :=
  match g.value? long with
  | some value => .ok value
  | none => .error .missingArgument

def readCommand (env : Environment) (name : String) (args : List String) :
    Except UsageError (Command × Given) :=
  if name == "compile" then do
    let g ← readOptions compileFlags {} args
    let _ ← configOf env g
    let catalog ← required g "catalog"
    return (.compile catalog (g.value? "owner") (g.value? "json").isSome, g)
  else do
    let g ← readOptions routeFlags {} args
    let _ ← configOf env g
    let catalog ← required g "catalog"
    let path ← required g "path"
    return (.route catalog ((g.value? "method").getD "GET") path, g)

def noCommand (env : Environment) (g : Given) : Except UsageError Invocation := do
  let g ← g.settle
  match ← configOf env g with
  | none => throw .displayHelpOnMissing
  | some _ => throw .missingCommand

/-- Reads the options of a command that was met, and settles those in front of it. -/
def withCommand (env : Environment) (g : Given) (name : String) (args : List String) :
    Except UsageError Invocation := do
  let (command, inner) ← readCommand env name args
  let config ← configOf env (← g.settle)
  match inner.value? configFlag.long with
  | some path => return { config := some path, command }
  | none => return { config, command }

/-- Reads the options of the program, the command and its options. Behind two hyphens there is no
command any more. -/
def readProgram (env : Environment) : Given → List String → Except UsageError Invocation
  | g, [] => noCommand env g
  | g, arg :: rest =>
    match Shape.of arg with
    | .escape =>
      match rest with
      | [] => noCommand env g
      | name :: _ =>
        if commandNames.contains name then .error .unknownArgument else .error .invalidCommand
    | .long name attached => do readProgram env (← readLong programFlags g name attached) rest
    | .short letters => do readProgram env (← readShort programFlags g letters) rest
    | .plain text =>
      match g.pending with
      | some (f, none) => readProgram env { g with pending := some (f, some text) } rest
      | _ =>
        if text == "help" then .error (readHelp rest)
        else if commandNames.contains text then withCommand env g text rest
        else .error .invalidCommand

end CommandLine

def Invocation.parse (env : Environment) (args : List String) : Except UsageError Invocation :=
  CommandLine.readProgram env {} args

end Routebook
