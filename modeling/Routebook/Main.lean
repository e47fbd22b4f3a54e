import Routebook.CommandLine.Run
import Routebook.Logging.Basic

/-!
# The program

Reads the arguments, the environment and the files, runs the invocation and prints its report. The
reports of the library go to the standard error output, as far as the log filter admits them.
-/

namespace Routebook

open Logging

def variableNames : List String :=
  ["WAYMARK_CONFIG", "WAYMARK_OWNER_KEY", "WAYMARK_HANDLER_KEY", "WAYMARK_VERB_CONSTRAINT_KEY",
    "WAYMARK_OWNER_SUFFIX", "WAYMARK_LOG_LEVEL", "WAYMARK_LOG_FORMAT", "WAYMARK_LOG_TARGET_FILTER",
    "WAYMARK_LOG_INCLUDE_LOCATION", "RUST_LOG"]

def Invocation.paths (i : Invocation) : List String :=
  i.config.toList ++
    match i.command with
    | .compile catalog _ _ | .route catalog _ _ => [catalog]

def Event.line (e : Event) : String :=
  (Json.obj [("level", .str e.level.name), ("target", .str e.target),
    ("fields", .obj (("message", .str e.message) :: e.fields.map fun f => (f.1, .str f.2)))]).compact

def usage : String :=
  "Usage: waymark [--config FILE] compile --catalog FILE [--owner NAME] [--json]\n" ++
  "       waymark [--config FILE] route --catalog FILE [--method METHOD] --path PATH\n"

def version : String := "waymark 0.1.0-alpha.1\n"

/-- Answers arguments that ask for nothing that can be run. -/
def UsageError.answer : UsageError → IO UInt32
  | .displayHelp => do
    IO.print usage
    return 0
  | .displayVersion => do
    IO.print version
    return 0
  | e => do
    IO.eprint ("error: " ++ e.kind ++ "\n\n" ++ usage)
    return 2

def readEnvironment : IO Environment := do
  let values ← variableNames.mapM fun name => return (name, ← IO.getEnv name)
  return fun name => (values.find? fun v => v.1 == name).bind Prod.snd

def readFiles (paths : List String) : IO Files := do
  let texts ← paths.mapM fun (path : String) => do
    try return (path, some (← IO.FS.readFile path))
    catch _ => return (path, none)
  return fun path => (texts.find? fun t => t.1 == path).bind Prod.snd

def writeEvents (logger : Logger) (events : List Event) : IO Unit :=
  events.forM fun e => do
    if logger.filter.admits e.target e.level then IO.eprintln e.line

def Invocation.perform (env : Environment) (i : Invocation) : IO UInt32 := do
  let installation := install env (.ofEnv env) none
  installation.warnings.forM fun w => IO.eprintln w
  let p := i.print (← readFiles i.paths) env
  writeEvents installation.logger p.events
  IO.print p.text
  match p.result with
  | .ok () => return 0
  | .error f =>
    IO.eprintln ("Error: " ++ f.message)
    return 1

end Routebook

open Routebook in
def main (args : List String) : IO UInt32 := do
  let env ← readEnvironment
  match Invocation.parse env args with
  | .ok i => i.perform env
  | .error e => e.answer
