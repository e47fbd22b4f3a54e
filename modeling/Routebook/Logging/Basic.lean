import Routebook.Config.Basic
import Routebook.Logging.Filter

/-!
# Logging

* `Settings` : the settings; `Settings.ofEnv` takes them from the environment;
* `Settings.filter` : which reports are written, and the directives that make no sense;
* `install` : sets up logging, which can be done only once.
-/

namespace Routebook.Logging

/-- How reports are written. -/
inductive Layout where
  | json
  | pretty
deriving DecidableEq, Repr

namespace Layout

/-- The format of a name in any case; an unknown one means JSON. -/
def parse (text : String) : Layout := if Text.sameText text "pretty" then .pretty else .json

def name : Layout → String
  | .json => "json"
  | .pretty => "pretty"

end Layout

/-- The settings of logging. -/
structure Settings where
  level : String := "info"
  format : Layout := .json
  /-- directives on top of the level -/
  targets : Option String := none
  /-- reports say where they come from -/
  location : Bool := false
deriving DecidableEq, Repr

namespace Settings

def development : Settings where
  level := "debug"
  format := .pretty
  location := true

def ofEnv (env : Environment) : Settings where
  level := (env "WAYMARK_LOG_LEVEL").getD "info"
  format := .parse ((env "WAYMARK_LOG_FORMAT").getD "json")
  targets := env "WAYMARK_LOG_TARGET_FILTER"
  location := env "WAYMARK_LOG_INCLUDE_LOCATION" == some "true"

/-- The verbosity of the level's name; an unknown name means `info`. -/
def verbosity (c : Settings) : Verbosity :=
  let known : List Verbosity := [.trace, .debug, .warn, .error]
  (known.find? fun v => Text.sameText v.name c.level).getD .info

/-- The filter without the directives for targets: that of the environment if it makes sense, or else
one for the level. -/
def base (env : Environment) (c : Settings) : Filter :=
  match (env "RUST_LOG").bind Filter.parse? with
  | some f => f
  | none => [{ target := none, verbosity := c.verbosity }]

/-- Adds directives, and sets those aside that make no sense. -/
def addTargets : List String → Filter → Filter × List String
  | [], f => (f, [])
  | text :: rest, f =>
    let text := Text.trim text
    if text == "" then addTargets rest f
    else
      match Directive.parse? text with
      | some d => addTargets rest (f.add d)
      | none =>
        let (f, refused) := addTargets rest f
        (f, text :: refused)

/-- The filter, and the directives that make no sense. -/
def filter (env : Environment) (c : Settings) : Filter × List String :=
  match c.targets with
  | some text => addTargets ((List.splitOn ',' text.toList).map String.ofList) (c.base env)
  | none => (c.base env, [])

end Settings

def warning (directive : String) : String :=
  "Warning: Invalid log filter directive: " ++ directive

def installError : String := "Failed to initialize logging"

/-- Logging as it was set up. -/
structure Logger where
  filter : Filter
  format : Layout
  location : Bool

/-- The result of setting logging up: the logger in place, the warnings, and what went wrong. -/
structure Installation where
  logger : Logger
  warnings : List String
  error : Option String

/-- Sets logging up. Where that was done before, the old logger stays. -/
def install (env : Environment) (c : Settings) (before : Option Logger) : Installation :=
  let (filter, refused) := c.filter env
  let warnings := refused.map warning
  match before with
  | none => ⟨⟨filter, c.format, c.location⟩, warnings, none⟩
  | some logger => ⟨logger, warnings, some installError⟩

end Routebook.Logging
