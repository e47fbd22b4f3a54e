import Routebook.Event
import Routebook.Text.Ascii
import Routebook.Text.Blank
import Routebook.Unicode.Class

/-!
# Log filters

A filter is a list of directives, each of which admits reports up to a level. A directive is about
all targets or about those that begin with its own; the longest that applies decides.

* `Directive.parse?` : reads a directive;
* `Filter.add`, `Filter.parse?` : build a filter;
* `Filter.admits` : a report of a level at a target is let through.
-/

namespace Routebook.Logging

/-- How many levels are admitted: none, only errors, and so on down to traces. -/
inductive Verbosity where
  | off
  | error
  | warn
  | info
  | debug
  | trace
deriving DecidableEq, Repr

namespace Verbosity

def all : List Verbosity := [off, error, warn, info, debug, trace]

def rank : Verbosity → Nat
  | off => 0
  | error => 1
  | warn => 2
  | info => 3
  | debug => 4
  | trace => 5

def name : Verbosity → String
  | off => "OFF"
  | error => "ERROR"
  | warn => "WARN"
  | info => "INFO"
  | debug => "DEBUG"
  | trace => "TRACE"

/-- The least verbosity that admits a level. -/
def ofLevel : Level → Verbosity
  | .trace => trace
  | .debug => debug
  | .info => info
  | .warn => warn
  | .error => error

/-- The number that digits write, a plus sign in front included. -/
def number? (s : List Char) : Option Nat :=
  let ds := match s with
    | '+' :: ds => ds
    | ds => ds
  if ds.isEmpty || !ds.all Char.isDigit then none
  else some (ds.foldl (fun n c => n * 10 + (c.toNat - 48)) 0)

/-- Reads a verbosity: its place in the order, its name in any case, or nothing for errors. -/
def parse? (text : String) : Option Verbosity :=
  match number? text.toList with
  | some n => all.find? fun v => v.rank == n
  | none => if text == "" then some error else all.find? fun v => Text.sameText v.name text

end Verbosity

/-- What is admitted at the targets that begin with a text. -/
structure Directive where
  target : Option String
  verbosity : Verbosity
  /-- the directive is about reports inside of a span only -/
  spanned : Bool := false
  /-- the fields that a report must have -/
  fields : List String := []
deriving DecidableEq, Repr

namespace Directive

/-- A character with which a target or a level may begin. -/
def isStart (c : Char) : Bool :=
  c == '-' || c == ':' || c == '_' || c.isAlphanum || (c.toNat > 0x7F && isLetterOrNumber c)
where
  /-- A letter or number of any script. -/
  isLetterOrNumber (c : Char) : Bool :=
    ((Unicode.property? "alphabetic").any (·.mem c)) ||
      (["nd", "nl", "no"].filterMap Unicode.category?).any (·.mem c)

/-- The level behind an equals sign: everything where it is missing. -/
def level? (s : List Char) : Option Verbosity :=
  if s.isEmpty then some .trace else Verbosity.parse? (String.ofList s)

/-- Reads what follows a target or a span: nothing, or a level. -/
def tail? (s : List Char) : Option Verbosity :=
  match s with
  | [] => some .trace
  | '=' :: level => level? level
  | _ => none

/-- The name of a field, without the value that it must have. -/
def fieldName (s : List Char) : List Char := s.takeWhile (· != '=')

/-- Reads a span in brackets: its name, and fields in braces of which none is empty. The result says
whether it binds a name or a value, and holds the names of the fields. -/
def span? (s : List Char) : Option (Bool × List String × List Char) :=
  let name := s.takeWhile fun c => c != ']' && c != '\x7b'
  match s.drop name.length with
  | ']' :: rest => some (true, [], rest)
  | '\x7b' :: rest =>
    let inner := rest.takeWhile (· != '\x7d')
    let fields := List.splitOn ',' inner
    match rest.drop inner.length with
    | '\x7d' :: ']' :: rest =>
      if fields.any List.isEmpty then none
      else
        let valued := fields.any fun f => f.contains '='
        some (!name.isEmpty || valued, fields.map fun f => String.ofList (fieldName f), rest)
    | _ => none
  | _ => none

/-- A directive that consists of a target alone, blanks around it included. -/
def bareTarget? (text : String) : Option Directive :=
  match Text.trimList text.toList with
  | [] => none
  | c :: rest =>
    if isStart c && !(c :: rest).any (fun c => c == '=' || c == '[') then
      some { target := some text, verbosity := .trace }
    else none

def parseTrimmed? (text : String) : Option Directive :=
  let s := text.toList
  match s with
  | [] => none
  | '[' :: rest => do
    let (spanned, fields, rest) ← span? rest
    return { target := none, verbosity := ← tail? rest, spanned, fields }
  | c :: _ =>
    if !isStart c then none
    else
      let target := s.takeWhile fun c => c != '=' && c != '['
      match s.drop target.length with
      | [] =>
        match Verbosity.parse? text with
        | some v => some { target := none, verbosity := v }
        | none => some { target := some text, verbosity := .trace }
      | '=' :: level => do
        return { target := some (String.ofList target), verbosity := ← level? level }
      | _ :: rest => do
        let (spanned, fields, rest) ← span? rest
        return { target := some (String.ofList target), verbosity := ← tail? rest, spanned, fields }

/-- Reads a directive: a level, a target, or a target or span with a level. A target without a level
admits everything. With blanks around it only a target makes sense. -/
def parse? (text : String) : Option Directive :=
  if Text.trim text == text then parseTrimmed? text else bareTarget? text

def covers (d : Directive) (target : String) : Bool :=
  !d.spanned && d.fields.isEmpty &&
    match d.target with
    | some start => start.toList.isPrefixOf target.toList
    | none => true

/-- How much of a target a directive fixes. -/
def weight (d : Directive) : Nat :=
  match d.target with
  | some t => t.utf8ByteSize + 1
  | none => 0

/-- Both directives are about the same reports. -/
def sameScope (d e : Directive) : Bool :=
  d.target == e.target && d.spanned == e.spanned && d.fields == e.fields

end Directive

/-- A list of directives, no two about the same reports. -/
abbrev Filter := List Directive

namespace Filter

/-- Adds a directive; it replaces the one about the same reports. -/
def add (f : Filter) (d : Directive) : Filter :=
  f.filter (fun e => !d.sameScope e) ++ [d]

def ofList (ds : List Directive) : Filter := ds.foldl add []

/-- The directive that decides about a target: the one with the longest target of its own. -/
def decisive? (f : Filter) (target : String) : Option Directive :=
  (f.filter fun d => d.covers target).foldl (fun best d =>
    match best with
    | some b => if b.weight < d.weight then some d else some b
    | none => some d) none

/-- The verbosity at a target; without a directive nothing is admitted. -/
def verbosityAt (f : Filter) (target : String) : Verbosity :=
  match f.decisive? target with
  | some d => d.verbosity
  | none => .off

def admits (f : Filter) (target : String) (level : Level) : Bool :=
  (Verbosity.ofLevel level).rank ≤ (f.verbosityAt target).rank

/-- The filter that lets nothing through. -/
def closed : Filter := [{ target := none, verbosity := .off }]

/-- Reads directives between commas; empty ones are passed over. Without any, nothing is let
through. -/
def parse? (text : String) : Option Filter := do
  let pieces := ((List.splitOn ',' text.toList).map String.ofList).filter (· != "")
  let ds ← pieces.mapM Directive.parse?
  return if ds.isEmpty then closed else ofList ds

end Filter

end Routebook.Logging
