import Routebook.Config.Basic
import Routebook.Failure
import Routebook.Catalog.Text

/-!
# Configuration texts

A configuration is written in TOML: lines with a key, an equals sign and a string. All settings are
strings at the top level, so everything else that TOML allows is an error here.

* `TomlString.read?` : a string in one of the four forms;
* `Config.parse`, `Config.load` : the configuration of a text and of a file.
-/

namespace Routebook

namespace TomlString

def isBlank (c : Char) : Bool := c == ' ' || c == '\t'

/-- A character that may stand in a line: no control character but the tab. -/
def isPermitted (c : Char) : Bool := c == '\t' || (0x20 ≤ c.toNat && c.toNat != 0x7F)

def newline? : List Char → Option (List Char)
  | '\n' :: rest => some rest
  | '\r' :: '\n' :: rest => some rest
  | _ => none

def skipNewline (s : List Char) : List Char := (newline? s).getD s

/-- Steps over the blanks and line breaks behind a backslash at the end of a line. -/
def skipFold : Nat → List Char → List Char
  | 0, s => s
  | fuel + 1, s =>
    match s.dropWhile isBlank with
    | rest =>
      match newline? rest with
      | some rest => skipFold fuel rest
      | none => rest

def escaped? : Char → Option Char
  | 'b' => some '\x08'
  | 'e' => some '\x1b'
  | 'f' => some '\x0c'
  | 'n' => some '\n'
  | 'r' => some '\r'
  | 't' => some '\t'
  | '"' => some '"'
  | '\\' => some '\\'
  | _ => none

/-- How many hexadecimal digits follow the letter of an escape. -/
def escapeDigits? : Char → Option Nat
  | 'x' => some 2
  | 'u' => some 4
  | 'U' => some 8
  | _ => none

def readEscape? : List Char → Option (Char × List Char)
  | [] => none
  | a :: rest =>
    match escapeDigits? a with
    | some n =>
      if rest.length < n then none
      else ((Decimal.readNat? 16 (rest.take n)).bind Yaml.charOf?).map (·, rest.drop n)
    | none => (escaped? a).map (·, rest)

def readLine? (quote : Char) : Nat → List Char → List Char → Option (List Char × List Char)
  | 0, _, _ => none
  | fuel + 1, acc, s =>
    match s with
    | [] => none
    | a :: rest =>
      if a == quote then some (acc, rest)
      else if a == '\\' && quote == '"' then
        match readEscape? rest with
        | some (e, rest) => readLine? quote fuel (acc ++ [e]) rest
        | none => none
      else if isPermitted a then readLine? quote fuel (acc ++ [a]) rest
      else none

/-- Reads a string on several lines behind its opening quotes. Three quotes end it, and one or two
more in front of them belong to the text. -/
def readLines? (quote : Char) : Nat → List Char → List Char → Option (List Char × List Char)
  | 0, _, _ => none
  | fuel + 1, acc, s =>
    match newline? s with
    | some rest => readLines? quote fuel (acc ++ ['\n']) rest
    | none =>
      match s with
      | [] => none
      | a :: rest =>
        if a == quote then
          let n := (s.takeWhile (· == quote)).length
          if n < 3 then readLines? quote fuel (acc ++ List.replicate n quote) (s.drop n)
          else if n ≤ 5 then some (acc ++ List.replicate (n - 3) quote, s.drop n)
          else none
        else if a == '\\' && quote == '"' then
          match newline? (rest.dropWhile isBlank) with
          | some _ => readLines? quote fuel acc (skipFold (rest.length + 1) rest)
          | none =>
            match readEscape? rest with
            | some (e, rest) => readLines? quote fuel (acc ++ [e]) rest
            | none => none
        else if isPermitted a then readLines? quote fuel (acc ++ [a]) rest
        else none

def read? (s : List Char) : Option (String × List Char) :=
  let text (r : Option (List Char × List Char)) := r.map fun r => (String.ofList r.1, r.2)
  match s with
  | '"' :: '"' :: '"' :: rest => text (readLines? '"' (rest.length + 1) [] (skipNewline rest))
  | '\'' :: '\'' :: '\'' :: rest => text (readLines? '\'' (rest.length + 1) [] (skipNewline rest))
  | '"' :: rest => text (readLine? '"' (rest.length + 1) [] rest)
  | '\'' :: rest => text (readLine? '\'' (rest.length + 1) [] rest)
  | _ => none

def isBare (c : Char) : Bool := c.isAlphanum || c == '_' || c == '-'

/-- Reads a key: bare, or a string on one line. -/
def readKey? (s : List Char) : Option (String × List Char) :=
  match s with
  | '"' :: rest => (readLine? '"' (rest.length + 1) [] rest).map fun r => (String.ofList r.1, r.2)
  | '\'' :: rest => (readLine? '\'' (rest.length + 1) [] rest).map fun r => (String.ofList r.1, r.2)
  | s =>
    let key := s.takeWhile isBare
    if key.isEmpty then none else some (String.ofList key, s.drop key.length)

def restOfLine? (s : List Char) : Option (List Char) :=
  match s.dropWhile isBlank with
  | [] => some []
  | '#' :: rest =>
    match rest.dropWhile isPermitted with
    | [] => some []
    | rest => newline? rest
  | rest => newline? rest

end TomlString

namespace Config

open TomlString

def readSetting? (s : List Char) : Option (String × String × List Char) := do
  let (key, rest) ← readKey? s
  match rest.dropWhile isBlank with
  | '=' :: rest =>
    let (value, rest) ← TomlString.read? (rest.dropWhile isBlank)
    return (key, value, rest)
  | _ => none

def readSettings? : Nat → List Char → Option (List (String × String))
  | 0, _ => none
  | fuel + 1, s =>
    match s.dropWhile isBlank with
    | [] => some []
    | rest =>
      match restOfLine? rest with
      | some rest => readSettings? fuel rest
      | none => do
        let (key, value, rest) ← readSetting? rest
        return (key, value) :: (← readSettings? fuel (← restOfLine? rest))

def settingNames : List String :=
  ["owner_key", "handler_key", "verb_constraint_key", "owner_suffix"]

/-- The configuration of settings, each known and none there twice. -/
def ofSettings? (settings : List (String × String)) : Option Config :=
  if settings.all (fun s => settingNames.contains s.1) && Source.distinct settings then
    let get (name : String) : Option String := Source.field? name settings
    some {
      ownerKey := (get "owner_key").getD standard.ownerKey
      handlerKey := (get "handler_key").getD standard.handlerKey
      verbKey := (get "verb_constraint_key").getD standard.verbKey
      ownerSuffix := get "owner_suffix" }
  else none

def ofText? (text : String) : Option Config :=
  let s := match text.toList with
    | '\ufeff' :: rest => rest
    | s => s
  (readSettings? (s.length + 1) s).bind ofSettings?

def parse (text : String) : Except Failure Config :=
  match ofText? text with
  | some c => .ok c
  | none => .error { cause := .toml }

def load (files : Files) (path : String) : Except Failure Config :=
  match files path with
  | some text => duringActivity (.decodingConfig path) (parse text)
  | none => .error { activities := [.readingConfig path], cause := .file }

end Config

end Routebook
