import Routebook.Regex.Flags
import Routebook.Text.Blank

/-!
# Reading an expression's text

* `Cursor` : what is left of the text, the flags in force and the group names in use;
* `Parse` : a reader that may fail;
* `peek?`, `bump`, `skipBlanks`, `bumpOver` : single steps;
* `takeAllOver` : the characters up to the first that does not pass.

In an expression with the blank-skipping flag, white space and comments from `#` to the line's end
count as absent.
-/

namespace Routebook.Regex

/-- The place that a reader has come to. -/
structure Cursor where
  rest : List Char
  flags : Flags
  names : List (List Char) := []

/-- A reader that fails where the text is no expression. -/
abbrev Parse := StateT Cursor Option

/-- Drops white space and comments; the first argument says whether a comment is open. -/
def dropBlanks : Bool → List Char → List Char
  | _, [] => []
  | true, c :: rest => dropBlanks (c != '\n') rest
  | false, c :: rest =>
    if Text.isBlank c then dropBlanks false rest
    else if c == '#' then dropBlanks true rest
    else c :: rest

def Flags.skip (f : Flags) (l : List Char) : List Char := if f.spaced then dropBlanks false l else l

def peek? : Parse (Option Char) := do return (← get).rest.head?

def peek : Parse Char := do
  match (← get).rest with
  | [] => failure
  | c :: _ => return c

def flags : Parse Flags := do return (← get).flags

def setFlags (f : Flags) : Parse Unit := modify fun s => { s with flags := f }

def bump : Parse Unit := do
  let s ← get
  match s.rest with
  | [] => failure
  | _ :: rest => set { s with rest := rest }

def skipBlanks : Parse Unit := modify fun s => { s with rest := s.flags.skip s.rest }

def bumpOver : Parse Unit := do bump; skipBlanks

/-- What stands behind a given mark, if the mark stands first. -/
def past? (mark l : List Char) : Option (List Char) :=
  if mark.isPrefixOf l then some (l.drop mark.length) else none

def bumpIf (mark : List Char) : Parse Bool := do
  let s ← get
  match past? mark s.rest with
  | some rest =>
    set { s with rest := rest }
    return true
  | none => return false

/-- Goes past the first of some marks that stands next and tells which it was. -/
def bumpFirst? {α : Type} : List (List Char × α) → Parse (Option α)
  | [] => return none
  | (mark, a) :: rest => do
    if ← bumpIf mark then return some a
    else bumpFirst? rest

def skipWhite : Parse Unit := modify fun s => { s with rest := s.rest.dropWhile Text.isBlank }

/-- The characters up to the first that does not pass, with blanks skipped in between. -/
def takeOver (pass : Char → Bool) : Nat → Parse (List Char)
  | 0 => return []
  | fuel + 1 => do
    match ← peek? with
    | none => return []
    | some c =>
      if pass c then
        bumpOver
        return c :: (← takeOver pass fuel)
      else return []

def takeAllOver (pass : Char → Bool) : Parse (List Char) := do
  takeOver pass (← get).rest.length

/-- The first character of a text, blanks aside. A comment hides its `#` only, and where nothing but
blanks is left, the first of them counts. -/
def Flags.first? (f : Flags) (l : List Char) : Option Char :=
  if f.spaced then
    let found := match l.dropWhile Text.isBlank with
      | '#' :: l => l.dropWhile Text.isBlank
      | l => l
    (if found.isEmpty then l else found).head?
  else l.head?

/-- A decimal number below `2 ^ 32` with white space around it. -/
def decimal? : Parse (Option Nat) := do
  skipWhite
  let ds ← takeAllOver Char.isDigit
  skipWhite
  if ds.isEmpty then return none
  let n := ds.foldl (fun n c => n * 10 + (c.toNat - 48)) 0
  guard (n < 1 <<< 32)
  return some n

end Routebook.Regex
