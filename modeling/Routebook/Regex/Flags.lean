/-!
# Flags of a regular expression

* `Flags` : the settings in force at a place of the expression;
* `readFlags` : the settings written between `(?` and the `:` or `)` behind them.
-/

namespace Routebook.Regex

/-- The settings in force at a place of the expression. -/
structure Flags where
  /-- letters match in either case -/
  ignoreCase : Bool
  /-- `^` and `$` match at line ends -/
  multiLine : Bool
  /-- `.` matches a line end -/
  dotNewline : Bool
  /-- classes and words are those of all scripts -/
  unicode : Bool
  /-- a carriage return ends lines too -/
  crlf : Bool
  /-- blanks and comments are skipped -/
  spaced : Bool
deriving DecidableEq, Repr

/-- What one letter of a flag list stands for. -/
inductive FlagItem where
  | negation
  | ignoreCase
  | multiLine
  | dotNewline
  | swapGreed
  | unicode
  | crlf
  | spaced
deriving DecidableEq, Repr

def FlagItem.ofChar? : Char → Option FlagItem
  | '-' => some .negation
  | 'i' => some .ignoreCase
  | 'm' => some .multiLine
  | 's' => some .dotNewline
  | 'U' => some .swapGreed
  | 'u' => some .unicode
  | 'R' => some .crlf
  | 'x' => some .spaced
  | _ => none

/-- The items up to a `:` or `)`, the closing character and the rest. No item may stand twice, and a
negation needs an item behind it. -/
def readFlags : List FlagItem → List Char → Option ((List FlagItem × Char) × List Char)
  | _, [] => none
  | items, c :: rest =>
    if c == ':' || c == ')' then
      if items.getLast? == some .negation then none else some ((items, c), rest)
    else do
      let item ← FlagItem.ofChar? c
      if items.contains item then none else readFlags (items ++ [item]) rest

/-- Switches one setting. -/
def Flags.set (f : Flags) (on : Bool) : FlagItem → Flags
  | .negation => f
  | .ignoreCase => { f with ignoreCase := on }
  | .multiLine => { f with multiLine := on }
  | .dotNewline => { f with dotNewline := on }
  | .swapGreed => f
  | .unicode => { f with unicode := on }
  | .crlf => { f with crlf := on }
  | .spaced => { f with spaced := on }

/-- Applies the items: those behind a negation switch off. -/
def Flags.apply : Bool → Flags → List FlagItem → Flags
  | _, f, [] => f
  | on, f, item :: rest => apply (on && item != .negation) (f.set on item) rest

end Routebook.Regex
