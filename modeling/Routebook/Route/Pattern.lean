import Routebook.Route.Value

/-!
# URL patterns

A pattern is a list of segments between slashes: a literal text, a parameter `{name}`, or in last
place a catch-all `{*name}`.

* `trimPath` : the path without a tilde in front and slashes at its ends;
* `UrlPattern.parse` : reads a pattern; `Segment.render`, `UrlPattern.render` write it;
* `UrlPattern.matches?` : the values of a path that fits.
-/

namespace Routebook

open Text (sameText)

/-- A segment of a pattern. -/
inductive Segment where
  | literal (text : String)
  | param (name : String)
  | catchAll (name : String)
deriving DecidableEq, Repr

/-- Why a text is no pattern. -/
inductive PatternError where
  | emptySegment
  | badParameter (segment : String)
  | earlyCatchAll (segment : String)
  | repeatedParameter (name : String)
  | complexSegment (segment : String)
deriving DecidableEq, Repr

def PatternError.message : PatternError → String
  | .emptySegment => "empty segment"
  | .badParameter s => "invalid parameter segment '" ++ s ++ "'"
  | .earlyCatchAll s => "catch-all '" ++ s ++ "' must be the last segment"
  | .repeatedParameter n => "parameter '" ++ n ++ "' appears more than once"
  | .complexSegment s => "complex segment '" ++ s ++ "' is not supported"

/-- The characters of a path without one tilde in front and without slashes at either end. -/
def trimPathList (path : List Char) : List Char :=
  let path := match path with
    | '~' :: rest => rest
    | path => path
  ((path.dropWhile (· == '/')).reverse.dropWhile (· == '/')).reverse

def trimPath (path : String) : String := String.ofList (trimPathList path.toList)

namespace Segment

/-- The name of a parameter or catch-all. -/
def name? : Segment → Option String
  | .literal _ => none
  | .param n => some n
  | .catchAll n => some n

def hasName (name : String) (s : Segment) : Bool := s.name?.any (sameText · name)

def render : Segment → String
  | .literal s => s
  | .param n => "\x7b" ++ n ++ "\x7d"
  | .catchAll n => "\x7b*" ++ n ++ "\x7d"

def isBrace (c : Char) : Bool := c == '\x7b' || c == '\x7d'

/-- The text between a brace in front and a brace at the end. -/
def inner? : List Char → Option (List Char)
  | '\x7b' :: rest => if rest.getLast? == some '\x7d' then some rest.dropLast else none
  | _ => none

/-- Reads one segment; `before` are the segments in front of it, and only in last place may it be a
catch-all. -/
def parse (before : List Segment) (last : Bool) (piece : List Char) :
    Except PatternError Segment :=
  if piece.isEmpty then .error .emptySegment
  else
    match inner? piece with
    | some inner =>
      let (catching, name) := match inner with
        | '*' :: name => (true, name)
        | name => (false, name)
      if name.isEmpty || name.any (fun c => isBrace c || c == '*') then
        .error (.badParameter (String.ofList piece))
      else if catching && !last then .error (.earlyCatchAll (String.ofList piece))
      else
        let name := String.ofList name
        if before.any (hasName name) then .error (.repeatedParameter name)
        else .ok (if catching then .catchAll name else .param name)
    | none =>
      if piece.any isBrace then .error (.complexSegment (String.ofList piece))
      else .ok (.literal (String.ofList piece))

def parseAll (before : List Segment) : List (List Char) → Except PatternError (List Segment)
  | [] => .ok before
  | piece :: rest =>
    match parse before rest.isEmpty piece with
    | .error e => .error e
    | .ok s => parseAll (before ++ [s]) rest

end Segment

/-- A URL pattern. -/
structure UrlPattern where
  segments : List Segment
deriving DecidableEq, Repr

/-- The pieces of a path between its slashes; the empty path has none. -/
def pathPieces (path : List Char) : List (List Char) :=
  if path.isEmpty then [] else List.splitOn '/' path

namespace UrlPattern

def parse (url : String) : Except PatternError UrlPattern :=
  match Segment.parseAll [] (pathPieces (trimPathList url.toList)) with
  | .error e => .error e
  | .ok segments => .ok ⟨segments⟩

def render (p : UrlPattern) : String :=
  String.ofList (['/'].intercalate (p.segments.map fun s => s.render.toList))

def endsInCatchAll (p : UrlPattern) : Bool :=
  match p.segments.getLast? with
  | some (.catchAll _) => true
  | _ => false

/-- Matches segments with the pieces of a path. A parameter without a piece needs a default. A
catch-all takes all pieces that are left; with none left it is optional unless it has a default. -/
def bind? (defaults : RouteValues) : List Segment → List (List Char) → RouteValues →
    Option RouteValues
  | [], _, values => some values
  | .literal text :: segments, pieces, values =>
    match pieces with
    | [] => none
    | piece :: pieces =>
      if sameText (String.ofList piece) text then bind? defaults segments pieces values else none
  | .param name :: segments, pieces, values =>
    match pieces with
    | [] => if defaults.contains name then bind? defaults segments [] values else none
    | piece :: pieces =>
      if piece.isEmpty then none
      else bind? defaults segments pieces (values.insert name (.ofText (String.ofList piece)))
  | .catchAll name :: segments, pieces, values =>
    let rest := ['/'].intercalate pieces
    let values :=
      if !rest.isEmpty then values.insert name (.ofText (String.ofList rest))
      else if defaults.contains name then values
      else values.insert name .optional
    bind? defaults segments [] values

/-- The values of a normalised path that fits the pattern: the defaults overlaid with what the path
supplies. -/
def matches? (p : UrlPattern) (path : String) (defaults : RouteValues) : Option RouteValues :=
  let pieces := pathPieces path.toList
  if !p.endsInCatchAll && p.segments.length < pieces.length then none
  else bind? defaults p.segments pieces defaults

end UrlPattern

end Routebook
