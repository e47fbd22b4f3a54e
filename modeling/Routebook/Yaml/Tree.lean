import Routebook.Yaml.Token.Scan

/-!
# The tree of a YAML text

* `Tree` : a node whose aliases still stand for the nodes they name;
* `Tree.Builder` : what is known while a tree is built from tokens;
* `Document.ofText?` : the one document of a text.
-/

namespace Routebook.Yaml

/-- A node as written. -/
inductive Tree where
  | scalar (tag : Option String) (text : String) (plain : Bool)
  | seq (tag : Option String) (items : List Tree)
  | map (tag : Option String) (entries : List (Tree × Tree))
  /-- stands for the node under a number -/
  | alias (number : Nat)

namespace Tree

instance : Inhabited Tree := ⟨.scalar none "" true⟩

/-- A node that may be named by an alias: its number, its place among all nodes, and itself. -/
structure Target where
  number : Nat
  place : Nat
  tree : Tree

/-- What is known while a tree is built. -/
structure Builder where
  tokens : List Token
  /-- what each handle stands for in tags -/
  handles : List (String × String)
  /-- the number of each anchor's name -/
  anchors : List (String × Nat) := []
  targets : List Target := []
  /-- how many starts and ends of nodes were met -/
  steps : Nat := 0

/-- A step of building, which may fail. -/
abbrev Build := StateT Builder Option

namespace Build

def peek : Build (Option Token) := do return (← get).tokens.head?

def advance : Build Unit := modify fun b => { b with tokens := b.tokens.tail }

def step : Build Unit := modify fun b => { b with steps := b.steps + 1 }

def accept (t : Token) : Build Bool := do
  if (← peek) == some t then
    advance
    return true
  else return false

/-- A scalar that is not written. -/
def missing (tag : Option String := none) : Build Tree := do
  step
  return .scalar tag "" true

def tagOf (handle suffix : String) : Build String := do
  if handle == "" then return suffix
  else
    match (← get).handles.find? fun h => h.1 == handle with
    | some (_, start) => return start ++ suffix
    | none => failure

/-- Reads the anchor and the tag of a node, in either order. -/
def properties : Build (Option String × Option String) := do
  match ← peek with
  | some (.anchor name) =>
    advance
    match ← peek with
    | some (.tag handle suffix) =>
      advance
      return (some name, some (← tagOf handle suffix))
    | _ => return (some name, none)
  | some (.tag handle suffix) =>
    advance
    match ← peek with
    | some (.anchor name) =>
      advance
      return (some name, some (← tagOf handle suffix))
    | _ => return (none, some (← tagOf handle suffix))
  | _ => return (none, none)

/-- Gives a name the number that follows those of the other names. -/
def number (name : String) : Build Nat := do
  let b ← get
  let n := b.anchors.length
  set { b with anchors := (name, n) :: b.anchors.filter fun a => a.1 != name }
  return n

def addTarget (t : Target) : Build Unit := modify fun b => { b with targets := t :: b.targets }

def aliasOf (name : String) : Build Tree := do
  match (← get).anchors.find? fun a => a.1 == name with
  | some (_, n) => return .alias n
  | none => failure

/-- The next token is one of those after which a block node is missing. -/
def noBlockNode (ends : List Token) : Build Bool := do
  return (← peek).any ends.contains

mutual

/-- Builds a node. Block collections are allowed or not; a sequence may stand at the column of the
mapping around it. -/
def node : Nat → Bool → Bool → Build Tree
  | 0, _, _ => failure
  | fuel + 1, block, atColumn => do
    match ← peek with
    | some (.alias name) =>
      advance
      step
      aliasOf name
    | _ =>
      let (anchor, tag) ← properties
      let place := (← get).steps
      let n ← anchor.mapM number
      let tree ← content fuel block atColumn (anchor.isSome || tag.isSome) tag
      match n with
      | some n => addTarget ⟨n, place, tree⟩
      | none => pure ()
      return tree

def content : Nat → Bool → Bool → Bool → Option String → Build Tree
  | 0, _, _, _, _ => failure
  | fuel + 1, block, atColumn, hasProperties, tag => do
    match ← peek with
    | some .blockEntry =>
      if atColumn then
        step
        let items ← columnItems fuel
        step
        return .seq tag items
      else if hasProperties then missing tag
      else failure
    | some (.scalar text plain) =>
      advance
      step
      return .scalar (if tag == some "!" then none else tag) text plain
    | some .flowSequenceStart =>
      advance
      step
      let items ← flowItems fuel true
      step
      return .seq tag items
    | some .flowMappingStart =>
      advance
      step
      let entries ← flowEntries fuel true
      step
      return .map tag entries
    | some .blockSequenceStart =>
      if block then
        advance
        step
        let items ← blockItems fuel
        step
        return .seq tag items
      else if hasProperties then missing tag
      else failure
    | some .blockMappingStart =>
      if block then
        advance
        step
        let entries ← blockEntries fuel
        step
        return .map tag entries
      else if hasProperties then missing tag
      else failure
    | _ => if hasProperties then missing tag else failure

/-- Builds the items of a block sequence and takes its end. -/
def blockItems : Nat → Build (List Tree)
  | 0 => failure
  | fuel + 1 => do
    if ← accept .blockEntry then
      let item ←
        if ← noBlockNode [.blockEntry, .blockEnd] then missing else node fuel true false
      return item :: (← blockItems fuel)
    else if ← accept .blockEnd then return []
    else failure

def columnItems : Nat → Build (List Tree)
  | 0 => failure
  | fuel + 1 => do
    if ← accept .blockEntry then
      let item ←
        if ← noBlockNode [.blockEntry, .key, .value, .blockEnd] then missing
        else node fuel true false
      return item :: (← columnItems fuel)
    else return []

def blockEntries : Nat → Build (List (Tree × Tree))
  | 0 => failure
  | fuel + 1 => do
    if ← accept .key then
      let key ← blockPart fuel
      let value ← if ← accept .value then blockPart fuel else missing
      return (key, value) :: (← blockEntries fuel)
    else if ← accept .blockEnd then return []
    else failure

def blockPart : Nat → Build Tree
  | 0 => failure
  | fuel + 1 => do
    if ← noBlockNode [.key, .value, .blockEnd] then missing else node fuel true true

def flowItems : Nat → Bool → Build (List Tree)
  | 0, _ => failure
  | fuel + 1, first => do
    if ← accept .flowSequenceEnd then return []
    else
      if !first then guard (← accept .flowEntry)
      if ← accept .key then
        step
        let pair ← flowPair fuel
        step
        return .map none [pair] :: (← flowItems fuel false)
      else if ← accept .flowSequenceEnd then return []
      else
        let item ← node fuel false false
        return item :: (← flowItems fuel false)

/-- Builds the one entry of a mapping that stands as an item of a flow sequence. Where its key is
missing, the token behind is passed over. -/
def flowPair : Nat → Build (Tree × Tree)
  | 0 => failure
  | fuel + 1 => do
    let key ←
      if ← noBlockNode [.value, .flowEntry, .flowSequenceEnd] then do
        advance
        missing
      else node fuel false false
    let value ←
      if ← accept .value then
        if ← noBlockNode [.flowEntry, .flowSequenceEnd] then missing else node fuel false false
      else missing
    return (key, value)

def flowEntries : Nat → Bool → Build (List (Tree × Tree))
  | 0, _ => failure
  | fuel + 1, first => do
    if ← accept .flowMappingEnd then return []
    else
      if !first then guard (← accept .flowEntry)
      if ← accept .key then
        let key ←
          if ← noBlockNode [.value, .flowEntry, .flowMappingEnd] then missing
          else node fuel false false
        let value ←
          if ← accept .value then
            if ← noBlockNode [.flowEntry, .flowMappingEnd] then missing else node fuel false false
          else missing
        return (key, value) :: (← flowEntries fuel false)
      else if ← accept .flowMappingEnd then return []
      else
        let key ← node fuel false false
        let value ← missing
        return (key, value) :: (← flowEntries fuel false)

end

end Build

end Tree

/-- A document: its tree, the nodes that aliases name, and how many starts and ends of nodes it
has. -/
structure Document where
  root : Tree
  targets : List Tree.Target
  steps : Nat

namespace Document

open Yaml.Tree

def standardHandles : List (String × String) := [("!", "!"), ("!!", "tag:yaml.org,2002:")]

/-- Reads the directives in front of a document: at most one version, which must be 1.1 or 1.2, and
handles that differ. -/
def directives? : Bool → List (String × String) → List Token →
    Option (List (String × String) × List Token)
  | versioned, handles, .versionDirective major minor :: rest =>
    if versioned || major != 1 || (minor != 1 && minor != 2) then none
    else directives? true handles rest
  | versioned, handles, .tagDirective handle start :: rest =>
    if handles.any fun h => h.1 == handle then none
    else directives? versioned (handles ++ [(handle, start)]) rest
  | _, handles, tokens => some (handles, tokens)

/-- A token before which an explicit document is empty. -/
def isEdge : Token → Bool
  | .versionDirective .. | .tagDirective .. | .documentStart | .documentEnd => true
  | _ => false

def isOpening : Token → Bool
  | .documentEnd => false
  | t => isEdge t

/-- Builds the root of a document and checks that nothing follows but the mark of its end. -/
def build? (handles : List (String × String)) (explicit : Bool) (tokens : List Token) :
    Option Document := do
  let fuel := 4 * tokens.length + 8
  let root : Build Tree :=
    if explicit && tokens.head?.all isEdge then Build.missing else Build.node fuel true false
  let (root, b) ← root.run { tokens, handles }
  guard (b.tokens.all (· == .documentEnd))
  return ⟨root, b.targets, b.steps⟩

/-- The document of a text, or `none` inside if the text is empty. A text holds at most one
document. -/
def ofText? (text : String) : Option (Option Document) := do
  let tokens ← Token.ofText? text
  match tokens with
  | [] => return none
  | t :: _ =>
    if isOpening t then
      let (handles, rest) ← directives? false [] tokens
      guard (rest.head? == some .documentStart)
      build? (handles ++ standardHandles) true rest.tail
    else build? standardHandles false tokens

end Document

end Routebook.Yaml
