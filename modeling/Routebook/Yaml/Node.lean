import Routebook.Yaml.Tree

/-!
# YAML nodes

* `Node` : a node without aliases;
* `Tree.expand?` : a tree with each alias replaced by the node it names. Nodes nest at most 128 deep,
  and aliases are followed at most a hundred times as often as there are starts and ends of nodes;
* `Node.ofText?` : the root of a text's document.
-/

namespace Routebook.Yaml

/-- A node of a document. -/
inductive Node where
  | scalar (tag : Option String) (text : String) (plain : Bool)
  | seq (tag : Option String) (items : List Node)
  | map (tag : Option String) (entries : List (Node × Node))

instance : Inhabited Node := ⟨.scalar none "" true⟩

namespace Document

/-- The node under a number: of several the one that comes last. -/
def target? (d : Document) (number : Nat) : Option Tree :=
  let found := d.targets.filter fun t => t.number == number
  let last := found.foldl (fun (best : Option Tree.Target) t =>
    match best with
    | some b => if b.place < t.place then some t else some b
    | none => some t) none
  last.map Tree.Target.tree

/-- Counts a step to the node of an alias. -/
def follow (d : Document) : StateT Nat Option Unit := do
  let n := (← get) + 1
  if d.steps * 100 < n then failure
  set n

def resolve (d : Document) : Tree → StateT Nat Option Tree
  | .alias number => do
    d.follow
    match d.target? number with
    | some t => return t
    | none => failure
  | t => return t

/-- Replaces aliases by the nodes they name; `depth` more levels of nesting are allowed. -/
def expand (d : Document) : Nat → Tree → StateT Nat Option Node
  | 0, t => do
    match ← d.resolve t with
    | .scalar tag text plain => return .scalar tag text plain
    | _ => failure
  | depth + 1, t => do
    match ← d.resolve t with
    | .scalar tag text plain => return .scalar tag text plain
    | .seq tag items => return .seq tag (← items.mapM (d.expand depth))
    | .map tag entries =>
      return .map tag (← entries.mapM fun e => do
        return (← d.expand depth e.1, ← d.expand depth e.2))
    | .alias _ => failure

def maxDepth : Nat := 128

def node? (d : Document) : Option Node := ((d.expand maxDepth d.root).run 0).map Prod.fst

end Document

/-- The root of a text's document, or `none` inside if the text is empty. -/
def Node.ofText? (text : String) : Option (Option Node) := do
  match ← Document.ofText? text with
  | none => return none
  | some d => return some (← d.node?)

end Routebook.Yaml
