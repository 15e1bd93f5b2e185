import HtmlTree.Edit

namespace HtmlTree

namespace Forest

-- The nodes that a node's links lead to.
def links (f : Forest) (n : NodeId) : List NodeId :=
  ((f.content n).toList ++ (f.children n).getD [] ++ (f.parent n).toList).filter f.known

-- Everything that links lead to from the pending nodes, each once, in the order of discovery.
def closure (f : Forest) : Nat → List NodeId → List NodeId → List NodeId
  | 0, found, _ => found.reverse
  | _ + 1, found, [] => found.reverse
  | fuel + 1, found, n :: pending =>
    if found.contains n then closure f fuel found pending
    else closure f fuel (n :: found) (f.links n ++ pending)

-- A bound for the steps of the search: every node is expanded once and every link followed once.
def linkCount (f : Forest) : Nat :=
  f.nodes.foldl (fun total node => total + 3 + (node.children.getD []).length) 1

-- The nodes that belong to a copy of `n`. The link to its own parent is not followed.
def copied (f : Forest) (n : NodeId) : List NodeId :=
  let cut := f.setParent n none
  cut.closure (cut.linkCount + 1) [] [n]

-- Where a node's copy goes; a node that is not copied stands for itself.
def rename (sources : List NodeId) (base : Nat) (n : NodeId) : NodeId :=
  match sources.idxOf? n with
  | some i => base + i
  | none => n

-- A copy is linked to copies. Its table of attributes is a copy too, which it has in common with
-- those copies whose originals have one table.
def renamed (sources : List NodeId) (base tables : Nat) (node : Node) : Node :=
  { node with
    table := node.table.map (tables + ·)
    parent := node.parent.map (rename sources base)
    children := node.children.map (·.map (rename sources base))
    content := node.content.map (rename sources base) }

-- The forest with copies of these nodes, links among them included, and the first copy.
def cloneTree (f : Forest) (n : NodeId) : NodeId × Forest :=
  let cut := f.setParent n none
  let sources := f.copied n
  let copies := sources.map fun m => renamed sources f.size f.nextTable (cut.node m)
  (rename sources f.size n, { f with nodes := f.nodes ++ copies.toArray })

end Forest

namespace Edit

def clone (n : NodeId) : Edit NodeId := fun f =>
  let copy := f.cloneTree n
  .ok copy.1 copy.2

-- A node of the same kind with the same attributes and none of the children.
def shallowClone (n : NodeId) : Edit NodeId := do
  let node := (← get).node n
  match node.kind with
  | .text => make (.newText node.data)
  | .plain =>
    match node.name? with
    | some name => make (.newPlain name node.attrs node.data node.ns)
    | none => throw .unsupported
  | .element => make (.newElement node.name? node.attrs node.ns)
  | .template => makeTemplate node.name? node.attrs node.ns

-- Text nodes are copied alike either way.
def cloneNode (n : NodeId) (deep : Bool) : Edit NodeId := do
  if deep && ((← get).node n).kind.isBranch then clone n else shallowClone n

end Edit
end HtmlTree
