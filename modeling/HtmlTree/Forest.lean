import HtmlTree.Failure
import HtmlTree.Text.Quoted

namespace HtmlTree

-- What operations have to tell about their work.
inductive Note where
  | splicing (count : Nat)
  -- with the summaries of the two, as far as they have one
  | detaching (node parent : Option String)
  | merging (count : Nat) (parent : String)
  | reported (count : Nat)
deriving DecidableEq, Repr

namespace Note

-- The sentence that tells a note. There is none about nodes that have no summary.
def text? : Note → Option String
  | .splicing count => some ("Splicing " ++ toString count ++ " fragment children")
  | .detaching (some node) (some parent) =>
    some ("Detaching " ++ node ++ " from " ++ parent ++ " before insertion")
  | .detaching _ _ => none
  | .merging count parent =>
    some ("Merging " ++ toString count ++ " adjacent text nodes in " ++ parent)
  | .reported count => some ("Parser reported " ++ toString count ++ " errors")

-- The part of the program that a note comes from.
def channel : Note → String
  | .reported _ => "justdom.parser"
  | _ => "justdom.modification"

end Note

-- All nodes made so far, and the notes taken on the way. Nodes are never deleted: one that nothing
-- refers to is simply out of reach.
structure Forest where
  nodes : Array Node
  journal : Array Note
deriving Repr, Inhabited

namespace Forest

def empty : Forest := ⟨#[], #[]⟩

def size (f : Forest) : Nat := f.nodes.size

-- Whether an identifier has been given out. A link need not lead to a node.
def known (f : Forest) (n : NodeId) : Bool := n < f.size

-- The node under an identifier. An identifier that was never given out reads as a bare text node.
def node (f : Forest) (n : NodeId) : Node := f.nodes[n]?.getD (Node.newText none)

def name (f : Forest) (n : NodeId) : String := (f.node n).name
def parent (f : Forest) (n : NodeId) : Option NodeId := (f.node n).parent
def children (f : Forest) (n : NodeId) : Option (List NodeId) := (f.node n).children
def content (f : Forest) (n : NodeId) : Option NodeId := (f.node n).content
def attrs (f : Forest) (n : NodeId) : Option Attributes := (f.node n).attrs
def data (f : Forest) (n : NodeId) : Option String := (f.node n).data

def alloc (f : Forest) (new : Node) : NodeId × Forest :=
  (f.nodes.size, { f with nodes := f.nodes.push new })

def update (f : Forest) (n : NodeId) (change : Node → Node) : Forest :=
  { f with nodes := f.nodes.modify n change }

def setParent (f : Forest) (n : NodeId) (parent : Option NodeId) : Forest :=
  f.update n ({ · with parent := parent })

def setChildren (f : Forest) (n : NodeId) (children : Option (List NodeId)) : Forest :=
  f.update n ({ · with children := children })

def setData (f : Forest) (n : NodeId) (data : Option String) : Forest :=
  f.update n ({ · with data := data })

-- Gives a node other attributes, in a table of its own.
def setAttrs (f : Forest) (n : NodeId) (attrs : Option Attributes) : Forest :=
  f.update n ({ · with attrs := attrs, table := none })

-- Writes into the table that a node has, for all nodes that have it.
def writeAttrs (f : Forest) (n : NodeId) (attrs : Attributes) : Forest :=
  match (f.node n).table with
  | none => f.update n ({ · with attrs := some attrs })
  | some table =>
    let written (node : Node) : Node :=
      if node.table = some table then { node with attrs := some attrs } else node
    { f with nodes := f.nodes.map written }

-- The least number above those of all tables.
def nextTable (f : Forest) : Nat :=
  f.nodes.foldl (fun next node => max next ((node.table.map (· + 1)).getD 0)) 0

-- Gives a node the table of another in place of its own, if both have one at all.
def shareAttrs (f : Forest) (n owner : NodeId) : Forest :=
  if (f.attrs n).isSome && (f.attrs owner).isSome then
    let table := (f.node owner).table.getD f.nextTable
    (f.update owner ({ · with table := some table })).update n
      ({ · with attrs := f.attrs owner, table := some table })
  else f

def note (f : Forest) (entry : Note) : Forest := { f with journal := f.journal.push entry }

@[simp] theorem size_update (f : Forest) (n : NodeId) (change : Node → Node) :
    (f.update n change).size = f.size := by
  simp [size, update]

theorem node_update_same (f : Forest) (n : NodeId) (change : Node → Node) (known : n < f.size) :
    (f.update n change).node n = change (f.node n) := by
  have known : n < f.nodes.size := known
  simp [node, update, known, Array.getElem_modify]

theorem node_update_other (f : Forest) (n m : NodeId) (change : Node → Node) (differs : m ≠ n) :
    (f.update n change).node m = f.node m := by
  simp [node, update, Array.getElem?_modify, Ne.symm differs]

@[simp] theorem alloc_id (f : Forest) (new : Node) : (f.alloc new).1 = f.size := rfl

@[simp] theorem size_alloc (f : Forest) (new : Node) : (f.alloc new).2.size = f.size + 1 := by
  simp [size, alloc]

theorem node_alloc_new (f : Forest) (new : Node) : (f.alloc new).2.node f.size = new := by
  simp [node, alloc, size]

theorem node_alloc_old (f : Forest) (new : Node) (n : NodeId) (known : n < f.size) :
    (f.alloc new).2.node n = f.node n := by
  have known : n < f.nodes.size := known
  simp [node, alloc, Array.getElem?_push, Nat.ne_of_lt known]

@[simp] theorem node_note (f : Forest) (entry : Note) (n : NodeId) :
    (f.note entry).node n = f.node n := rfl

def attributesText : Option Attributes → String
  | none => "None"
  | some attrs => "\x7b" ++ ", ".intercalate (attrs.entries.map fun entry =>
      Text.quoted entry.1 ++ ": " ++ Text.quotedOption entry.2) ++ "\x7d"

-- A one-line summary of a node: its kind, its name and what it holds. An element without a
-- children list has none.
def summaryOf (node : Node) : Option String :=
  match node.kind, node.children with
  | .text, _ =>
    some ("<TextNode " ++ Text.quoted (String.ofList (node.ownText.toList.take 30)) ++ ">")
  | .plain, none =>
    some ("<SimpleDomNode " ++ node.name ++ " " ++ Text.quotedOption node.data ++ ">")
  | .plain, some children =>
    some ("<SimpleDomNode " ++ node.name ++ " children=" ++ toString children.length ++ ">")
  | kind, some children =>
    some ("<" ++ kind.label ++ " " ++ node.name ++ " attrs=" ++ attributesText node.attrs
      ++ " children=" ++ toString children.length ++ ">")
  | _, none => none

def summary (f : Forest) (n : NodeId) : Option String :=
  if f.known n then summaryOf (f.node n) else some "None"

end Forest
end HtmlTree
